import Vigil.Chain

/-!
# Walks through a list

A visitor is shown the items of a list, one after another, until it stops; it may remember things from one
item to the next.  What it is shown and what it remembers then is told here without a loop.

* `memoryAfter`, `GoesOn`, `Visited` — what a visit is;
* `noted` — a visitor that also tells what it was called on;
* `run_visitList` — the walk through a list: what the visitor looks at, what it remembers, how it ends;
* `visitList_append` — a walk through two lists.
-/

namespace Vigil

variable {α ρ : Type}

/-! ## What a visit is -/

/-- What a visitor remembers that has looked at some items, one after another. -/
def memoryAfter (visitor : α → StateM ρ Bool) (m : ρ) (as : List α) : ρ :=
  as.foldl (fun m a => ((visitor a).run m).2) m

/-- When the visitor looks at the items one after another, with what it remembers by then, it goes on at each
of them. -/
def GoesOn (visitor : α → StateM ρ Bool) (m : ρ) (as : List α) : Prop :=
  ∀ front a, front ++ [a] <+: as → ((visitor a).run (memoryAfter visitor m front)).1 = true

/-- In a visit of `as` the visitor looks at `seen`, in order: at all items, if it goes on at each; else at the
items up to and including the first one at which it stops. -/
inductive Visited (visitor : α → StateM ρ Bool) (m : ρ) (as : List α) :
    (seen : List α) → (ended : Bool) → Prop
  | all : GoesOn visitor m as → Visited visitor m as as true
  | upTo {before after : List α} {a : α} : as = before ++ a :: after → GoesOn visitor m before →
      ((visitor a).run (memoryAfter visitor m before)).1 = false →
      Visited visitor m as (before ++ [a]) false

/-- The visitor, and beside its memory the items it was called on so far, which it cannot read. -/
def noted (visitor : α → StateM ρ Bool) (a : α) : StateM (ρ × List α) Bool := fun m =>
  let r := (visitor a).run m.1
  (r.1, r.2, m.2 ++ [a])

theorem GoesOn.nil (visitor : α → StateM ρ Bool) (m : ρ) : GoesOn visitor m [] := fun front a h =>
  absurd (List.prefix_nil.mp h) (List.append_ne_nil_of_right_ne_nil front (List.cons_ne_nil a []))

section

variable {visitor : α → StateM ρ Bool} {m m' : ρ} {a : α} {ok : Bool}

theorem memoryAfter_cons (ha : (visitor a).run m = (ok, m')) (as : List α) :
    memoryAfter visitor m (a :: as) = memoryAfter visitor m' as := by
  rw [memoryAfter, List.foldl_cons, ha, memoryAfter]

theorem run_noted_of_run (ha : (visitor a).run m = (ok, m')) (notes : List α) :
    (noted visitor a).run (m, notes) = (ok, m', notes ++ [a]) := by
  show (((visitor a).run m).1, ((visitor a).run m).2, notes ++ [a]) = _
  rw [ha]

theorem GoesOn.cons {as : List α} (ha : (visitor a).run m = (true, m')) (h : GoesOn visitor m' as) :
    GoesOn visitor m (a :: as) := by
  intro front b hpre
  cases front with
  | nil =>
    obtain ⟨rfl, -⟩ := List.cons_prefix_cons.mp hpre
    exact congrArg Prod.fst ha
  | cons c front =>
    obtain ⟨rfl, htail⟩ := List.cons_prefix_cons.mp hpre
    rw [memoryAfter_cons ha]
    exact h front b htail

/-- Behind an item at which the visitor goes on, a visit is one of the items that follow. -/
theorem Visited.cons {as seen : List α} {ended : Bool} (ha : (visitor a).run m = (true, m'))
    (h : Visited visitor m' as seen ended) : Visited visitor m (a :: as) (a :: seen) ended := by
  cases h with
  | all hall => exact .all (hall.cons ha)
  | upTo hsplit hbefore hstop =>
    refine .upTo (congrArg (a :: ·) hsplit) (hbefore.cons ha) ?_
    rw [memoryAfter_cons ha]
    exact hstop

end

/-! ## The walk through a list -/

section

variable {x y : StateM ρ Bool} {m m' : ρ}

/-- Behind a part that was visited to its end the next part is visited. -/
theorem run_andThen_of_true (h : x.run m = (true, m')) :
    (do if ← x then y else return false : StateM ρ Bool).run m = y.run m' := by
  simp only [StateT.run_bind, h]
  rfl

/-- Behind a part in which the visitor stopped nothing is visited. -/
theorem run_andThen_of_false (h : x.run m = (false, m')) :
    (do if ← x then y else return false : StateM ρ Bool).run m = (false, m') := by
  simp only [StateT.run_bind, h]
  rfl

end

section

variable (visitor : α → StateM ρ Bool)

/-- **A walk through a list is a visit of it**, and the visitor is called on just what it looks at. -/
theorem run_visitList (as : List α) (m : ρ) (notes : List α) :
    ∃ seen ended, Visited visitor m as seen ended ∧
      (visitList visitor as).run m = (ended, memoryAfter visitor m seen) ∧
      (visitList (noted visitor) as).run (m, notes)
        = (ended, memoryAfter visitor m seen, notes ++ seen) := by
  induction as generalizing m notes with
  | nil =>
    refine ⟨[], true, .all (.nil visitor m), rfl, ?_⟩
    rw [List.append_nil]
    rfl
  | cons a as ih =>
    obtain ⟨ok, m', ha⟩ : ∃ ok m', (visitor a).run m = (ok, m') := ⟨_, _, rfl⟩
    have hnoted := run_noted_of_run ha notes
    cases ok with
    | false =>
      have hvisited : Visited visitor m (a :: as) ([] ++ [a]) false :=
        .upTo rfl (.nil visitor m) (congrArg Prod.fst ha)
      have hmemory : memoryAfter visitor m [a] = m' := memoryAfter_cons ha []
      refine ⟨[a], false, hvisited, ?_, ?_⟩
      · rw [hmemory, visitList, run_andThen_of_false ha]
      · rw [hmemory, visitList, run_andThen_of_false hnoted]
    | true =>
      obtain ⟨seen, ended, hvisited, hrun, hrunNoted⟩ := ih m' (notes ++ [a])
      refine ⟨a :: seen, ended, hvisited.cons ha, ?_, ?_⟩
      · rw [memoryAfter_cons ha, visitList, run_andThen_of_true ha, hrun]
      · rw [memoryAfter_cons ha, visitList, run_andThen_of_true hnoted, hrunNoted, List.append_assoc]
        rfl

/-- A walk through two lists is a walk through the first and, unless the visitor stops in it, through the
second. -/
theorem visitList_append (as bs : List α) :
    visitList visitor (as ++ bs)
      = do if ← visitList visitor as then visitList visitor bs else return false := by
  funext m
  show (visitList visitor (as ++ bs)).run m
    = (do if ← visitList visitor as then visitList visitor bs else return false : StateM ρ Bool).run m
  induction as generalizing m with
  | nil => rfl
  | cons a as ih =>
    obtain ⟨ok, m', ha⟩ : ∃ ok m', (visitor a).run m = (ok, m') := ⟨_, _, rfl⟩
    cases ok with
    | false =>
      have hwalk : (visitList visitor (a :: as)).run m = (false, m') := run_andThen_of_false ha
      rw [run_andThen_of_false hwalk]
      exact run_andThen_of_false ha
    | true =>
      rw [List.cons_append, visitList, run_andThen_of_true ha, ih m']
      simp only [StateT.run_bind, visitList, run_andThen_of_true ha]

end

end Vigil
