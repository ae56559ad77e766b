import Vigil.Source
import Vigil.Proofs.Chain.Family
import Vigil.Proofs.Chain.Visits
import Vigil.Proofs.Kit.Deriving

/-!
# Visiting fields in order

Each kind of source has its own way to visit its fields: a field is handed over, a list or an array is gone
through, a chain and the chain of a kit are read one item at a time, of two sources the second is visited when
the first was visited to its end, and a source that is lent hands the visitor on.  All of them do what a walk through one list does, the list of the fields of
the source (`visit_eq`).  Proved:

* `Chain.visit_eq`, `visit_eq` — a visit of a chain and of any source is such a walk;
* `toList_eq`, `get?_eq` — what the two visits that ask for something give;
* `Made.visits_in_order` — so every source, however it is put together, keeps its contract.
-/

namespace Vigil

variable {α ρ : Type}

/-! ## Reading a chain -/

namespace Chain

namespace Cursor

theorem rest_of_next?_eq_none {c : Cursor α} (h : c.next? = none) : c.rest = [] := by
  have hrest := restFrom_eq c.links c.left c.left_le
  rw [show nextFrom c.links c.left c.left_le = none from h] at hrest
  exact hrest

theorem rest_of_next?_eq_some {c next : Cursor α} {a : α} (h : c.next? = some (a, next)) :
    c.rest = a :: next.rest := by
  have hrest := restFrom_eq c.links c.left c.left_le
  rw [show nextFrom c.links c.left c.left_le = some (a, next) from h] at hrest
  exact hrest

/-- **Reading on from a place in a chain is a walk through the items that are still to come.** -/
theorem visit_eq (visitor : α → StateM ρ Bool) (c : Cursor α) :
    c.visit visitor = visitList visitor c.rest := by
  fun_induction visit visitor c with
  | case1 c h =>
    rw [rest_of_next?_eq_none h]
    rfl
  | case2 c a next h ih =>
    rw [rest_of_next?_eq_some h, ih]
    rfl

end Cursor

/-- **A visit of a chain is a walk through its list.** -/
theorem visit_eq (visitor : α → StateM ρ Bool) (c : Chain α) :
    c.visit visitor = visitList visitor c.toList := by
  have hrest : c.cursor.rest = c.toList := Cursor.restFrom_newestSize c.links
  rw [visit, Cursor.visit_eq, hrest]

end Chain

namespace Source

variable {σ : Type}

/-! ## What the sources hold -/

/-- The fields of a source: of two sources, those of the first and then those of the second. -/
def fields : Source σ → List Field
  | field f => [f]
  | list fs => fs
  | array fs => fs.toList
  | chain c => c.toList
  | kit k => k.fields.toList
  | both a b => a.fields ++ b.fields
  | lent s => s.fields

/-- **A visit of a source is a walk through its fields**, whatever it is put together from. -/
theorem visit_eq (visitor : Field → StateM ρ Bool) (s : Source σ) :
    s.visit visitor = visitList visitor s.fields := by
  induction s with
  | field f =>
    funext m
    obtain ⟨ok, m', hf⟩ : ∃ ok m', (visitor f).run m = (ok, m') := ⟨_, _, rfl⟩
    cases ok with
    | false => exact hf.trans (run_andThen_of_false hf).symm
    | true => exact hf.trans (run_andThen_of_true hf).symm
  | list fs | array fs => rfl
  | chain c => exact c.visit_eq visitor
  | kit k => exact k.fields.visit_eq visitor
  | both a b iha ihb => rw [visit, iha, ihb, fields, visitList_append]
  | lent s ih => exact ih

/-- All fields are listed: whoever lists them never stops. -/
theorem toList_eq (s : Source σ) : s.toList = s.fields := by
  obtain ⟨seen, ended, hvisited, hrun, -⟩ := run_visitList
    (fun f : Field => do
      modify (f :: ·)
      return true) s.fields ([] : List Field) []
  rw [toList, visit_eq, hrun]
  cases hvisited with
  | all _ =>
    show (s.fields.foldl (fun back f => f :: back) []).reverse = s.fields
    rw [List.foldl_flip_cons_eq_append', List.append_nil, List.reverse_reverse]
  | upTo _ _ hstop => cases hstop

/-- Whoever looks for a key stops at the first field that has it. -/
theorem run_visitList_find (key : String) (fs : List Field) :
    ((visitList (fun f => do
        if f.key = key then
          set (some f.value)
          return false
        else return true : Field → StateM (Option Value) Bool) fs).run none).2
      = (fs.find? fun f => f.key = key).map Field.value := by
  induction fs with
  | nil => rfl
  | cons f fs ih =>
    by_cases hkey : f.key = key
    · rw [List.find?_cons_of_pos (by simpa using hkey)]
      refine congrArg Prod.snd (run_andThen_of_false ?_)
      simp only [if_pos hkey]
      rfl
    · rw [List.find?_cons_of_neg (by simpa using hkey)]
      refine (congrArg Prod.snd (run_andThen_of_true ?_)).trans ih
      simp only [if_neg hkey]
      rfl

theorem get?_eq (s : Source σ) (key : String) :
    s.get? key = (s.fields.find? fun f => f.key = key).map Field.value := by
  rw [get?, visit_eq, run_visitList_find]

/-! ## Sources that can be put together -/

/-- The sources that can be put together from fields, lists, arrays, chains of any family, kits derived from the
empty one, and other such sources. -/
inductive Made : Source σ → Prop
  | field (f : Field) : Made (field f)
  | list (fs : List Field) : Made (list fs)
  | array (fs : Array Field) : Made (array fs)
  | chain {s : Supply} {cs : List (Chain Field)} {c : Chain Field} :
      Chain.Made s cs → c ∈ cs → Made (chain c)
  | kit {s s' : Supply} {k : Kit σ} : Kit.Derived .empty s k s' → Made (kit k)
  | both {a b : Source σ} : Made a → Made b → Made (both a b)
  | lent {s : Source σ} : Made s → Made (lent s)

/-- The size, for which nothing is visited, is right. -/
theorem Made.size_eq {s : Source σ} (h : s.Made) : s.size = s.fields.length := by
  induction h with
  | field f => rfl
  | list fs | array fs => rfl
  | chain hmade hc => exact (hmade.coherent.sound _ hc).size_eq
  | kit hk => exact hk.sound_fields.size_eq
  | both _ _ iha ihb => rw [size, iha, ihb, fields, List.length_append]
  | lent _ ih => exact ih

/-- **Every source keeps the contract of sources.**  A visit, whatever the visitor remembers, calls it on the
fields of the list of the source, in order, up to and including the first one at which it stops and on none
behind, hands its memory on from call to call, and ends with whether it never stopped; the size is the length
of the list; the list of two sources is the list of the first with that of the second behind it; and a key
leads to the value of the first field of the list that has it. -/
theorem Made.visits_in_order {s : Source σ} (h : s.Made) :
    (∀ {ρ : Type} (visitor : Field → StateM ρ Bool) (m : ρ), ∃ seen ended,
      Visited visitor m s.toList seen ended ∧
      (s.visit visitor).run m = (ended, memoryAfter visitor m seen) ∧
      (s.visit (noted visitor)).run (m, []) = (ended, memoryAfter visitor m seen, seen)) ∧
    s.toList = s.fields ∧ s.size = s.toList.length ∧
    (∀ b : Source σ, (Source.both s b).toList = s.toList ++ b.toList) ∧
    ∀ key, s.get? key = (s.toList.find? fun f => f.key = key).map Field.value := by
  refine ⟨fun visitor m => ?_, s.toList_eq, ?_, fun b => ?_, fun key => ?_⟩
  · obtain ⟨seen, ended, hvisited, hrun, hnoted⟩ := run_visitList visitor s.fields m []
    rw [toList_eq, visit_eq, visit_eq]
    exact ⟨seen, ended, hvisited, hrun, hnoted⟩
  · rw [toList_eq, h.size_eq]
  · rw [toList_eq, toList_eq, toList_eq, fields]
  · rw [toList_eq, get?_eq]

/-- Two fields under one key, in a chain and in a kit behind it, and a field in between, at which the visitor
stops. -/
theorem Made.visits_in_order_of_three :
    let older : Field := { key := "user", value := .nat 1 }
    let newer : Field := { key := "user", value := .nat 2 }
    let alone : Field := { key := "try", value := .nat 3 }
    let s : Source Unit := .both (.both (.chain ⟨[⟨4, [newer]⟩], 1⟩) (.field alone))
      (.kit { fields := ⟨[⟨7, [older]⟩], 1⟩ })
    s.Made ∧ s.toList = [newer, alone, older] ∧ s.size = 3 ∧ s.get? "user" = some (.nat 2) ∧
      ∃ seen ended, Visited (stopAt (some 2)) #[] [newer, alone, older] seen ended ∧
        (s.visit (stopAt (some 2))).run #[] = (ended, memoryAfter (stopAt (some 2)) #[] seen) := by
  intro older newer alone s
  have hchain : Chain.Made ⟨5⟩ [⟨[⟨4, [newer]⟩], 1⟩] := .step (.start ⟨4⟩) (.ofBatch [newer])
  have hkit : Kit.Derived .empty ⟨7⟩ { fields := ⟨[⟨7, [older]⟩], 1⟩ : Kit Unit } ⟨8⟩ :=
    .step .refl (.field older)
  have hs : s.Made := .both (.both (.chain hchain List.mem_cons_self) (.field alone)) (.kit hkit)
  obtain ⟨hvisit, hlist, hsize, -, hget⟩ := hs.visits_in_order
  refine ⟨hs, hlist, ?_, ?_, ?_⟩
  · rw [hsize, hlist]
    rfl
  · rw [hget, hlist]
    rfl
  · obtain ⟨seen, ended, hvisited, hrun, -⟩ := hvisit (stopAt (some 2)) #[]
    rw [hlist] at hvisited
    exact ⟨seen, ended, hvisited, hrun⟩

end Source

end Vigil
