import Vigil.Chain

/-!
# How chains grow

Every operation that makes a chain either hands on one that is there or lays a link on top of one, under a
mark that has just been drawn.  So in every chain the marks decrease from the newest link down, no link is
empty, and the count is right (`Chain.Sound`); and a chain that was made from another by laying links on
top still ends in the links of that other one, where its newest mark is found.

* `Sound.extend`, `Sound.mono` — growing keeps a chain sound;
* `Grown` — all that is known of a chain and one that was made by laying links on top of it;
* `Sound.size_eq_zero_iff` — a sound chain counts nothing exactly when it has no link;
* `toList_above_append` — what was laid on top of a chain, and the chain below it;
* `above_of_not_ancestor` — on top of a chain that is no part of it, all of a chain was laid.
-/

namespace Vigil.Chain

variable {α : Type}

/-! ## Laying a link on top -/

theorem run_extend_cons (c : Chain α) (a : α) (as : List α) (s : Supply) :
    (c.extend (a :: as)).run s
      = ({ links := ⟨s.next, a :: as⟩ :: c.links, size := c.size + (a :: as).length }, ⟨s.next + 1⟩) :=
  rfl

theorem size_extend (c : Chain α) (batch : List α) (s : Supply) :
    ((c.extend batch).run s).1.size = c.size + batch.length := by
  cases batch with
  | nil => rfl
  | cons a as => rfl

theorem size_pushEach (c : Chain α) (as : List α) (s : Supply) :
    ((c.pushEach as).run s).1.size = c.size + as.length := by
  induction as generalizing c s with
  | nil => rfl
  | cons a as ih =>
    show ((((c.push a).run s).1.pushEach as).run ((c.push a).run s).2).1.size = _
    rw [ih, push, size_extend]
    simp only [List.length_cons, List.length_nil]
    omega

/-! ## Sound chains -/

/-- The chain can have been made by the time the marks of `s` are the next ones. -/
structure Sound (s : Supply) (c : Chain α) : Prop where
  /-- No link is empty. -/
  batch_ne_nil : ∀ l ∈ c.links, l.batch ≠ []
  /-- The count is right. -/
  size_eq : c.size = c.toList.length
  /-- A link has a larger mark than those below it. -/
  sorted : c.links.Pairwise fun l below => below.mark < l.mark
  /-- All marks have been drawn. -/
  mark_lt : ∀ l ∈ c.links, l.mark < s.next

namespace Sound

variable {s s' : Supply} {c : Chain α}

theorem empty (s : Supply) : Sound s (Chain.empty : Chain α) where
  batch_ne_nil := List.forall_mem_nil _
  size_eq := rfl
  sorted := .nil
  mark_lt := List.forall_mem_nil _

theorem mono (h : Sound s c) (hs : s.next ≤ s'.next) : Sound s' c where
  batch_ne_nil := h.batch_ne_nil
  size_eq := h.size_eq
  sorted := h.sorted
  mark_lt l hl := Nat.lt_of_lt_of_le (h.mark_lt l hl) hs

/-- **Growing keeps a chain sound.** -/
theorem extend (h : Sound s c) (batch : List α) :
    Sound ((c.extend batch).run s).2 ((c.extend batch).run s).1 := by
  have hsize : ((c.extend batch).run s).1.size = ((c.extend batch).run s).1.toList.length := by
    rw [size_extend, toList_extend, List.length_append, List.length_reverse, h.size_eq, Nat.add_comm]
  cases batch with
  | nil => exact h
  | cons a as =>
    rw [run_extend_cons] at hsize ⊢
    refine ⟨?_, hsize, ?_, ?_⟩
    · exact List.forall_mem_cons.mpr ⟨List.cons_ne_nil a as, h.batch_ne_nil⟩
    · -- the mark is the next one, and all others have been drawn
      exact List.pairwise_cons.mpr ⟨h.mark_lt, h.sorted⟩
    · refine List.forall_mem_cons.mpr ⟨Nat.lt_succ_self _, fun l hl => ?_⟩
      exact Nat.lt_succ_of_lt (h.mark_lt l hl)

theorem toList_eq_nil_iff (h : Sound s c) : c.toList = [] ↔ c.links = [] := by
  rw [toList, List.flatMap_eq_nil_iff]
  constructor
  · intro hnil
    refine List.eq_nil_iff_forall_not_mem.mpr fun l hl => ?_
    exact h.batch_ne_nil l hl (List.reverse_eq_nil_iff.mp (hnil l hl))
  · intro hlinks l hl
    rw [hlinks] at hl
    exact absurd hl List.not_mem_nil

/-- **A sound chain counts nothing exactly when it has no link.** -/
theorem size_eq_zero_iff (h : Sound s c) : c.size = 0 ↔ c.links = [] := by
  rw [h.size_eq, List.length_eq_zero_iff, h.toList_eq_nil_iff]

end Sound

/-! ## Growing step by step -/

/-- By laying links on top, with the marks from `s` on, the chain `c` has become `d`, and the marks of
`s'` are left. -/
structure Grown (s : Supply) (c : Chain α) (s' : Supply) (d : Chain α) : Prop where
  next_le : s.next ≤ s'.next
  suffix : c.links <:+ d.links
  size_le : c.size ≤ d.size
  sound : Sound s c → Sound s' d

namespace Grown

variable {s s' s'' : Supply} {c d e : Chain α}

theorem wait (c : Chain α) (hs : s.next ≤ s'.next) : Grown s c s' c :=
  ⟨hs, List.suffix_rfl, Nat.le_refl _, fun h => h.mono hs⟩

theorem refl (s : Supply) (c : Chain α) : Grown s c s c := wait c (Nat.le_refl _)

theorem trans (h : Grown s c s' d) (h' : Grown s' d s'' e) : Grown s c s'' e where
  next_le := Nat.le_trans h.next_le h'.next_le
  suffix := h.suffix.trans h'.suffix
  size_le := Nat.le_trans h.size_le h'.size_le
  sound hc := h'.sound (h.sound hc)

theorem extend (s : Supply) (c : Chain α) (batch : List α) :
    Grown s c ((c.extend batch).run s).2 ((c.extend batch).run s).1 := by
  refine ⟨?_, ?_, ?_, fun h => h.extend batch⟩
  · cases batch with
    | nil => exact Nat.le_refl _
    | cons a as => exact Nat.le_succ _
  · cases batch with
    | nil => exact List.suffix_rfl
    | cons a as => exact List.suffix_cons _ _
  · rw [size_extend]
    exact Nat.le_add_right _ _

theorem pushEach (s : Supply) (c : Chain α) (as : List α) :
    Grown s c ((c.pushEach as).run s).2 ((c.pushEach as).run s).1 := by
  induction as generalizing s c with
  | nil => exact refl s c
  | cons a as ih => exact (extend s c [a]).trans (ih _ _)

end Grown

/-! ## What was laid on top -/

/-- The newest link of `base` is one of `c`. -/
def AncestorOf (base c : Chain α) : Prop :=
  ∃ stop below, base.links = stop :: below ∧ ∃ l ∈ c.links, l.mark = stop.mark

theorem toList_rebuild (ls : List (Link α)) (s : Supply) :
    ((rebuild ls).run s).1.toList = ls.flatMap fun l => l.batch.reverse := by
  induction ls with
  | nil => rfl
  | cons l ls ih =>
    show ((((rebuild ls).run s).1.extend l.batch).run ((rebuild ls).run s).2).1.toList = _
    rw [toList_extend, ih, List.flatMap_cons]

theorem linksAbove?_append {added below : List (Link α)} {stop : Link α}
    (h : ∀ l ∈ added, l.mark ≠ stop.mark) :
    linksAbove? stop.mark (added ++ stop :: below) = some added := by
  induction added with
  | nil => simp [linksAbove?]
  | cons l added ih =>
    obtain ⟨hl, hadded⟩ := List.forall_mem_cons.mp h
    rw [List.cons_append, linksAbove?, if_neg hl, ih hadded]
    rfl

theorem linksAbove?_eq_none {stop : Mark} {ls : List (Link α)} (h : ∀ l ∈ ls, l.mark ≠ stop) :
    linksAbove? stop ls = none := by
  induction ls with
  | nil => rfl
  | cons l ls ih =>
    obtain ⟨hl, hls⟩ := List.forall_mem_cons.mp h
    rw [linksAbove?, if_neg hl, ih hls]
    rfl

/-- On top of a chain that is no ancestor of it all of a chain was laid. -/
theorem above_of_not_ancestor {c base : Chain α} (h : ¬base.AncestorOf c) : c.above base = pure c := by
  obtain ⟨_ | ⟨stop, below⟩, size⟩ := base
  · rfl
  · have hmark : ∀ l ∈ c.links, l.mark ≠ stop.mark :=
      fun l hl heq => h ⟨stop, below, rfl, l, hl, heq⟩
    simp only [above, linksAbove?_eq_none hmark, ite_self]

/-- **What was laid on top of a chain, with the chain below it, is all there is.** -/
theorem toList_above_append {s : Supply} {c base : Chain α} (hc : Sound s c) (hbase : Sound s base)
    (h : base.links <:+ c.links) (s' : Supply) :
    ((c.above base).run s').1.toList ++ base.toList = c.toList := by
  obtain ⟨added, hlinks⟩ := h
  have hsplit : c.toList = (added.flatMap fun l => l.batch.reverse) ++ base.toList := by
    rw [toList, ← hlinks, List.flatMap_append, toList]
  have hsize : ¬c.size < base.size := by
    rw [hc.size_eq, hbase.size_eq, hsplit, List.length_append]
    omega
  obtain ⟨_ | ⟨stop, below⟩, size⟩ := base
  · exact List.append_nil c.toList
  · -- every link above has a larger mark, so the newest one of `base` is found where `base` begins
    have hmark : ∀ l ∈ added, l.mark ≠ stop.mark := by
      intro l hl
      have hsorted := hc.sorted
      rw [← hlinks] at hsorted
      have hlt := (List.pairwise_append.mp hsorted).2.2 l hl stop List.mem_cons_self
      exact Nat.ne_of_gt hlt
    have habove : c.above ⟨stop :: below, size⟩ = rebuild added := by
      simp only [above, if_neg hsize, ← hlinks, linksAbove?_append hmark]
    rw [habove, toList_rebuild, hsplit]

end Vigil.Chain
