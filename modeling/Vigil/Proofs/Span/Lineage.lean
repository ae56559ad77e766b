import Vigil.Span
import Mathlib.Data.List.Chain

/-!
# Where spans come from

Spans are made one after another: at the root, inside an earlier one, from an earlier one by giving it other
trace ids, or as a clone.  Ids are drawn in order, so a span always has a larger one than the span it is
inside; clones share an id, and which of them a span was made inside does not matter.  Proved:

* `climbs_path` — going up from a span ends, and comes past its path;
* `isChain_path` — a path leads from each span to one inside it;
* `Ordered.openRoot`, `Ordered.openChild`, `Ordered.give`, `Ordered.clone` — every step keeps the ids in order
  and the trace ids where they should come from, and so every history does (`Created.ordered`);
* `Created.path_rises` — so paths are as they should be, whatever was made.
-/

namespace Vigil.Span

/-! ## Going up -/

/-- Whoever goes up from a place, from each span to its parent until there is none, comes past these spans. -/
inductive Climbs : Option Span → List Span → Prop
  | top : Climbs none []
  | up {s : Span} {passed : List Span} : Climbs s.parent? passed → Climbs (some s) (s :: passed)

/-- The path to a span is the path to its parent, and then the span. -/
theorem path_eq (s : Span) : s.path = pathTo s.parent? ++ [s] := by
  cases s <;> rfl

/-- **Going up ends**, and comes past the spans of the path. -/
theorem climbs_path (s : Span) : Climbs (some s) s.path.reverse := by
  induction s with
  | root id name ids => exact .up .top
  | child p id name ids ih =>
    rw [path, List.reverse_append]
    exact .up ih

/-- There is one way up. -/
theorem Climbs.unique {place : Option Span} {passed passed' : List Span} (h : Climbs place passed)
    (h' : Climbs place passed') : passed = passed' := by
  induction h generalizing passed' with
  | top => cases h' with | top => rfl
  | up _ ih => cases h' with | up h' => rw [ih h']

/-! ## Paths -/

/-- The first span of a path is inside no other. -/
theorem exists_head_path (s : Span) : ∃ r, s.path.head? = some r ∧ r.parent? = none := by
  induction s with
  | root id name ids => exact ⟨_, rfl, rfl⟩
  | child p id name ids ih =>
    obtain ⟨r, hhead, hparent⟩ := ih
    exact ⟨r, by rw [path, List.head?_append, hhead, Option.some_or], hparent⟩

/-- **A path leads from each span to one inside it.** -/
theorem isChain_path (s : Span) : s.path.IsChain fun outer inner => inner.parent? = some outer := by
  induction s with
  | root id name ids => exact .singleton _
  | child p id name ids ih =>
    refine List.isChain_append.mpr ⟨ih, .singleton _, fun outer houter inner hinner => ?_⟩
    rw [getLast?_path] at houter
    obtain rfl := Option.some.inj houter
    obtain rfl := Option.some.inj hinner
    rfl

@[simp] theorem id_withTraceIds (ids : TraceIds) (s : Span) : (s.withTraceIds ids).id = s.id := by
  cases s <;> rfl

@[simp] theorem parent?_withTraceIds (ids : TraceIds) (s : Span) :
    (s.withTraceIds ids).parent? = s.parent? := by
  cases s <;> rfl

@[simp] theorem traceIds_withTraceIds (ids : TraceIds) (s : Span) : (s.withTraceIds ids).traceIds = ids := by
  cases s <;> rfl

/-! ## Ids that rise -/

/-- Along the path of the span the ids rise. -/
def Rises (s : Span) : Prop := s.path.Pairwise fun outer inner => outer.id < inner.id

/-- The ids rise along a path if they rise in front of its last span and that one has the largest. -/
theorem rises_iff {s : Span} : s.Rises ↔
    (pathTo s.parent?).Pairwise (fun outer inner => outer.id < inner.id) ∧
      ∀ outer ∈ pathTo s.parent?, outer.id < s.id := by
  rw [Rises, path_eq, List.pairwise_append]
  simp only [List.pairwise_singleton, true_and, List.mem_singleton, forall_eq]

theorem rises_root (id : UInt64) (name : String) (ids : TraceIds) : (root id name ids).Rises :=
  List.pairwise_singleton _ _

/-- No id on a path that rises is larger than that of the last span. -/
theorem Rises.le_id {s outer : Span} (h : s.Rises) (houter : outer ∈ s.path) : outer.id ≤ s.id := by
  rw [path_eq, List.mem_append, List.mem_singleton] at houter
  rcases houter with houter | rfl
  · exact UInt64.le_of_lt ((rises_iff.mp h).2 outer houter)
  · exact UInt64.le_rfl

theorem Rises.child {p : Span} {id : UInt64} (h : p.Rises) (hid : p.id < id) (name : String)
    (ids : TraceIds) : (child p id name ids).Rises :=
  rises_iff.mpr ⟨h, fun _ houter => UInt64.lt_of_le_of_lt (h.le_id houter) hid⟩

/-- Other trace ids change nothing about the ids on the path. -/
theorem Rises.withTraceIds {s : Span} (h : s.Rises) (ids : TraceIds) : (s.withTraceIds ids).Rises := by
  rw [rises_iff, parent?_withTraceIds, id_withTraceIds]
  exact rises_iff.mp h

/-! ## Histories -/

/-- A span that was made, and the trace ids that it was given since then or that what it is a clone of was
given before, the ones given last at the end. -/
structure Made where
  span : Span
  given : List TraceIds

/-- What can be made when `n` ids have been drawn: the id that is drawn next, and the spans there are.  A span
is made at the root or inside an earlier one, an earlier one is given other trace ids, or cloned. -/
inductive Created : Nat → UInt64 → List Made → Prop
  | start : Created 0 1 []
  | openRoot {n : Nat} {next : UInt64} {ms : List Made} (name : String) : Created n next ms →
      Created (n + 1) ((openRoot name).run next).2 (⟨((openRoot name).run next).1, []⟩ :: ms)
  | openChild {n : Nat} {next : UInt64} {ms : List Made} {p : Made} (name : String) :
      Created n next ms → p ∈ ms →
      Created (n + 1) ((p.span.openChild name).run next).2
        (⟨((p.span.openChild name).run next).1, []⟩ :: ms)
  | give {n : Nat} {next : UInt64} {before after : List Made} {m : Made} (ids : TraceIds) :
      Created n next (before ++ m :: after) →
      Created n next (before ++ ⟨m.span.withTraceIds ids, m.given ++ [ids]⟩ :: after)
  | clone {n : Nat} {next : UInt64} {ms : List Made} {m : Made} :
      Created n next ms → m ∈ ms → Created n next (m :: ms)

/-- The trace ids that a span should have: those given last, else those of its parent, else none. -/
def Made.expected (m : Made) : TraceIds := m.given.getLast?.getD (m.span.parent?.elim .empty traceIds)

/-- When `n` ids have been drawn, the ids are in order and the trace ids are where they should come from. -/
structure Ordered (n : Nat) (next : UInt64) (ms : List Made) : Prop where
  next_eq : next = UInt64.ofNat (n + 1)
  id_le : ∀ m ∈ ms, m.span.id.toNat ≤ n
  rises : ∀ m ∈ ms, m.span.Rises
  traceIds_eq : ∀ m ∈ ms, m.span.traceIds = m.expected

namespace Ordered

variable {n : Nat} {next : UInt64} {ms before after : List Made} {m p : Made}

theorem start : Ordered 0 1 [] where
  next_eq := rfl
  id_le := List.forall_mem_nil _
  rises := List.forall_mem_nil _
  traceIds_eq := List.forall_mem_nil _

/-- The id that is drawn next, as a number. -/
theorem toNat_next (h : Ordered n next ms) (hn : n + 1 < UInt64.size) : next.toNat = n + 1 := by
  rw [h.next_eq, UInt64.toNat_ofNat_of_lt' hn]

/-- A span with the next id can be added, if its ids rise and its trace ids are those of its parent. -/
theorem add (h : Ordered n next ms) (hn : n + 1 < UInt64.size) {s : Span} (hid : s.id = next)
    (hrises : s.Rises) (hids : s.traceIds = s.parent?.elim .empty traceIds) :
    Ordered (n + 1) (next + 1) (⟨s, []⟩ :: ms) where
  next_eq := by
    rw [h.next_eq, UInt64.ofNat_add (n + 1) 1]
    rfl
  id_le := by
    refine List.forall_mem_cons.mpr ⟨?_, fun m hm => Nat.le_succ_of_le (h.id_le m hm)⟩
    rw [hid, h.toNat_next hn]
  rises := List.forall_mem_cons.mpr ⟨hrises, h.rises⟩
  traceIds_eq := List.forall_mem_cons.mpr ⟨hids, h.traceIds_eq⟩

/-- **A span at the root** has nothing in front of it. -/
theorem openRoot (h : Ordered n next ms) (hn : n + 1 < UInt64.size) (name : String) :
    Ordered (n + 1) ((openRoot name).run next).2 (⟨((openRoot name).run next).1, []⟩ :: ms) :=
  h.add hn rfl (rises_root next name .empty) rfl

/-- **A span inside another one** has a larger id, since its own is drawn later. -/
theorem openChild (h : Ordered n next ms) (hn : n + 1 < UInt64.size) (hp : p ∈ ms) (name : String) :
    Ordered (n + 1) ((p.span.openChild name).run next).2
      (⟨((p.span.openChild name).run next).1, []⟩ :: ms) := by
  have hid : p.span.id < next := by
    rw [UInt64.lt_iff_toNat_lt, h.toNat_next hn]
    exact Nat.lt_succ_of_le (h.id_le p hp)
  exact h.add hn rfl ((h.rises p hp).child hid name p.span.traceIds) rfl

/-- **Other trace ids** are those of the span from then on. -/
theorem give (h : Ordered n next (before ++ m :: after)) (ids : TraceIds) :
    Ordered n next (before ++ ⟨m.span.withTraceIds ids, m.given ++ [ids]⟩ :: after) := by
  obtain ⟨hnext, hid, hrises, hids⟩ := h
  simp only [List.forall_mem_append, List.forall_mem_cons] at hid hrises hids
  refine ⟨hnext, ?_, ?_, ?_⟩ <;> simp only [List.forall_mem_append, List.forall_mem_cons]
  · rw [id_withTraceIds]
    exact hid
  · exact ⟨hrises.1, hrises.2.1.withTraceIds ids, hrises.2.2⟩
  · refine ⟨hids.1, ?_, hids.2.2⟩
    rw [traceIds_withTraceIds, Made.expected, List.getLast?_concat, Option.getD_some]

/-- **A clone** is what it is a clone of. -/
theorem clone (h : Ordered n next ms) (hm : m ∈ ms) : Ordered n next (m :: ms) where
  next_eq := h.next_eq
  id_le := List.forall_mem_cons.mpr ⟨h.id_le m hm, h.id_le⟩
  rises := List.forall_mem_cons.mpr ⟨h.rises m hm, h.rises⟩
  traceIds_eq := List.forall_mem_cons.mpr ⟨h.traceIds_eq m hm, h.traceIds_eq⟩

end Ordered

variable {n : Nat} {next : UInt64} {ms : List Made}

/-- **Ids are in order and trace ids are where they should come from**, whatever was made, as long as the
words suffice for the ids. -/
theorem Created.ordered (h : Created n next ms) (hn : n < UInt64.size) : Ordered n next ms := by
  induction h with
  | start => exact .start
  | openRoot name _ ih => exact (ih (Nat.lt_of_succ_lt hn)).openRoot hn name
  | openChild name _ hp ih => exact (ih (Nat.lt_of_succ_lt hn)).openChild hn hp name
  | give ids _ ih => exact (ih hn).give ids
  | clone _ hm ih => exact (ih hn).clone hm

/-- **Paths are well-formed.**  Whatever spans are made, fewer than there are words: going up from any of them
ends, and what is passed is its path from the end; the path has the span itself at its end and a span inside
no other one at its beginning, each of its spans is the parent of the next, and the ids rise along it; and the
trace ids of the span are those that it was given last, or what it is a clone of, else those of its parent,
else none. -/
theorem Created.path_rises (h : Created n next ms) (hn : n < UInt64.size) {m : Made} (hm : m ∈ ms) :
    let path := pathTo (some m.span)
    (∀ passed, Climbs (some m.span) passed ↔ passed = path.reverse) ∧
    path.getLast? = some m.span ∧ (∃ r, path.head? = some r ∧ r.parent? = none) ∧
    (path.IsChain fun outer inner => inner.parent? = some outer) ∧
    (path.Pairwise fun outer inner => outer.id < inner.id) ∧
    m.span.traceIds = m.given.getLast?.getD (m.span.parent?.elim .empty traceIds) := by
  have hordered := h.ordered hn
  refine ⟨fun passed => ⟨fun hpassed => ?_, ?_⟩, m.span.getLast?_path, m.span.exists_head_path,
    m.span.isChain_path, hordered.rises m hm, hordered.traceIds_eq m hm⟩
  · exact hpassed.unique m.span.climbs_path
  · rintro rfl
    exact m.span.climbs_path

/-- A span is given trace ids and cloned, the clone is given others, and a span is made inside the first one
and one inside that. -/
theorem Created.path_rises_of_clones :
    let ids (text : String) : TraceIds := ⟨[⟨1, [⟨text⟩]⟩], 1⟩
    let outer : Made := ⟨root 1 "request" (ids "a"), [ids "a"]⟩
    let clone : Made := ⟨root 1 "request" (ids "b"), [ids "a", ids "b"]⟩
    let inner : Made := ⟨child outer.span 2 "db" (ids "a"), []⟩
    let innermost : Made := ⟨child inner.span 3 "query" (ids "a"), []⟩
    Created 3 4 [innermost, inner, clone, outer] ∧ 3 < UInt64.size ∧
      Climbs (some innermost.span) [innermost.span, inner.span, outer.span] ∧
      innermost.span.traceIds = inner.span.traceIds ∧ inner.span.traceIds = outer.span.traceIds ∧
      clone.span.traceIds = ids "b" := by
  intro ids outer clone inner innermost
  have hroot : Created 1 2 [⟨root 1 "request" .empty, []⟩] := .openRoot "request" .start
  have houter : Created 1 2 [outer] := @Created.give 1 2 [] [] _ (ids "a") hroot
  have hclone : Created 1 2 [clone, outer] :=
    @Created.give 1 2 [] [outer] _ (ids "b") (.clone houter List.mem_cons_self)
  have hinner : Created 2 3 [inner, clone, outer] :=
    .openChild "db" hclone (List.mem_cons_of_mem _ List.mem_cons_self)
  have h : Created 3 4 [innermost, inner, clone, outer] := .openChild "query" hinner List.mem_cons_self
  have hn : 3 < UInt64.size := by decide
  have hmem : ∀ m ∈ [innermost, inner, clone], m ∈ [innermost, inner, clone, outer] := by simp
  have hinnermost := h.path_rises hn (hmem innermost (by simp))
  have hinner' := h.path_rises hn (hmem inner (by simp))
  have hclone' := h.path_rises hn (hmem clone (by simp))
  exact ⟨h, hn, (hinnermost.1 _).mpr rfl, hinnermost.2.2.2.2.2, hinner'.2.2.2.2.2, hclone'.2.2.2.2.2⟩

end Vigil.Span
