import Vigil.Proofs.Chain.Growth

/-!
# Families of chains

Chains are made from earlier ones and share links with them.  What tells a link from all others is its
mark, so a family of chains hangs together when a mark leads the same links wherever it is found
(`Coherent`).  Proved:

* `Cursor.take_cursor` — reading a chain one item at a time gives its list;
* `Coherent.step` — a family stays coherent when one more chain is made from its chains;
* `Made.refines_lists` — so all chains of a family act as their lists: each operation gives the list that
  it should, the count is the length of the list, and chains with the same newest link have the same
  list.
-/

namespace Vigil.Chain

variable {α : Type}

/-! ## Reading one item at a time -/

namespace Cursor

/-- The items that are still to come, when `left` of them are in the first link. -/
def restFrom : List (Link α) → Nat → List α
  | [], _ => []
  | l :: ls, left => (l.batch.take left).reverse ++ ls.flatMap fun l => l.batch.reverse

/-- The items that are still to come. -/
def rest (c : Cursor α) : List α := restFrom c.links c.left

theorem restFrom_newestSize (links : List (Link α)) :
    restFrom links (newestSize links) = links.flatMap fun l => l.batch.reverse := by
  cases links with
  | nil => rfl
  | cons l ls => rw [restFrom, newestSize, List.take_length, List.flatMap_cons]

theorem restFrom_eq (links : List (Link α)) (left : Nat) (h : left ≤ newestSize links) :
    restFrom links left
      = match nextFrom links left h with
        | none => []
        | some (a, c) => a :: c.rest := by
  induction links generalizing left with
  | nil => rfl
  | cons l ls ih =>
    cases left with
    | zero =>
      -- nothing is left of this link: what is to come is what the links below hold
      rw [nextFrom, ← ih (newestSize ls) (Nat.le_refl _), restFrom_newestSize]
      rfl
    | succ left =>
      have hlt : left < l.batch.length := h
      show (l.batch.take (left + 1)).reverse ++ _ = l.batch[left] :: restFrom (l :: ls) left
      rw [List.take_succ_eq_append_getElem hlt, List.reverse_append]
      rfl

theorem take_eq (n : Nat) (c : Cursor α) : c.take n = c.rest.take n := by
  induction n generalizing c with
  | zero => rfl
  | succ n ih =>
    rw [take, next?, rest, restFrom_eq _ _ c.left_le]
    cases nextFrom c.links c.left c.left_le with
    | none => rfl
    | some p => exact congrArg (p.1 :: ·) (ih p.2)

/-- **Reading a chain one item at a time gives its list**, newest first. -/
theorem take_cursor (n : Nat) (c : Chain α) : c.cursor.take n = c.toList.take n := by
  rw [take_eq]
  exact congrArg (List.take n) (restFrom_newestSize c.links)

end Cursor

/-! ## Coherent families -/

/-- A chain of the family ends in the links. -/
def Holds (cs : List (Chain α)) (ls : List (Link α)) : Prop := ∃ c ∈ cs, ls <:+ c.links

theorem holds_cons_iff {cs : List (Chain α)} {c : Chain α} {ls : List (Link α)} :
    Holds (c :: cs) ls ↔ ls <:+ c.links ∨ Holds cs ls := by
  simp only [Holds, List.mem_cons, exists_eq_or_imp]

/-- The chains can have been made from one another by the time the marks of `s` are the next ones. -/
structure Coherent (s : Supply) (cs : List (Chain α)) : Prop where
  sound : ∀ c ∈ cs, Sound s c
  /-- A mark leads the same links wherever it is found. -/
  agree : ∀ l ls m ms, Holds cs (l :: ls) → Holds cs (m :: ms) → l.mark = m.mark → l :: ls = m :: ms

namespace Coherent

variable {s s' : Supply} {cs ds : List (Chain α)} {c d : Chain α}

theorem nil (s : Supply) : Coherent s ([] : List (Chain α)) :=
  ⟨List.forall_mem_nil _, fun _ _ _ _ ⟨_, hc, _⟩ => absurd hc List.not_mem_nil⟩

theorem mono (h : Coherent s cs) (hs : s.next ≤ s'.next) : Coherent s' cs :=
  ⟨fun c hc => (h.sound c hc).mono hs, h.agree⟩

theorem subset (h : Coherent s cs) (hsub : ∀ d ∈ ds, d ∈ cs) : Coherent s ds := by
  have hholds : ∀ ls, Holds ds ls → Holds cs ls := fun _ ⟨d, hd, hsuf⟩ => ⟨d, hsub d hd, hsuf⟩
  refine ⟨fun d hd => h.sound d (hsub d hd), fun l ls m ms hl hm => ?_⟩
  exact h.agree l ls m ms (hholds _ hl) (hholds _ hm)

theorem cons_of_mem (h : Coherent s cs) (hc : c ∈ cs) : Coherent s (c :: cs) :=
  h.subset (List.forall_mem_cons.mpr ⟨hc, fun _ hd => hd⟩)

/-- The chain next to the last one made need not be kept. -/
theorem forget (h : Coherent s (c :: d :: cs)) : Coherent s (c :: cs) := by
  refine h.subset (List.forall_mem_cons.mpr ⟨List.mem_cons_self, fun x hx => ?_⟩)
  exact List.mem_cons_of_mem _ (List.mem_cons_of_mem _ hx)

theorem cons_empty (h : Coherent s cs) : Coherent s (empty :: cs) := by
  have hheld : ∀ l ls, Holds (empty :: cs) (l :: ls) → Holds cs (l :: ls) := by
    intro l ls hl
    refine (holds_cons_iff.mp hl).resolve_left fun hsuf => ?_
    exact absurd (List.suffix_nil.mp hsuf) (List.cons_ne_nil l ls)
  refine ⟨List.forall_mem_cons.mpr ⟨.empty s, h.sound⟩, fun l ls m ms hl hm => ?_⟩
  exact h.agree l ls m ms (hheld l ls hl) (hheld m ms hm)

theorem mark_lt {m : Link α} {ms : List (Link α)} (h : Coherent s cs) (hm : Holds cs (m :: ms)) :
    m.mark < s.next := by
  obtain ⟨d, hd, hsuf⟩ := hm
  exact (h.sound d hd).mark_lt m (hsuf.subset List.mem_cons_self)

/-- A chain whose newest link is found in another one is all that the other one holds from there on. -/
theorem suffix_of_ancestorOf {base : Chain α} (h : Coherent s cs) (hc : c ∈ cs) (hbase : base ∈ cs)
    (hanc : base.AncestorOf c) : base.links <:+ c.links := by
  obtain ⟨stop, below, hlinks, l, hl, hmark⟩ := hanc
  obtain ⟨above, ls, hsplit⟩ := List.append_of_mem hl
  have hsuf : l :: ls <:+ c.links := ⟨above, hsplit.symm⟩
  have hsame : l :: ls = stop :: below :=
    h.agree l ls stop below ⟨c, hc, hsuf⟩ ⟨base, hbase, hlinks ▸ List.suffix_rfl⟩ hmark
  rw [hlinks, ← hsame]
  exact hsuf

/-- **Laying a batch on top of a chain of a family** keeps the family coherent. -/
theorem extend (h : Coherent s cs) (hc : c ∈ cs) (batch : List α) :
    Coherent ((c.extend batch).run s).2 (((c.extend batch).run s).1 :: cs) := by
  have hsound : ∀ x ∈ ((c.extend batch).run s).1 :: cs, Sound ((c.extend batch).run s).2 x :=
    List.forall_mem_cons.mpr ⟨(h.sound c hc).extend batch,
      fun d hd => (h.sound d hd).mono (Grown.extend s c batch).next_le⟩
  refine ⟨hsound, ?_⟩
  cases batch with
  | nil => exact (h.cons_of_mem hc).agree
  | cons a as =>
    rw [run_extend_cons]
    -- links that are held are those of the new chain, or they were held before
    have hheld : ∀ m ms,
        Holds (⟨⟨s.next, a :: as⟩ :: c.links, c.size + (a :: as).length⟩ :: cs) (m :: ms) →
        m :: ms = ⟨s.next, a :: as⟩ :: c.links ∨ Holds cs (m :: ms) := by
      intro m ms hm
      rcases holds_cons_iff.mp hm with hsuf | hm
      · exact (List.suffix_cons_iff.mp hsuf).imp_right fun hsuf => ⟨c, hc, hsuf⟩
      · exact .inr hm
    intro l ls m ms hl hm heq
    rcases hheld l ls hl with hnew | hl <;> rcases hheld m ms hm with hnew' | hm
    · rw [hnew, hnew']
    · obtain ⟨rfl, -⟩ := List.cons.inj hnew
      exact absurd heq (Nat.ne_of_gt (h.mark_lt hm))
    · obtain ⟨rfl, -⟩ := List.cons.inj hnew'
      exact absurd heq (Nat.ne_of_lt (h.mark_lt hl))
    · exact h.agree l ls m ms hl hm heq

theorem rebuild (h : Coherent s cs) (ls : List (Link α)) :
    Coherent ((Chain.rebuild ls).run s).2 (((Chain.rebuild ls).run s).1 :: cs) := by
  induction ls with
  | nil => exact h.cons_empty
  | cons l ls ih => exact (ih.extend List.mem_cons_self l.batch).forget

theorem overlay (h : Coherent s cs) (hc : c ∈ cs) (hd : d ∈ cs) :
    Coherent ((c.overlay d).run s).2 (((c.overlay d).run s).1 :: cs) := by
  unfold Chain.overlay
  split
  · exact h.cons_of_mem hd
  · exact h.extend hc _

theorem above (h : Coherent s cs) (hc : c ∈ cs) :
    Coherent ((c.above d).run s).2 (((c.above d).run s).1 :: cs) := by
  unfold Chain.above
  split
  · exact h.cons_of_mem hc
  · split
    · exact h.cons_of_mem hc
    · split
      · exact h.cons_of_mem hc
      · exact h.rebuild _

end Coherent

/-! ## Making chains from earlier ones -/

/-- The ways to make a chain, from the chains there are. -/
inductive Step (cs : List (Chain α)) : Fresh (Chain α) → Prop
  | empty : Step cs (pure .empty)
  | ofBatch (batch : List α) : Step cs (ofBatch batch)
  | push {c : Chain α} : c ∈ cs → (a : α) → Step cs (c.push a)
  | extend {c : Chain α} : c ∈ cs → (batch : List α) → Step cs (c.extend batch)
  | overlay {c newer : Chain α} : c ∈ cs → newer ∈ cs → Step cs (c.overlay newer)
  | above {c base : Chain α} : c ∈ cs → base ∈ cs → Step cs (c.above base)

/-- The families that can be made, one chain after another, and the marks that are left then.  Between two
chains marks may be drawn for other things. -/
inductive Made : Supply → List (Chain α) → Prop
  | start (s : Supply) : Made s []
  | wait {s s' : Supply} {cs : List (Chain α)} : Made s cs → s.next ≤ s'.next → Made s' cs
  | step {s : Supply} {cs : List (Chain α)} {x : Fresh (Chain α)} :
      Made s cs → Step cs x → Made (x.run s).2 ((x.run s).1 :: cs)

variable {s : Supply} {cs : List (Chain α)}

/-- **One more chain keeps a family coherent.** -/
theorem Coherent.step {x : Fresh (Chain α)} (h : Coherent s cs) (hx : Step cs x) :
    Coherent (x.run s).2 ((x.run s).1 :: cs) := by
  cases hx with
  | empty => exact h.cons_empty
  | ofBatch batch => exact (h.cons_empty.extend List.mem_cons_self batch).forget
  | push hc a => exact h.extend hc [a]
  | extend hc batch => exact h.extend hc batch
  | overlay hc hnewer => exact h.overlay hc hnewer
  | above hc hbase => exact h.above hc

theorem Made.coherent (h : Made s cs) : Coherent s cs := by
  induction h with
  | start s => exact .nil s
  | wait _ hs ih => exact ih.mono hs
  | step _ hx ih => exact ih.step hx

/-- Chains of a family with the same newest link are the same, or neither has a link. -/
theorem Coherent.links_eq_of_sameHead {c d : Chain α} (h : Coherent s cs) (hc : c ∈ cs) (hd : d ∈ cs)
    (hsame : c.sameHead d = true) : c.links = d.links := by
  have hheld : Holds cs c.links ∧ Holds cs d.links :=
    ⟨⟨c, hc, List.suffix_rfl⟩, ⟨d, hd, List.suffix_rfl⟩⟩
  obtain ⟨_ | ⟨l, ls⟩, n⟩ := c <;> obtain ⟨_ | ⟨m, ms⟩, k⟩ := d
  · rfl
  · exact absurd hsame Bool.false_ne_true
  · exact absurd hsame Bool.false_ne_true
  · have hmark : l.mark = m.mark := beq_iff_eq.mp hsame
    exact h.agree l ls m ms hheld.1 hheld.2 hmark

/-- **Chains act as their lists.**  A chain is read as its list.  In a family that was made in any way from
its own chains, an item on top of a chain `c` stands in front of its list, and so do the items of a batch,
the last one first, as if they were laid on top one at a time, and those of another chain; the count is the
length of the list, and it is zero exactly for a chain without links; and chains with the same newest link
have the same list and count. -/
theorem Made.refines_lists (h : Made s cs) {c : Chain α} (hc : c ∈ cs) :
    (∀ (d : Chain α) n, d.cursor.take n = d.toList.take n) ∧
    (∀ a s', ((c.push a).run s').1.toList = a :: c.toList) ∧
    (∀ batch s', ((c.extend batch).run s').1.toList = batch.reverse ++ c.toList ∧
      ((c.pushEach batch).run s').1.toList = ((c.extend batch).run s').1.toList) ∧
    (∀ newer ∈ cs, ∀ s', ((c.overlay newer).run s').1.toList = newer.toList ++ c.toList) ∧
    c.size = c.toList.length ∧ (c.size = 0 ↔ c.links = []) ∧
    ∀ d ∈ cs, c.sameHead d = true → c.toList = d.toList ∧ c.size = d.size := by
  have hsound := h.coherent.sound
  refine ⟨fun d n => Cursor.take_cursor n d, fun a s' => toList_push c a s', fun batch s' => ?_,
    fun newer _ s' => toList_overlay c newer s', (hsound c hc).size_eq, (hsound c hc).size_eq_zero_iff, ?_⟩
  · have hextend := toList_extend c batch s'
    exact ⟨hextend, (toList_pushEach c batch s').trans hextend.symm⟩
  · intro d hd hsame
    have hlists : c.toList = d.toList := by
      rw [toList, toList, h.coherent.links_eq_of_sameHead hc hd hsame]
    refine ⟨hlists, ?_⟩
    rw [(hsound c hc).size_eq, (hsound d hd).size_eq, hlists]

/-- Two items laid on top of one, taken off, and laid on top of it again. -/
theorem Made.refines_lists_of_three :
    let base : Chain Nat := ⟨[⟨1, [1]⟩], 1⟩
    let top : Chain Nat := ⟨[⟨2, [2, 3]⟩, ⟨1, [1]⟩], 3⟩
    let added : Chain Nat := ⟨[⟨3, [2, 3]⟩], 2⟩
    Made ⟨4⟩ [added, top, base, empty] ∧ added.size = added.toList.length ∧
      ∀ s', ((base.overlay added).run s').1.toList = [3, 2, 1] := by
  intro base top added
  have hbase : Made ⟨2⟩ [base, empty] :=
    .step (.step (.start ⟨1⟩) .empty) (.push List.mem_cons_self 1)
  have htop : Made ⟨3⟩ [top, base, empty] := .step hbase (.extend List.mem_cons_self [2, 3])
  have hadded : Made ⟨4⟩ [added, top, base, empty] :=
    .step htop (.above List.mem_cons_self (List.mem_cons_of_mem _ List.mem_cons_self))
  have hread := hadded.refines_lists (c := base) (by simp)
  have hcount := hadded.refines_lists (c := added) (by simp)
  exact ⟨hadded, hcount.2.2.2.2.1, hread.2.2.2.1 added List.mem_cons_self⟩

end Vigil.Chain
