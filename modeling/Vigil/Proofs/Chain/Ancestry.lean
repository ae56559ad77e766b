import Vigil.Proofs.Chain.Family

/-!
# What was laid on top of an earlier chain

A chain that comes from another one by laying items on top keeps the links of that other one below its own
(on an empty chain it may take over the links of a third one, but then there are none to keep), so the mark
of the newest of them tells where the items end that were laid since.  Meanwhile the other chains of the
family grow as they like.  Proved:

* `Layer.toList_run`, `Layer.suffix` — one step lays its items on top, and keeps the links that there are;
* `Derived.toList_eq`, `Derived.suffix` — and so do all steps together;
* `above_exact` — what was laid on top of a chain is told exactly, and all of a chain is told when it does
  not come from the other one.
-/

namespace Vigil.Chain

variable {α : Type} {s : Supply} {cs : List (Chain α)} {base c : Chain α} {x : Fresh (Chain α)}
  {items added : List α}

/-! ## One step -/

/-- The ways to lay items on top of the chain `c` of a family, and the items, newest first, that are laid. -/
inductive Layer (cs : List (Chain α)) (c : Chain α) : Fresh (Chain α) → List α → Prop
  | push (a : α) : Layer cs c (c.push a) [a]
  | extend (batch : List α) : Layer cs c (c.extend batch) batch.reverse
  | overlay {newer : Chain α} : newer ∈ cs → Layer cs c (c.overlay newer) newer.toList

namespace Layer

theorem step (h : Layer cs c x items) (hc : c ∈ cs) : Step cs x := by
  cases h with
  | push a => exact .push hc a
  | extend batch => exact .extend hc batch
  | overlay hnewer => exact .overlay hc hnewer

/-- One step lays its items on top. -/
theorem toList_run (h : Layer cs c x items) (s : Supply) : (x.run s).1.toList = items ++ c.toList := by
  cases h with
  | push a => exact toList_push c a s
  | extend batch => exact toList_extend c batch s
  | overlay hnewer => exact toList_overlay c _ s

/-- One step keeps the links that there are. -/
theorem suffix (h : Layer cs c x items) (hne : c.links ≠ []) (s : Supply) :
    c.links <:+ (x.run s).1.links := by
  cases h with
  | push a => exact (Grown.extend s c [a]).suffix
  | extend batch => exact (Grown.extend s c batch).suffix
  | @overlay newer hnewer =>
    -- only an empty chain is replaced by the one that comes on top of it
    obtain ⟨_ | ⟨l, ls⟩, size⟩ := c
    · exact absurd rfl hne
    · exact (Grown.extend s ⟨l :: ls, size⟩ newer.toList.reverse).suffix

end Layer

/-! ## All steps -/

/-- In the family `cs`, when the marks of `s` are left, the chain `c` comes from `base` by laying the items
`added` on top, newest first. -/
inductive Derived (base : Chain α) : Supply → List (Chain α) → Chain α → List α → Prop
  | start {s : Supply} {cs : List (Chain α)} : Made s cs → base ∈ cs → Derived base s cs base []
  | wait {s s' : Supply} {cs : List (Chain α)} {c : Chain α} {added : List α} :
      Derived base s cs c added → s.next ≤ s'.next → Derived base s' cs c added
  /-- Some other chain is made. -/
  | aside {s : Supply} {cs : List (Chain α)} {c : Chain α} {added : List α} {x : Fresh (Chain α)} :
      Derived base s cs c added → Step cs x → Derived base (x.run s).2 ((x.run s).1 :: cs) c added
  | layer {s : Supply} {cs : List (Chain α)} {c : Chain α} {added items : List α} {x : Fresh (Chain α)} :
      Derived base s cs c added → Layer cs c x items →
        Derived base (x.run s).2 ((x.run s).1 :: cs) (x.run s).1 (items ++ added)

namespace Derived

theorem mem (h : Derived base s cs c added) : c ∈ cs := by
  induction h with
  | start _ hbase => exact hbase
  | wait _ _ ih => exact ih
  | aside _ _ ih => exact List.mem_cons_of_mem _ ih
  | layer _ _ _ => exact List.mem_cons_self

theorem base_mem (h : Derived base s cs c added) : base ∈ cs := by
  induction h with
  | start _ hbase => exact hbase
  | wait _ _ ih => exact ih
  | aside _ _ ih => exact List.mem_cons_of_mem _ ih
  | layer _ _ ih => exact List.mem_cons_of_mem _ ih

theorem made (h : Derived base s cs c added) : Made s cs := by
  induction h with
  | start hmade _ => exact hmade
  | wait _ hs ih => exact ih.wait hs
  | aside _ hx ih => exact ih.step hx
  | layer hderived hx ih => exact ih.step (hx.step hderived.mem)

/-- All that was laid on top stands in front of the list. -/
theorem toList_eq (h : Derived base s cs c added) : c.toList = added ++ base.toList := by
  induction h with
  | start _ _ => rfl
  | wait _ _ ih => exact ih
  | aside _ _ ih => exact ih
  | layer _ hx ih => rw [hx.toList_run, ih, List.append_assoc]

/-- The links of the chain at the start are kept. -/
theorem suffix (h : Derived base s cs c added) (hne : base.links ≠ []) : base.links <:+ c.links := by
  induction h with
  | start _ _ => exact List.suffix_rfl
  | wait _ _ ih => exact ih
  | aside _ _ ih => exact ih
  | @layer s _ c _ _ _ _ hx ih =>
    have hkept : c.links ≠ [] := fun hnil => hne (List.suffix_nil.mp (hnil ▸ ih))
    exact ih.trans (hx.suffix hkept s)

/-- What is found above the chain at the start is what was laid on top of it. -/
theorem toList_above (h : Derived base s cs c added) (s' : Supply) :
    ((c.above base).run s').1.toList = added := by
  have hsound := h.made.coherent.sound
  have hsplit : ((c.above base).run s').1.toList ++ base.toList = c.toList := by
    by_cases hlinks : base.links = []
    · have hempty : base.toList = [] := by rw [toList, hlinks]; rfl
      rw [above, hlinks, hempty]
      exact List.append_nil c.toList
    · exact toList_above_append (hsound c h.mem) (hsound base h.base_mem) (h.suffix hlinks) s'
  rw [h.toList_eq] at hsplit
  exact List.append_cancel_right hsplit

end Derived

theorem sameHead_self (c : Chain α) : c.sameHead c = true := by
  obtain ⟨_ | ⟨l, ls⟩, size⟩ := c
  · rfl
  · exact beq_self_eq_true l.mark

/-! ## The chain above -/

/-- **What was laid on top of a chain is told exactly.**  However a chain was made from a first one by laying
items on top, one at a time, in batches or as whole chains, what is told to be above the first one gives,
item by item, all that was laid on top and nothing else, newest first; in front of the list of the first one
it is the list of the chain, and if the first one has no link, it is the chain itself.  On the other hand,
if the mark of the newest link of one chain is nowhere in another one, the chain told to be above is that
other chain with its own newest link, whatever items the two hold. -/
theorem above_exact :
    (∀ (base : Chain α) (s : Supply) (cs : List (Chain α)) (c : Chain α) (added : List α),
      Derived base s cs c added → ∀ s',
        ((c.above base).run s').1.toList = added ∧
        (∀ n, ((c.above base).run s').1.cursor.take n = added.take n) ∧
        ((c.above base).run s').1.toList ++ base.toList = c.toList ∧
        (base.links = [] → ((c.above base).run s').1 = c)) ∧
    (∀ (base c : Chain α) (stop : Link α) (below : List (Link α)),
      base.links = stop :: below → (∀ l ∈ c.links, l.mark ≠ stop.mark) → ∀ s',
        ((c.above base).run s').1 = c ∧ ((c.above base).run s').1.sameHead c = true) := by
  constructor
  · intro base s cs c added h s'
    have habove := h.toList_above s'
    refine ⟨habove, fun n => ?_, ?_, fun hnil => ?_⟩
    · rw [Cursor.take_cursor, habove]
    · rw [habove, h.toList_eq]
    · rw [above, hnil]
      rfl
  · intro base c stop below hlinks hnowhere s'
    have hstranger : ¬base.AncestorOf c := by
      rintro ⟨stop', below', hlinks', l, hl, hmark⟩
      obtain ⟨rfl, -⟩ := List.cons.inj (hlinks.symm.trans hlinks')
      exact hnowhere l hl hmark
    have habove : ((c.above base).run s').1 = c := by
      rw [above_of_not_ancestor hstranger]
      rfl
    exact ⟨habove, by rw [habove, sameHead_self]⟩

/-- A chain of one item, one more on top of it, and both once more under the twin of the first chain, which
holds the same item under a mark of its own. -/
theorem above_exact_of_twins :
    let base : Chain Nat := ⟨[⟨1, [1]⟩], 1⟩
    let twin : Chain Nat := ⟨[⟨2, [1]⟩], 1⟩
    let one : Chain Nat := ⟨[⟨3, [2]⟩, ⟨1, [1]⟩], 2⟩
    let top : Chain Nat := ⟨[⟨4, [1, 2]⟩, ⟨3, [2]⟩, ⟨1, [1]⟩], 4⟩
    Derived base ⟨5⟩ [top, one, twin, base, empty] top [2, 1, 2] ∧ twin.toList = base.toList ∧
      ∀ s', ((top.above base).run s').1.toList = [2, 1, 2] ∧ ((top.above twin).run s').1 = top := by
  intro base twin one top
  have hbase : Made ⟨2⟩ [base, empty] :=
    .step (.step (.start ⟨1⟩) .empty) (.push List.mem_cons_self 1)
  have hstart : Derived base ⟨2⟩ [base, empty] base [] := .start hbase List.mem_cons_self
  have htwin : Derived base ⟨3⟩ [twin, base, empty] base [] :=
    .aside hstart (.ofBatch [1])
  have hone : Derived base ⟨4⟩ [one, twin, base, empty] one [2] := .layer htwin (.push 2)
  have htop : Derived base ⟨5⟩ [top, one, twin, base, empty] top [2, 1, 2] :=
    .layer hone (.overlay (show one ∈ _ from List.mem_cons_self))
  have hnowhere : ∀ l ∈ top.links, l.mark ≠ (⟨2, [1]⟩ : Link Nat).mark := by decide
  refine ⟨htop, rfl, fun s' => ⟨?_, ?_⟩⟩
  · exact (above_exact.1 base ⟨5⟩ _ top [2, 1, 2] htop s').1
  · exact (above_exact.2 twin top ⟨2, [1]⟩ [] rfl hnowhere s').1

end Vigil.Chain
