import Vigil.Proofs.Chain.Family
import Vigil.Proofs.Observing.Binding

/-!
# The layers of a report

An observer is derived from a fresh one by binding chains of fields and of trace ids, and by changing its
parts, in any order.  What it carries then are the bound chains, one on top of the other, and of the fields
also the chain that was bound last.  Proved:

* `Observer.Derived.toList_context`, `Observer.Derived.folded_eq`, `Observer.Derived.toList_traceIds` — what
  an observer carries, by induction on how it was derived;
* `Chain.addedOver_above` — what a kit adds to the chain bound last, in a family of chains;
* `Observer.exists_run_assembled` — the fields and ids of a report that all gates let pass;
* `Observer.Derived.assembled_layers` — so the layers of a report, from the extra fields down to the chain
  that was bound first.
-/

namespace Vigil

/-! ## What a chain adds to another one -/

namespace Chain

variable {α : Type}

/-- What the chain `c` adds to the chain `last`: the items on top of it, if there is such a chain and `c`
was made by laying links on it, and all of its items otherwise. -/
def AddedOver (last : Option (Chain α)) (c : Chain α) (added : List α) : Prop :=
  (∃ base, last = some base ∧ base.links <:+ c.links ∧ c.toList = added ++ base.toList) ∨
    ((∀ base, last = some base → ¬base.links <:+ c.links) ∧ added = c.toList)

theorem addedOver_none (c : Chain α) : AddedOver none c c.toList :=
  .inr ⟨fun _ h => absurd h (Option.some_ne_none _).symm, rfl⟩

/-- **What was laid on top is what a chain adds**, in a family of chains. -/
theorem addedOver_above {s : Supply} {cs : List (Chain α)} {c base : Chain α} (h : Made s cs)
    (hc : c ∈ cs) (hbase : base ∈ cs) (s' : Supply) :
    AddedOver (some base) c ((c.above base).run s').1.toList := by
  have hcoherent := h.coherent
  by_cases hsuf : base.links <:+ c.links
  · exact .inl ⟨base, rfl, hsuf, (toList_above_append (hcoherent.sound c hc) (hcoherent.sound base hbase)
      hsuf s').symm⟩
  · have hnot : ¬base.AncestorOf c := fun hanc => hsuf (hcoherent.suffix_of_ancestorOf hc hbase hanc)
    refine .inr ⟨fun base' hsome => ?_, ?_⟩
    · obtain rfl := Option.some.inj hsome
      exact hsuf
    · rw [above_of_not_ancestor hnot]
      rfl

end Chain

/-! ## What an observer carries -/

namespace Observer

variable {σ : Type}

/-- The observers that are derived from a fresh one, with the chains of fields and the chains of trace ids
that were bound on the way, those bound last first. -/
inductive Derived : List (Chain Field) → List TraceIds → Observer σ → Prop
  | make (sink : Instance (Sink σ)) (probe : Probe σ) : Derived [] [] (.make sink probe)
  | gates {fs : List (Chain Field)} {ts : List TraceIds} {o : Observer σ} (gates : List (Gate σ)) :
      Derived fs ts o → Derived fs ts (o.withGates gates)
  | reviews {fs : List (Chain Field)} {ts : List TraceIds} {o : Observer σ}
      (reviews : List (Review σ)) : Derived fs ts o → Derived fs ts (o.withReviews reviews)
  | sink {fs : List (Chain Field)} {ts : List TraceIds} {o : Observer σ} (sink : Instance (Sink σ)) :
      Derived fs ts o → Derived fs ts (o.withSink sink)
  | probe {fs : List (Chain Field)} {ts : List TraceIds} {o : Observer σ} (probe : Probe σ) :
      Derived fs ts o → Derived fs ts (o.withProbe probe)
  | filter {fs : List (Chain Field)} {ts : List TraceIds} {o : Observer σ} (filter : PlaceFilter σ) :
      Derived fs ts o → Derived fs ts (o.withFilter filter)
  | context {fs : List (Chain Field)} {ts : List TraceIds} {o : Observer σ} (f : Chain Field)
      (s : Supply) : Derived fs ts o → Derived (f :: fs) ts ((o.withContext f).run s).1
  | traceIds {fs : List (Chain Field)} {ts : List TraceIds} {o : Observer σ} (t : TraceIds)
      (s : Supply) : Derived fs ts o → Derived fs (t :: ts) ((o.withTraceIds t).run s).1

theorem withTraceIds_context (o : Observer σ) (t : TraceIds) (s : Supply) :
    ((o.withTraceIds t).run s).1.context = o.context := by
  rw [withTraceIds]
  split <;> rfl

theorem withTraceIds_folded (o : Observer σ) (t : TraceIds) (s : Supply) :
    ((o.withTraceIds t).run s).1.folded = o.folded := by
  rw [withTraceIds]
  split <;> rfl

/-- Bound ids lie on top of those bound before, as long as the ids are counted right. -/
theorem toList_traceIds_withTraceIds {o : Observer σ} {t : TraceIds}
    (ho : o.traceIds.size = o.traceIds.toList.length) (ht : t.size = t.toList.length) (s : Supply) :
    ((o.withTraceIds t).run s).1.traceIds.toList = t.toList ++ o.traceIds.toList ∧
      ((o.withTraceIds t).run s).1.traceIds.size
        = ((o.withTraceIds t).run s).1.traceIds.toList.length := by
  by_cases hnone : o.traceIds.isEmpty = true
  · have hnil : o.traceIds.toList = [] := by
      rw [← List.length_eq_zero_iff, ← ho]
      exact beq_iff_eq.mp hnone
    rw [withTraceIds, if_pos hnone, hnil, List.append_nil]
    exact ⟨rfl, ht⟩
  · rw [withTraceIds, if_neg hnone]
    have hlist : ((o.traceIds.pushEach t.toList.reverse).run s).1.toList
        = t.toList ++ o.traceIds.toList := by
      rw [Chain.toList_pushEach, List.reverse_reverse]
    refine ⟨hlist, ?_⟩
    show ((o.traceIds.pushEach t.toList.reverse).run s).1.size
      = ((o.traceIds.pushEach t.toList.reverse).run s).1.toList.length
    rw [hlist, Chain.size_pushEach, List.length_reverse, List.length_append, ho, Nat.add_comm]

namespace Derived

variable {fs : List (Chain Field)} {ts : List TraceIds} {o : Observer σ}

/-- **The fields that an observer carries** are those of the bound chains. -/
theorem toList_context (h : Derived fs ts o) : o.context.toList = fs.flatMap Chain.toList := by
  induction h with
  | make => rfl
  | gates _ _ ih | reviews _ _ ih | sink _ _ ih | probe _ _ ih | filter _ _ ih => exact ih
  | @context _ _ o f s _ ih =>
    rw [List.flatMap_cons, ← ih]
    exact Chain.toList_overlay o.context f s
  | traceIds t s _ ih => rw [withTraceIds_context, ih]

/-- Only the chain that was bound last is remembered as such. -/
theorem folded_eq (h : Derived fs ts o) : o.folded = fs.head?.getD .empty := by
  induction h with
  | make => rfl
  | gates _ _ ih | reviews _ _ ih | sink _ _ ih | probe _ _ ih | filter _ _ ih => exact ih
  | context f s _ _ => rfl
  | traceIds t s _ ih => rw [withTraceIds_folded, ih]

/-- **The trace ids that an observer carries** are those of the bound chains. -/
theorem toList_traceIds (h : Derived fs ts o) (hts : ∀ t ∈ ts, t.size = t.toList.length) :
    o.traceIds.toList = ts.flatMap Chain.toList ∧ o.traceIds.size = o.traceIds.toList.length := by
  induction h with
  | make => exact ⟨rfl, rfl⟩
  | gates _ _ ih | reviews _ _ ih | sink _ _ ih | probe _ _ ih | filter _ _ ih => exact ih hts
  | context f s _ ih => exact ih hts
  | traceIds t s _ ih =>
    obtain ⟨ht, hts⟩ := List.forall_mem_cons.mp hts
    obtain ⟨hlist, hcount⟩ := ih hts
    rw [List.flatMap_cons, ← hlist]
    exact toList_traceIds_withTraceIds hcount ht s

end Derived

/-! ## The report of a failure that passes -/

/-- A failure that all gates let pass is reported, with the fields that come of what they add and the ids
it is observed under. -/
theorem exists_run_assembled {o : Observer σ} {k : Kit σ} {failure : Failure} {d : Desk σ}
    {extras : List Field} {w : World σ}
    (h : Gate.Pass (o.effectiveIds k) failure o.gates d.world extras w) (fallback : PlaceFilter σ)
    (span : Option Span) :
    ∃ r d' s, (o.assembled fallback k span failure).run d = (some r, d') ∧
      r.fields = ((o.layeredFields k extras).run s).1 ∧ r.traceIds = o.effectiveIds k := by
  have hrow : (Desk.act (Gate.runAll (o.effectiveIds k) failure o.gates)).run d
      = (some extras, { d with world := w }) := Desk.run_act h.run_eq
  rw [assembled, run_bind_of_run_eq hrow]
  exact ⟨_, _, _, rfl, rfl, rfl⟩

theorem toList_effectiveIds {o : Observer σ} {k : Kit σ}
    (hk : k.traceIds.size = k.traceIds.toList.length) :
    (o.effectiveIds k).toList
      = if k.traceIds.toList = [] then o.traceIds.toList else k.traceIds.toList := by
  have hnone : k.traceIds.isEmpty = true ↔ k.traceIds.toList = [] := by
    rw [Chain.isEmpty, beq_iff_eq, hk, List.length_eq_zero_iff]
  rw [effectiveIds, apply_ite Chain.toList]
  simp only [hnone]

/-- **The layers of a report.**  A failure that all gates let pass is reported with the fields they add, the
last one newest; below these is what the kit adds to the chain of fields that was bound last; and below that
are the fields of all chains that were bound, the last one on top.  Its ids are the kit's if it has any, and
else those of all chains of ids that were bound, the last one on top.  This report is what the reviews are shown
and what is delivered if they keep it. -/
theorem Derived.assembled_layers {fs : List (Chain Field)} {ts : List TraceIds} {o : Observer σ}
    (ho : Derived fs ts o) {k : Kit σ} {s s' : Supply} {cs : List (Chain Field)} {ids : List TraceIds}
    (hcs : Chain.Made s cs) (hk : k.fields ∈ cs) (hfs : ∀ f ∈ fs, f ∈ cs)
    (hids : Chain.Made s' ids) (hkids : k.traceIds ∈ ids) (hts : ∀ t ∈ ts, t ∈ ids)
    {failure : Failure} {d : Desk σ} {extras : List Field} {w : World σ}
    (hpass : Gate.Pass (o.effectiveIds k) failure o.gates d.world extras w)
    (fallback : PlaceFilter σ) (span : Option Span) :
    ∃ r d' added, (o.assembled fallback k span failure).run d = (some r, d') ∧
      (o.observe fallback k span failure).run d = (o.deliver (some r)).run d' ∧
      Chain.AddedOver fs.head? k.fields added ∧
      r.fields.toList = extras.reverse ++ (added ++ fs.flatMap Chain.toList) ∧
      r.traceIds.toList
        = if k.traceIds.toList = [] then ts.flatMap Chain.toList else k.traceIds.toList := by
  obtain ⟨r, d', s₁, hrun, hfields, hreported⟩ := exists_run_assembled hpass fallback span
  have hcount (t : TraceIds) (ht : t ∈ ids) : t.size = t.toList.length :=
    (hids.coherent.sound t ht).size_eq
  refine ⟨r, d', ((k.fields.above o.folded).run s₁).1.toList, hrun, ?_, ?_, ?_, ?_⟩
  · rw [observe_eq_deliver, run_bind_of_run_eq hrun]
  · rw [ho.folded_eq]
    cases fs with
    | nil => exact Chain.addedOver_none k.fields
    | cons f fs => exact Chain.addedOver_above hcs hk (hfs f List.mem_cons_self) s₁
  · rw [hfields, toList_layeredFields, ho.toList_context]
  · rw [hreported, toList_effectiveIds (hcount _ hkids),
      (ho.toList_traceIds fun t ht => hcount t (hts t ht)).1]

/-- Two gates that add fields, two chains of fields and two of ids bound in turns, and a kit that adds a field
to the second chain and has no ids. -/
theorem Derived.assembled_layers_of_two :
    let field (key : String) : Field := ⟨key, .bool true, {}⟩
    let first : Chain Field := ⟨[⟨1, [field "a"]⟩], 1⟩
    let last : Chain Field := ⟨[⟨2, [field "b", field "c"]⟩], 2⟩
    let outer : TraceIds := ⟨[⟨1, [⟨"outer"⟩]⟩], 1⟩
    let inner : TraceIds := ⟨[⟨2, [⟨"inner"⟩]⟩], 1⟩
    let gate (key : String) : Gate Unit := fun _ _ => pure (.pass [field key, field "gate"])
    let o₀ : Observer Unit := (Observer.make ⟨0, .discard⟩ .blind).withGates [gate "x", gate "y"]
    let o₁ := ((o₀.withContext first).run ⟨4⟩).1
    let o₂ := ((o₁.withTraceIds outer).run ⟨5⟩).1
    let o₃ := ((o₂.withContext last).run ⟨6⟩).1
    let o := ((o₃.withTraceIds inner).run ⟨7⟩).1
    let k : Kit Unit := { fields := ⟨⟨3, [field "d"]⟩ :: last.links, 3⟩ }
    ∃ r d', (o.assembled (fun _ => pure true) k none (.panic (.literal "boom"))).run ⟨1, ⟨⟨8⟩, ()⟩⟩
        = (some r, d') ∧
      (o.observe (fun _ => pure true) k none (.panic (.literal "boom"))).run ⟨1, ⟨⟨8⟩, ()⟩⟩
        = (o.deliver (some r)).run d' ∧
      r.fields.toList.map Field.key = ["gate", "y", "gate", "x", "d", "c", "b", "a"] ∧
      r.traceIds.toList.map TraceId.text = ["inner", "outer"] := by
  intro field first last outer inner gate o₀ o₁ o₂ o₃ o k
  have ho : Derived [last, first] [inner, outer] o :=
    .traceIds _ _ (.context _ _ (.traceIds _ _ (.context _ _ (.gates _ (.make _ _)))))
  have hcs : Chain.Made ⟨4⟩ [k.fields, last, first, .empty] := by
    have hlast : Chain.Made ⟨3⟩ [last, first, .empty] :=
      .step (.step (.step (.start ⟨1⟩) .empty) (.push List.mem_cons_self (field "a")))
        (.ofBatch [field "b", field "c"])
    exact .step hlast (.push List.mem_cons_self (field "d"))
  have hids : Chain.Made ⟨3⟩ [inner, outer, .empty] :=
    .step (.step (.step (.start ⟨1⟩) .empty) (.ofBatch [TraceId.mk "outer"]))
      (.ofBatch [TraceId.mk "inner"])
  have hpass : Gate.Pass (o.effectiveIds k) (.panic (.literal "boom")) o.gates ⟨⟨8⟩, ()⟩
      ([field "x", field "gate"] ++ ([field "y", field "gate"] ++ [])) ⟨⟨8⟩, ()⟩ :=
    .cons rfl (.cons rfl .nil)
  obtain ⟨r, d', added, hrun, hobserved, hadded, hfields, htraceIds⟩ :=
    ho.assembled_layers hcs (by simp) (by simp) hids (by simp [k]) (by simp) hpass
      (d := ⟨1, ⟨⟨8⟩, ()⟩⟩) (fun _ => pure true) none
  refine ⟨r, d', hrun, hobserved, ?_, ?_⟩
  · have hone : added = [field "d"] := by
      rcases hadded with ⟨base, hbase, -, hlist⟩ | ⟨hnot, -⟩
      · obtain rfl := Option.some.inj hbase
        exact (List.append_cancel_right (hlist : [field "d"] ++ last.toList = _)).symm
      · exact absurd ⟨[⟨3, [field "d"]⟩], rfl⟩ (hnot last rfl)
    rw [hfields, hone]
    rfl
  · rw [htraceIds]
    rfl

end Observer

end Vigil
