import Vigil.Proofs.Kit.Deriving
import Vigil.Proofs.Observing.Course

/-!
# Observers that are bound to a kit

Binding an observer to a kit copies the kit's fields into the observer's context and merges the kit's trace
ids with the observer's.  Afterwards the bound observer observes on kits that were derived from that one,
which carry the same fields and ids once more.  Proved:

* `Kit.exists_run_boundTool` — what binding makes of the observer of a kit;
* `Observer.toList_layeredFields` — the fields of a report, layer by layer;
* `Observer.BoundTo.toList_layeredFields` — on a kit derived from the one it is bound to, a bound observer
  reports the fields that the observer itself would;
* `Observer.observe_eq_deliver` — observing is assembling (`Observer.assembled`) and delivering
  (`Observer.deliver`);
* `Kit.boundTool_assembles_alike` — so the two assemble the same report, but for the links that hold the
  fields.
-/

namespace Vigil

variable {σ : Type}

/-! ## Assembling and delivering -/

namespace Observer

/-- The report of a failure that all gates let pass, as it is before the reviews. -/
def assembled (o : Observer σ) (fallback : PlaceFilter σ) (k : Kit σ) (span : Option Span)
    (failure : Failure) : Observing σ (Option Report) := do
  match ← Desk.act (Gate.runAll (o.effectiveIds k) failure o.gates) with
  | none => return none
  | some extras => return some (← o.assemble fallback k span failure extras)

/-- The reviews and the sink, for a report that was assembled. -/
def deliver (o : Observer σ) : Option Report → Observing σ (Option Report)
  | none => pure none
  | some report => do
    let (kept, report) ← Desk.act (Review.runAll o.reviews report)
    if kept then return some (← Desk.act (o.sink.val.emit report)) else return none

/-- **Observing is assembling and delivering.** -/
theorem observe_eq_deliver (o : Observer σ) (fallback : PlaceFilter σ) (k : Kit σ)
    (span : Option Span) (failure : Failure) :
    o.observe fallback k span failure = o.assembled fallback k span failure >>= o.deliver := by
  rw [observe, assembled, bind_assoc]
  refine congrArg _ (funext fun passed => ?_)
  cases passed with
  | none => rfl
  | some extras => rfl

/-- Observers with the same reviews and the same sink deliver alike. -/
theorem deliver_eq_deliver {b o : Observer σ} (hreviews : b.reviews = o.reviews) (hsink : b.sink = o.sink) :
    b.deliver = o.deliver := by
  funext report
  cases report with
  | none => rfl
  | some report => rw [deliver, deliver, hreviews, hsink]

/-! ## The fields of a report -/

/-- **The fields of a report, layer by layer**: the extra ones, what the kit adds to the fields bound last,
and all that was bound. -/
theorem toList_layeredFields (o : Observer σ) (k : Kit σ) (extras : List Field) (s : Supply) :
    ((o.layeredFields k extras).run s).1.toList
      = extras.reverse ++ (((k.fields.above o.folded).run s).1.toList ++ o.context.toList) := by
  let added := (k.fields.above o.folded).run s
  let layered := (o.context.overlay added.1).run added.2
  show ((layered.1.extend extras).run layered.2).1.toList = _
  rw [Chain.toList_extend, Chain.toList_overlay]

theorem toList_layeredFields_of_not_ancestor {o : Observer σ} {k : Kit σ}
    (h : ¬o.folded.AncestorOf k.fields) (extras : List Field) (s : Supply) :
    ((o.layeredFields k extras).run s).1.toList
      = extras.reverse ++ (k.fields.toList ++ o.context.toList) := by
  rw [toList_layeredFields, Chain.above_of_not_ancestor h]
  rfl

/-! ## What binding does -/

/-- The observer `b` is `o` with the fields and ids of a kit bound to it. -/
structure BoundTo (k : Kit σ) (o b : Observer σ) : Prop where
  sink : b.sink = o.sink
  gates : b.gates = o.gates
  reviews : b.reviews = o.reviews
  probe : b.probe = o.probe
  filter : b.filter = o.filter
  /-- Fields are bound only if there are any. -/
  fields : k.fields.isEmpty = true ∧ b.context = o.context ∧ b.folded = o.folded ∨
    b.context.toList = k.fields.toList ++ o.context.toList ∧ b.folded = k.fields
  /-- Ids are bound only if there are any. -/
  traceIds : k.traceIds.isEmpty = true → b.traceIds = o.traceIds

theorem boundTo_self {k : Kit σ} (o : Observer σ) (h : k.fields.isEmpty = true) : BoundTo k o o :=
  ⟨rfl, rfl, rfl, rfl, rfl, .inl ⟨h, rfl, rfl⟩, fun _ => rfl⟩

theorem boundTo_withContext (k : Kit σ) (o : Observer σ) (s : Supply) :
    BoundTo k o ((o.withContext k.fields).run s).1 :=
  ⟨rfl, rfl, rfl, rfl, rfl, .inr ⟨Chain.toList_overlay o.context k.fields s, rfl⟩, fun _ => rfl⟩

/-- Ids that are bound next leave the rest as it is. -/
theorem BoundTo.withTraceIds {k : Kit σ} {o b : Observer σ} (h : BoundTo k o b)
    (hids : ¬k.traceIds.isEmpty = true) (s : Supply) :
    BoundTo k o ((b.withTraceIds k.traceIds).run s).1 := by
  rw [Observer.withTraceIds]
  split <;> exact { h with traceIds := fun hnone => absurd hnone hids }

end Observer

/-- **What binding makes of the observer of a kit.** -/
theorem Kit.exists_run_boundTool {k : Kit σ} {n : ToolName} {t : Instance (Tool σ)} {o : Observer σ}
    (ht : k.tool? n = some t) (ho : t.val = .observer o) (s : Supply) :
    ∃ t' b, ((k.boundTool n).run s).1 = some t' ∧ t'.val = .observer b ∧ Observer.BoundTo k o b := by
  obtain ⟨mark, val⟩ := t
  subst ho
  rw [boundTool, ht]
  by_cases hfields : k.fields.isEmpty = true <;> by_cases hids : k.traceIds.isEmpty = true
  · simp only [hfields, hids, if_true]
    exact ⟨_, o, rfl, rfl, Observer.boundTo_self o hfields⟩
  · simp only [hfields, hids, if_true]
    exact ⟨_, _, rfl, rfl, (Observer.boundTo_self o hfields).withTraceIds hids _⟩
  · simp only [hfields, hids, if_true]
    exact ⟨_, _, rfl, rfl, Observer.boundTo_withContext k o s⟩
  · simp only [hfields, hids]
    exact ⟨_, _, rfl, rfl, (Observer.boundTo_withContext k o s).withTraceIds hids _⟩

/-! ## Observing on a derived kit -/

namespace Observer

variable {k c : Kit σ} {o b : Observer σ} {s₀ s s' : Supply}

/-- **A bound observer reports the fields that the observer itself would**, on kits that were derived from
the one it is bound to. -/
theorem BoundTo.toList_layeredFields (h : BoundTo k o b) (hk : Kit.Derived .empty s₀ k s)
    (hc : Kit.Derived k s c s') (hfolded : ¬o.folded.AncestorOf c.fields) (extras : List Field)
    (s₁ s₂ : Supply) :
    ((b.layeredFields c extras).run s₁).1.toList = ((o.layeredFields c extras).run s₂).1.toList := by
  rw [toList_layeredFields_of_not_ancestor hfolded]
  rcases h.fields with ⟨-, hcontext, hlast⟩ | ⟨hcontext, hlast⟩
  · -- nothing was bound
    rw [← hlast] at hfolded
    rw [toList_layeredFields_of_not_ancestor hfolded, hcontext]
  · -- what the derived kit adds to the bound fields lies on them
    have hsplit := Chain.toList_above_append (hc.grown.fields.sound hk.sound_fields)
      (hk.sound_fields.mono hc.grown.fields.next_le) hc.grown.fields.suffix s₁
    rw [Observer.toList_layeredFields, hlast, hcontext, ← hsplit]
    simp only [List.append_assoc]

theorem BoundTo.effectiveIds (h : BoundTo k o b) (hc : Kit.Derived k s c s') :
    b.effectiveIds c = o.effectiveIds c := by
  rw [Observer.effectiveIds, Observer.effectiveIds]
  by_cases hnone : c.traceIds.isEmpty = true
  · -- the kit it is bound to has no ids either
    have hsize : k.traceIds.size ≤ c.traceIds.size := hc.grown.traceIds.size_le
    have hzero : k.traceIds.isEmpty = true := by
      simp only [Chain.isEmpty, beq_iff_eq] at hnone ⊢
      omega
    rw [h.traceIds hzero]
  · rw [if_neg hnone, if_neg hnone]

end Observer

/-- The reports are the same, but for the links that hold the fields. -/
structure Report.Alike (r r' : Report) : Prop where
  fields : r.fields.toList = r'.fields.toList
  traceIds : r.traceIds = r'.traceIds
  rest : { r with fields := r'.fields } = r'

namespace Observer

variable {k c : Kit σ} {o b : Observer σ}

/-- Observers that ask the same of the same probe, and report the same fields and ids, assemble reports that
are alike. -/
theorem assemble_alike (hprobe : b.probe = o.probe) (hfilter : b.filter = o.filter)
    (hids : b.effectiveIds c = o.effectiveIds c) {extras : List Field}
    (hfields : ∀ s, ((b.layeredFields c extras).run s).1.toList
      = ((o.layeredFields c extras).run s).1.toList)
    (fallback : PlaceFilter σ) (span : Option Span) (failure : Failure) (d : Desk σ) :
    ((b.assemble fallback c span failure extras).run d).1.Alike
      ((o.assemble fallback c span failure extras).run d).1 := by
  rw [assemble, assemble, hprobe, hfilter, hids]
  exact ⟨hfields _, rfl, rfl⟩

theorem assembled_alike (hgates : b.gates = o.gates) (hprobe : b.probe = o.probe)
    (hfilter : b.filter = o.filter) (hids : b.effectiveIds c = o.effectiveIds c)
    (hfields : ∀ extras s, ((b.layeredFields c extras).run s).1.toList
      = ((o.layeredFields c extras).run s).1.toList)
    (fallback : PlaceFilter σ) (span : Option Span) (failure : Failure) (d : Desk σ) :
    Option.Rel Report.Alike ((b.assembled fallback c span failure).run d).1
      ((o.assembled fallback c span failure).run d).1 := by
  rw [assembled, assembled, hgates, hids]
  cases hrow : (Desk.act (Gate.runAll (o.effectiveIds c) failure o.gates)).run d with
  | mk passed d' =>
    rw [run_bind_of_run_eq hrow, run_bind_of_run_eq hrow]
    cases passed with
    | none => exact .none
    | some extras =>
      exact .some (assemble_alike hprobe hfilter hids (hfields extras) fallback span failure d')

end Observer

/-- **A bound observer and the one it was made from report the same**: both assemble a report and deliver it,
the reports that they assemble are the same but for the links that hold the fields, and they are delivered in the
same way. -/
theorem Kit.boundTool_assembles_alike {k c : Kit σ} {s₀ s s' : Supply} {t : Instance (Tool σ)}
    {o : Observer σ} (hk : Derived .empty s₀ k s) (hc : Derived k s c s')
    (ht : k.tool? .observer = some t) (ho : t.val = .observer o)
    (hfolded : o.folded.links = [] ∨ ¬o.folded.AncestorOf c.fields) (s₁ : Supply) :
    ∃ t' b, ((k.boundTool .observer).run s₁).1 = some t' ∧ t'.val = .observer b ∧
      b.gates = o.gates ∧ b.effectiveIds c = o.effectiveIds c ∧
      ∀ fallback span failure,
        b.observe fallback c span failure = b.assembled fallback c span failure >>= o.deliver ∧
        o.observe fallback c span failure = o.assembled fallback c span failure >>= o.deliver ∧
        ∀ d, Option.Rel Report.Alike ((b.assembled fallback c span failure).run d).1
          ((o.assembled fallback c span failure).run d).1 := by
  have hnot : ¬o.folded.AncestorOf c.fields := by
    rcases hfolded with hnone | hnot
    · rintro ⟨stop, below, hlinks, -⟩
      exact absurd (hlinks.symm.trans hnone) (List.cons_ne_nil _ _)
    · exact hnot
  obtain ⟨t', b, hrun, hb, hbound⟩ := exists_run_boundTool ht ho s₁
  have hids := hbound.effectiveIds hc
  refine ⟨t', b, hrun, hb, hbound.gates, hids, fun fallback span failure => ⟨?_, ?_, ?_⟩⟩
  · rw [Observer.observe_eq_deliver, Observer.deliver_eq_deliver hbound.reviews hbound.sink]
  · exact o.observe_eq_deliver fallback c span failure
  · exact Observer.assembled_alike hbound.gates hbound.probe hbound.filter hids
      (fun extras s => hbound.toList_layeredFields hk hc hnot extras s s) fallback span failure

/-- An observer to which a field was bound before, in a kit with a field, and a kit with one field more. -/
theorem Kit.boundTool_assembles_alike_over_own_field :
    let own : Chain Field := ⟨[⟨1, [⟨"service", .text "billing", {}⟩]⟩], 1⟩
    let o : Observer Unit := { sink := ⟨0, .discard⟩, probe := .blind, context := own, folded := own }
    let user : Link Field := ⟨2, [⟨"user", .text "alice", {}⟩]⟩
    let k : Kit Unit := ⟨⟨[user], 1⟩, .empty, ⟨[(.observer, ⟨3, .observer o⟩)]⟩⟩
    let c : Kit Unit := { k with fields := ⟨[⟨4, [⟨"step", .text "pay", {}⟩]⟩, user], 2⟩ }
    Derived .empty ⟨2⟩ k ⟨4⟩ ∧ Derived k ⟨4⟩ c ⟨5⟩ ∧
      ∃ t b, ((k.boundTool .observer).run ⟨5⟩).1 = some t ∧ t.val = .observer b ∧
        b.gates = o.gates ∧ b.effectiveIds c = o.effectiveIds c ∧
        ∀ fallback span failure,
          b.observe fallback c span failure = b.assembled fallback c span failure >>= o.deliver ∧
          o.observe fallback c span failure = o.assembled fallback c span failure >>= o.deliver ∧
          ∀ d, Option.Rel Report.Alike ((b.assembled fallback c span failure).run d).1
            ((o.assembled fallback c span failure).run d).1 := by
  intro own o user k c
  have hk : Derived .empty ⟨2⟩ k ⟨4⟩ :=
    .step (.step .refl (.field ⟨"user", .text "alice", {}⟩)) (.observer o)
  have hc : Derived k ⟨4⟩ c ⟨5⟩ := .step .refl (.field ⟨"step", .text "pay", {}⟩)
  have hfolded : ¬o.folded.AncestorOf c.fields := by
    rintro ⟨stop, below, hlinks, l, hl, hmark⟩
    obtain ⟨rfl, -⟩ := List.cons.inj hlinks
    simp only [c, user, List.mem_cons, List.not_mem_nil, or_false] at hl
    rcases hl with rfl | rfl <;> exact absurd hmark (by decide)
  exact ⟨hk, hc, boundTool_assembles_alike hk hc rfl rfl (.inr hfolded) ⟨5⟩⟩

end Vigil
