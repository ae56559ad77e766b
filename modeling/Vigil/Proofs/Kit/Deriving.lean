import Vigil.Kit
import Vigil.Proofs.Chain.Growth

/-!
# Kits derived from kits

A kit is derived from another one step at a time, and each step adds to a chain or puts a tool in its
place.  What holds of all kits that are derived from a kit follows from what one step does to the two
chains (`Step.grown`): both still end in the links they had (`Derived.grown`).
-/

namespace Vigil.Kit

variable {σ : Type}

/-- The ways to derive a kit from `k` in one step. -/
inductive Step (k : Kit σ) : Fresh (Kit σ) → Prop
  | field (f : Field) : Step k (k.withField f)
  | fields (fs : List Field) : Step k (k.withFields fs)
  | traceId (id : String) : Step k (k.withTraceId id)
  | traceIds (ids : List String) : Step k (k.withTraceIds ids)
  | tool (n : ToolName) (t : Instance (Tool σ)) : Step k (pure (k.withTool n t))
  | observer (o : Observer σ) : Step k (k.withObserver o)

/-- The kits that can be derived from `k` with the marks from `s` on, and the marks that are left then.
Between two steps marks may be drawn for other things. -/
inductive Derived (k : Kit σ) (s : Supply) : Kit σ → Supply → Prop
  | refl : Derived k s k s
  | wait {c : Kit σ} {s' s'' : Supply} : Derived k s c s' → s'.next ≤ s''.next → Derived k s c s''
  | step {c : Kit σ} {s' : Supply} {x : Fresh (Kit σ)} :
      Derived k s c s' → Step c x → Derived k s (x.run s').1 (x.run s').2

/-- Both chains of `k` have grown into those of `c`. -/
structure Grown (s : Supply) (k : Kit σ) (s' : Supply) (c : Kit σ) : Prop where
  fields : k.fields.Grown s s' c.fields
  traceIds : k.traceIds.Grown s s' c.traceIds

variable {k c e : Kit σ} {s s' s'' : Supply}

namespace Grown

theorem ofFields {d : Chain Field} (h : k.fields.Grown s s' d) : Grown s k s' { k with fields := d } :=
  ⟨h, .wait k.traceIds h.next_le⟩

theorem ofTraceIds {d : TraceIds} (h : k.traceIds.Grown s s' d) :
    Grown s k s' { k with traceIds := d } :=
  ⟨.wait k.fields h.next_le, h⟩

theorem ofTools (tools : Toolbox (Tool σ)) (hs : s.next ≤ s'.next) :
    Grown s k s' { k with tools := tools } :=
  ⟨.wait k.fields hs, .wait k.traceIds hs⟩

theorem trans (h : Grown s k s' c) (h' : Grown s' c s'' e) : Grown s k s'' e :=
  ⟨h.fields.trans h'.fields, h.traceIds.trans h'.traceIds⟩

end Grown

/-- **One step makes the chains of a kit grow.** -/
theorem Step.grown {x : Fresh (Kit σ)} (hx : Step k x) (s : Supply) :
    Grown s k (x.run s).2 (x.run s).1 := by
  cases hx with
  | field f => exact .ofFields (.extend s k.fields [f])
  | fields fs => exact .ofFields (.extend s k.fields fs)
  | traceId id => exact .ofTraceIds (.extend s k.traceIds [⟨id⟩])
  | traceIds ids => exact .ofTraceIds (.pushEach s k.traceIds (ids.map TraceId.mk))
  | tool n t => exact .ofTools _ (Nat.le_refl _)
  | observer o =>
    -- the mark that is drawn is that of the tool
    exact .ofTools _ (Nat.le_succ _)

/-- **The chains of a kit are at the end of those of all kits derived from it.** -/
theorem Derived.grown (h : Derived k s c s') : Grown s k s' c := by
  induction h with
  | refl => exact .ofTools _ (Nat.le_refl _)
  | wait _ hs ih => exact ih.trans (.ofTools _ hs)
  | step _ hx ih => exact ih.trans (hx.grown _)

theorem Derived.sound_fields (h : Derived .empty s k s') : k.fields.Sound s' :=
  h.grown.fields.sound (.empty s)

end Vigil.Kit
