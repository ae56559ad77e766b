import Vigil.Sampling.Ratio
import Vigil.Gate
import Vigil.Review
import Vigil.Source

/-!
# Samplers

A sampler keeps some failures and drops the others, by their trace ids alone, and marks those it
keeps.  It can stand as a gate, which saves capturing what is dropped, or as a review.

* `Sampler`, made from a strategy; `Sampler.ofRatio`, `Sampler.always`, `Sampler.never`;
* `Sampler.gate`, `Sampler.review` — the two places it can stand in.
-/

namespace Vigil

/-- What decides by trace ids whether a failure is kept. -/
structure Sampler (σ : Type) where
  keep : TraceIds → Act σ Bool

namespace Sampler

variable {σ : Type}

/-- The sampler of a decision that depends on the ids alone. -/
def ofDecision (keep : TraceIds → Bool) : Sampler σ := ⟨fun ids => pure (keep ids)⟩

/-- Keep all. -/
def always : Sampler σ := ofDecision fun _ => true

/-- Keep none. -/
def never : Sampler σ := ofDecision fun _ => false

/-- Keep a share of the sets of ids. -/
def ofRatio (r : Sampling.TraceIdRatio) : Sampler σ := ofDecision r.keep

/-- Keep a share at random, from what `draw` draws. -/
def ofDraws (ratio : Float) (draw : Act σ (Option UInt64)) : Sampler σ :=
  ⟨fun _ => do return Sampling.keepsDraw ratio (← draw)⟩

/-- The key of the mark. -/
def markKey : String := "sampled"

/-- The mark of what was kept. -/
def mark : Field := { key := markKey, value := .bool true }

/-- The sampler as a gate: it adds the mark to what it keeps and skips the rest. -/
def gate (s : Sampler σ) : Gate σ := fun ids _ => do
  if ← s.keep ids then return .pass [mark] else return .skip

/-- The sampler as a review: it adds the mark to what it keeps, unless something is said under
that key, and vetoes the rest. -/
def review (s : Sampler σ) : Review σ := fun r => do
  if ← s.keep r.traceIds then
    if (r.fields.get? markKey).isNone then return (true, ← r.addField mark) else return (true, r)
  else return (false, r)

def describe (_ : Sampler σ) : String := Text.partialOutline "Sampler" []

end Sampler

end Vigil
