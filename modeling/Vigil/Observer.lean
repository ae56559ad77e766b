import Vigil.Gate
import Vigil.Review
import Vigil.Sink
import Vigil.Probe

/-!
# Observers

An observer turns failures into reports.  It is put together from gates, reviews, a probe and a
sink, and it carries context: fields and trace ids that were bound to it.  Binding never changes an
observer; it makes another one.

* `Observer`, `Observer.make`;
* `withGates`, `withReviews`, `withSink`, `withProbe`, `withFilter` — other parts;
* `withContext` — bind fields, and remember which were bound last;
* `withTraceIds` — bind trace ids on top of those bound before.
-/

namespace Vigil

open Text

/-- What turns failures into reports. -/
structure Observer (σ : Type) where
  sink : Instance (Sink σ)
  gates : List (Gate σ) := []
  reviews : List (Review σ) := []
  /-- All fields that were bound. -/
  context : Chain Field := .empty
  /-- The fields that were bound last. -/
  folded : Chain Field := .empty
  /-- All trace ids that were bound. -/
  traceIds : TraceIds := .empty
  probe : Probe σ
  /-- Which places count; if none is set, a default decides. -/
  filter : Option (PlaceFilter σ) := none

namespace Observer

variable {σ : Type}

/-- An observer without gates, reviews and context. -/
def make (sink : Instance (Sink σ)) (probe : Probe σ) : Observer σ := { sink, probe }

/-- Further gates behind the others. -/
def withGates (o : Observer σ) (gates : List (Gate σ)) : Observer σ :=
  { o with gates := o.gates ++ gates }

/-- Further reviews behind the others. -/
def withReviews (o : Observer σ) (reviews : List (Review σ)) : Observer σ :=
  { o with reviews := o.reviews ++ reviews }

def withSink (o : Observer σ) (sink : Instance (Sink σ)) : Observer σ := { o with sink }

def withProbe (o : Observer σ) (probe : Probe σ) : Observer σ := { o with probe }

/-- A filter of its own. -/
def withFilter (o : Observer σ) (filter : PlaceFilter σ) : Observer σ :=
  { o with filter := some filter }

/-- Bind fields on top of those bound before. -/
def withContext (o : Observer σ) (fields : Chain Field) : Fresh (Observer σ) := do
  return { o with context := ← o.context.overlay fields, folded := fields }

/-- Bind trace ids on top of those bound before. -/
def withTraceIds (o : Observer σ) (ids : TraceIds) : Fresh (Observer σ) := do
  if o.traceIds.isEmpty then return { o with traceIds := ids }
  else return { o with traceIds := ← o.traceIds.pushEach ids.toList.reverse }

def flush (o : Observer σ) : Act σ Unit := o.sink.val.flush

def describe (o : Observer σ) : String :=
  partialOutline "ErrorMonitor" [
    ("pre_hooks", Gate.describeAll o.gates),
    ("hooks", Review.describeAll o.reviews),
    ("context_fields", toString o.context.size),
    ("trace_ids", TraceIds.describe o.traceIds),
    ("custom_filter", if o.filter.isSome then "true" else "false")]

end Observer

end Vigil
