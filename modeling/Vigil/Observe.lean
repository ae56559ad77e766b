import Vigil.Kit

/-!
# Observing failures

Observing a failure on a kit runs through a fixed course: the gates, then the probe, then the
reviews, then the sink.  A gate that skips ends it before anything is captured and before a report
is numbered; a veto ends it after the report was numbered and before it is delivered.

* `Desk`, `Observing` — where reports are numbered;
* `Defaults` — the observer and the filter that are used when none is given;
* `Observer.assemble` — the report of a failure, before the reviews;
* `Observer.observe` — the whole course; `Observer.observeOn` — for a failure that may be absent;
* `Defaults.observerOf` — the observer of a kit.
-/

namespace Vigil

/-- Where reports are numbered: the number of the next one, and the world that parts act on. -/
structure Desk (σ : Type) where
  nextReport : UInt64 := 1
  world : World σ

/-- A computation that may number reports. -/
abbrev Observing (σ : Type) := StateM (Desk σ)

namespace Desk

variable {σ α : Type}

/-- Let a part act; it cannot number reports. -/
def act (x : Act σ α) : Observing σ α := fun d =>
  let r := x.run d.world
  (r.1, { d with world := r.2 })

/-- Draw marks; no part is involved. -/
def fresh (x : Fresh α) : Observing σ α := act (Act.fresh x)

/-- Take the number of the next report.  The counter is a machine word and starts again when it is used up. -/
def drawNumber : Observing σ UInt64 := fun d =>
  (d.nextReport, { d with nextReport := d.nextReport + 1 })

end Desk

/-- What is used when nothing is given. -/
structure Defaults (σ : Type) where
  observer : Observer σ
  filter : PlaceFilter σ

namespace Observer

variable {σ : Type}

/-- The trace ids that a failure on a kit is observed under: the kit's, or else the observer's. -/
def effectiveIds (o : Observer σ) (k : Kit σ) : TraceIds :=
  if k.traceIds.isEmpty then o.traceIds else k.traceIds

/-- The fields that a failure on a kit is reported with: those bound to the observer, on top of
them what the kit adds to the fields bound last, and on top of all the extra fields. -/
def layeredFields (o : Observer σ) (k : Kit σ) (extras : List Field) : Fresh (Chain Field) := do
  let added ← k.fields.above o.folded
  let layered ← o.context.overlay added
  layered.extend extras

/-- How serious a failure is. -/
def levelOf : Failure → Level
  | .error _ => .error
  | .panic _ => .panic

/-- What kind of entry a failure makes. -/
def traitsOf : Failure → Traits
  | .error _ => Traits.union { monitoring := true } { error := true }
  | .panic _ => Traits.union { monitoring := true } { panic := true }

/-- Probe the place of a failure and put its report together. -/
def assemble (o : Observer σ) (fallback : PlaceFilter σ) (k : Kit σ) (span : Option Span)
    (failure : Failure) (extras : List Field) : Observing σ Report := do
  let filter := o.filter.getD fallback
  let caller ← Desk.act (o.probe.caller filter)
  let stack ← Desk.act (o.probe.stack filter)
  let threads ← Desk.act o.probe.threads
  let fields ← Desk.fresh (o.layeredFields k extras)
  let id ← Desk.drawNumber
  return {
    id, level := levelOf failure, message := failure.message, fields
    traceIds := o.effectiveIds k, caller, traits := traitsOf failure
    failure := failure.account, stack, spans := Span.pathTo span
    currentThreadId := threads.currentId, threads := threads.threads }

/-- Observe a failure on a kit, inside a span if there is one: the report as the sink left it, if
it was delivered. -/
def observe (o : Observer σ) (fallback : PlaceFilter σ) (k : Kit σ) (span : Option Span)
    (failure : Failure) : Observing σ (Option Report) := do
  match ← Desk.act (Gate.runAll (o.effectiveIds k) failure o.gates) with
  | none => return none
  | some extras =>
    let report ← o.assemble fallback k span failure extras
    let (kept, report) ← Desk.act (Review.runAll o.reviews report)
    if kept then return some (← Desk.act (o.sink.val.emit report)) else return none

/-- Observe on a kit, inside the span that the kit's tracer knows; without a failure nothing
happens. -/
def observeOn (o : Observer σ) (fallback : PlaceFilter σ) (k : Kit σ) :
    Option Failure → Observing σ (Option Report)
  | none => pure none
  | some failure => o.observe fallback k k.activeSpan failure

end Observer

namespace Defaults

variable {σ : Type}

/-- The observer in a kit, or the default one. -/
def observerOf (d : Defaults σ) (k : Kit σ) : Observer σ :=
  ((k.tool? .observer).bind fun t => t.val.observer?).getD d.observer

/-- Observe with the observer of a kit. -/
def observeOn (d : Defaults σ) (k : Kit σ) (failure : Option Failure) :
    Observing σ (Option Report) :=
  (d.observerOf k).observeOn d.filter k failure

end Defaults

end Vigil
