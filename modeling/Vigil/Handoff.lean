import Vigil.Observe

/-!
# Handing kits on

A kit reaches the code that needs it in two ways.  It is handed on by value, together with a span,
or it is entered on a thread and stays current there until its guard is given up.

* `Handoff`, `Handoff.attach`, `Handoff.withSpan`, `Handoff.retrieve`;
* `Observer.observeFrom` — observing on what was handed on.
-/

namespace Vigil

open Text

/-- What one piece of code hands on to another. -/
structure Handoff (σ : Type) where
  kit? : Option (Kit σ) := none
  span? : Option Span := none

namespace Handoff

variable {σ : Type}

/-- Hand on this kit. -/
def attach (h : Handoff σ) (k : Kit σ) : Handoff σ := { h with kit? := some k }

/-- Hand on this span. -/
def withSpan (h : Handoff σ) (s : Span) : Handoff σ := { h with span? := some s }

/-- The kit that was handed on, or one with nothing in it. -/
def retrieve (h : Handoff σ) : Kit σ := h.kit?.getD .empty

/-- A kit was handed on. -/
def hasKit (h : Handoff σ) : Bool := h.kit?.isSome

/-- What is handed on, as it introduces itself, the span by an id written by `showId`. -/
def describeWith (showId : UInt64 → String) (h : Handoff σ) : String :=
  outline "CallContext" [
    ("belt", optionOutline (h.kit?.map Kit.describe)),
    ("span", optionOutline (h.span?.map fun s => showId s.id))]

def describe (h : Handoff σ) : String := h.describeWith Span.describeId

end Handoff

namespace Observer

variable {σ : Type}

/-- Observe on what was handed on: inside the span handed on, or else the one that the kit's tracer
knows. -/
def observeFrom (o : Observer σ) (fallback : PlaceFilter σ) (h : Handoff σ) :
    Option Failure → Observing σ (Option Report)
  | none => pure none
  | some failure =>
    let k := h.retrieve
    o.observe fallback k (h.span?.orElse fun _ => k.activeSpan) failure

end Observer

end Vigil
