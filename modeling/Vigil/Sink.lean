import Vigil.Act
import Vigil.Report

/-!
# Sinks

A sink is where reports go.  It may change a report as it takes it, for instance to note the name
it knows the report by.  Sinks can be bundled: a bundle hands a report from one to the next.

* `Sink`, `Sink.discard`;
* `Bundle`, `Bundle.toSink`, `Bundle.describe`.
-/

namespace Vigil

/-- Where reports go. -/
structure Sink (σ : Type) where
  /-- Take a report, and leave it as it is afterwards. -/
  emit : Report → Act σ Report
  /-- Pass on what is held back. -/
  flush : Act σ Unit

namespace Sink

variable {σ : Type}

/-- The sink that does nothing. -/
def discard : Sink σ where
  emit r := pure r
  flush := pure ()

/-- Hand a report to one sink after another. -/
def emitAll : List (Sink σ) → Report → Act σ Report
  | [], r => pure r
  | s :: ss, r => do emitAll ss (← s.emit r)

/-- Flush one sink after another. -/
def flushAll : List (Sink σ) → Act σ Unit
  | [] => pure ()
  | s :: ss => do
    s.flush
    flushAll ss

end Sink

/-- Sinks that act as one. -/
structure Bundle (σ : Type) where
  sinks : List (Sink σ) := []

namespace Bundle

variable {σ : Type}

/-- A bundle with one more sink behind the others. -/
def add (b : Bundle σ) (s : Sink σ) : Bundle σ := ⟨b.sinks ++ [s]⟩

/-- Sinks bundled in order. -/
def ofSinks (sinks : List (Sink σ)) : Bundle σ := sinks.foldl add {}

/-- A bundle as a sink. -/
def toSink (b : Bundle σ) : Sink σ where
  emit := Sink.emitAll b.sinks
  flush := Sink.flushAll b.sinks

def length (b : Bundle σ) : Nat := b.sinks.length

def describe (b : Bundle σ) : String :=
  Text.outline "Emitters" [("len", toString b.length)]

end Bundle

end Vigil
