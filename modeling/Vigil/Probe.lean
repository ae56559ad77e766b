import Vigil.Act
import Vigil.Dump.Capture
import Vigil.Stack.Pool
import Vigil.Stack.Origin

/-!
# Probes

A probe finds out where a failure happened: the innermost place that counts, the stack from there
on, and the threads.  What counts is for a filter to say.

* `PlaceFilter` — the filters: all places, places of a user's own code;
* `Probe` — the three questions;
* `Probe.withRecorded` — the stack in a buffer that goes back to its pool when it is not needed any more;
* `Probe.system` — the probe that records real stacks into pooled buffers and dumps real threads.
-/

namespace Vigil

/-- Which places count. -/
abbrev PlaceFilter (σ : Type) := Address → Act σ Bool

namespace PlaceFilter

variable {σ : Type}

/-- A filter without memory. -/
def ofPredicate (p : Address → Bool) : PlaceFilter σ := fun a => pure (p a)

/-- Every place counts, but no place does not. -/
def anyPlace (a : Address) : Bool := !a.isNone

/-- A place counts unless its function is machinery; one of an unknown function counts. -/
def userPlace (table : SymbolTable) (a : Address) : Bool :=
  !a.isNone && !(table.functionName? a).any isMachinery

end PlaceFilter

/-- What finds out where a failure happened. -/
structure Probe (σ : Type) where
  /-- The innermost place that the filter accepts, or none. -/
  caller : PlaceFilter σ → Act σ Address
  /-- The stack from the innermost accepted place on. -/
  stack : PlaceFilter σ → Act σ StackTrace
  threads : Act σ ThreadCapture

namespace Probe

variable {σ : Type}

/-- The probe that finds nothing. -/
def blind : Probe σ where
  caller _ := pure Address.none
  stack _ := pure {}
  threads := pure {}

/-- Record the stack into a buffer of a pool that lives in the memory, and go on with what was recorded.  The
buffer is out until that is done; who takes one out of the pool meanwhile does not get this one. -/
def withRecorded {α : Type} (pool : Slot σ Pool) (readStack : Act σ (List Address))
    (f : List Address → Act σ α) : Act σ α := do
  let (b, rest) ← Act.fresh (← Act.look pool).checkout
  Act.change pool fun _ => rest
  let recorded := record rest.bufferLength b.content (← readStack)
  let found ← f recorded
  Act.change pool fun p => p.release { b with content := recorded }
  return found

/-- The probe that records what `readStack` finds, and dumps the threads that `readThreads` finds:
the calling thread's frames at the first dump, and all threads at the second. -/
def system (settings : Settings) (pool : Slot σ Pool) (readStack : Act σ (List Address))
    (readThreads : Act σ (List Frame × Census)) : Probe σ where
  caller accept := withRecorded pool readStack fun recorded => Pool.caller recorded accept
  stack accept := withRecorded pool readStack fun recorded => Pool.trace recorded accept
  threads := do
    let (frames, census) ← readThreads
    return settings.captureFrom frames census

def describeSystem (settings : Settings) (pool : Pool) : String :=
  Text.outline "SystemCapture"
    [("config", settings.describe), ("idle_buffers", toString pool.idle.length)]

end Probe

end Vigil
