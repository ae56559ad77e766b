import Vigil.Act
import Vigil.Dump.Stat
import Vigil.Probe

/-!
# A crew to try captures on

What a probe finds on a system depends on what runs there.  Here runs a small crew: a worker that
asks, three calls deep, the main thread and some helpers that sleep.  The stack that is recorded
is deeper than any buffer in use.

* `Crew`, `Crew.census`, `Crew.deepStack`;
* `Findings`, `Crew.inspect` — what captures of its threads show;
* `Gauge` — the memory of a try: a pool, and how often a filter was asked;
* `PlaceFilter.rejecting` — a filter that counts;
* `Probe.onCrew`, `Probe.tryOut` — the probe on a crew, and a try of both its questions.
-/

namespace Vigil

/-- A worker under a name, if it was given one, and sleeping helpers. -/
structure Crew where
  name : Option String := none
  helpers : Nat := 0
deriving Repr, Inhabited

namespace Crew

/-- The id of the main thread; the worker and the helpers have the ids behind it. -/
def mainId : Nat := 4001

/-- The worker as the system knows it. -/
def worker : ThreadInfo :=
  { id := UInt64.ofNat (mainId + 1), state := .running, name := some "worker" }

/-- The worker's stack. -/
def workerStack : List Frame := [
  { address := 4096, function := "worker::capture", file := some "src/worker.rs", line := 10 },
  { address := 4112, function := "worker::run", file := some "src/worker.rs", line := 20 },
  { address := 4128 }]

/-- What the system tells of a sleeping thread. -/
def sleeper (id : Nat) (name : String) : UInt64 × String :=
  (UInt64.ofNat id, toString id ++ " (" ++ name ++ ") S 1 " ++ toString mainId)

/-- The threads as the worker sees them. -/
def census (p : Crew) : Census :=
  .ofStats worker p.name workerStack
    (sleeper mainId "main"
      :: (List.range p.helpers).map fun i => sleeper (mainId + 2 + i) "helper")

/-- A stack of more calls than are ever recorded. -/
def deepStack : List Address :=
  (List.range (2 * Pool.defaultBufferLength)).map fun i => UInt64.ofNat (4096 + 16 * i)

end Crew

/-- What captures of the threads of a crew show. -/
structure Findings where
  /-- The bytes that a dump of one thread may take. -/
  capacity : Nat
  /-- A dump of the worker. -/
  dump : List Char
  /-- Both dumps keep to the budget. -/
  dumpWithin : Bool
  allWithin : Bool
  /-- The worker's id as the dump shows it. -/
  id : UInt64
  /-- Both captures show the same id. -/
  sameId : Bool
  /-- A capture of all threads. -/
  capture : ThreadCapture
  /-- A capture as the settings say. -/
  asSet : ThreadCapture

/-- Capture the threads of a crew. -/
def Crew.inspect (p : Crew) (s : Settings) : Findings :=
  let budget := s.threadDump
  let census := p.census
  let capacity := (budget.capacityFor 1).toNat
  let dump := Dump.writeCurrent budget census.current census.stack
  let id := Dump.currentId budget census.current census.stack
  let capture := Dump.captureThreads budget census.stack census
  let asSet := s.captureFrom census.stack census
  { capacity, dump, dumpWithin := Text.byteSize dump ≤ capacity
    allWithin := Text.byteSize (Dump.writeAll budget census) ≤ budget.maxBytes.toNat
    id, sameId := id == capture.currentId && id == asSet.currentId, capture, asSet }

/-- The memory of a try: a pool, and how often a filter was asked. -/
structure Gauge where
  pool : Pool
  asked : Nat := 0

namespace Gauge

/-- The pool. -/
def poolSlot : Slot Gauge Pool := ⟨pool, fun p g => { g with pool := p }⟩

/-- How often the filter was asked. -/
def askedSlot : Slot Gauge Nat := ⟨asked, fun n g => { g with asked := n }⟩

end Gauge

/-- A filter that rejects the first `n` places it is asked about, and counts them all. -/
def PlaceFilter.rejecting {σ : Type} (asked : Slot σ Nat) (n : Nat) : PlaceFilter σ := fun _ => do
  let before ← Act.look asked
  Act.change asked (· + 1)
  return n ≤ before

/-- The probe on a crew. -/
def Probe.onCrew (settings : Settings) (p : Crew) : Probe Gauge :=
  .system settings Gauge.poolSlot (pure Crew.deepStack)
    (pure (Crew.workerStack, p.census))

/-- What a try of a probe found, and how often it asked the filter each time. -/
structure Tried where
  stack : StackTrace
  stackAsked : Nat
  caller : Address
  callerAsked : Nat

/-- Ask a probe for the stack and then for the caller, each time with a filter that rejects the
first `n` places. -/
def Probe.tryOut (probe : Probe Gauge) (n : Nat) : Act Gauge Tried := do
  let filter := PlaceFilter.rejecting Gauge.askedSlot n
  Act.change Gauge.askedSlot fun _ => 0
  let stack ← probe.stack filter
  let stackAsked ← Act.look Gauge.askedSlot
  Act.change Gauge.askedSlot fun _ => 0
  let caller ← probe.caller filter
  return { stack, stackAsked, caller, callerAsked := ← Act.look Gauge.askedSlot }

/-- Whether a probe with the shared pool finds no caller and no stack that a filter accepts. -/
def Probe.findsNothing (accept : Address → Bool) : Bool × Bool :=
  let probe := Probe.onCrew {} {}
  let world : World Gauge := { supply := {}, memory := { pool := .shared } }
  let (caller, world) := (probe.caller (.ofPredicate accept)).run world
  let (stack, _) := (probe.stack (.ofPredicate accept)).run world
  (caller.isNone, stack.isEmpty)

end Vigil
