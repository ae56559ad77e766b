import Vigil.Stack.Frame

/-!
# Threads

A thread is known by its id, what it is doing, and perhaps a name.  A snapshot is a thread as a
dump shows it, with the frames of its stack.

* `RunState`, `RunState.ofCode`, `RunState.label` — what a thread is doing;
* `ThreadInfo` — a thread to be written;
* `Snapshot` — a thread that was read;
* `Census` — the calling thread and the others; `ThreadCapture` — what was read of them.
-/

namespace Vigil

/-- What a thread is doing. -/
inductive RunState where
  | running
  | sleeping
  | diskSleep
  | stopped
  | tracingStop
  | zombie
  | dead
  | idle
  | unknown
deriving DecidableEq, Repr, Inhabited

namespace RunState

/-- The state behind a one-letter code. -/
def ofCode : Char → RunState
  | 'R' => running
  | 'S' => sleeping
  | 'D' => diskSleep
  | 'T' => stopped
  | 't' => tracingStop
  | 'Z' => zombie
  | 'X' => dead
  | 'I' => idle
  | _ => unknown

/-- The state in words. -/
def label : RunState → String
  | running => "running"
  | sleeping => "sleeping"
  | diskSleep => "disk sleep"
  | stopped => "stopped"
  | tracingStop => "tracing stop"
  | zombie => "zombie"
  | dead => "dead"
  | idle => "idle"
  | unknown => "unknown"

end RunState

/-- A thread as it is found. -/
structure ThreadInfo where
  id : UInt64
  state : RunState
  name : Option String := none
deriving DecidableEq, Repr, Inhabited

/-- A thread as a dump shows it. -/
structure Snapshot where
  id : UInt64
  state : String
  /-- The dump says that it is bound to one system thread. -/
  locked : Bool
  name : Option String := none
  stack : List Frame := []
deriving DecidableEq, Repr, Inhabited

/-- The threads of a process, seen from one of them. -/
structure Census where
  /-- The thread that asks. -/
  current : ThreadInfo
  /-- Its stack when it asks. -/
  stack : List Frame
  /-- All other threads. -/
  others : List ThreadInfo
deriving Repr, Inhabited

/-- What was found out about the threads of a process. -/
structure ThreadCapture where
  /-- The thread that asked; `0` if that is not known. -/
  currentId : UInt64 := 0
  threads : List Snapshot := []
deriving DecidableEq, Repr, Inhabited

end Vigil
