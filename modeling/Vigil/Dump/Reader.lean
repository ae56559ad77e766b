import Vigil.Dump.Line
import Vigil.Text.Lines
import Vigil.Problem

/-!
# Reading thread dumps

Lines are read one by one.  A header opens a thread; the lines after it belong to that thread until
a blank line or the next header closes it.  What was read before a line that cannot be read is
kept, so that a dump that was cut still tells of the threads in front of the cut.

* `Draft` — a thread that is still open, with a function that waits for its location;
* `Draft.take` — what one line does; `Step` — the four things it can do;
* `readLines`, `readPartial` — the threads, and the first fault if there is one;
* `read` — the threads of a dump without faults;
* `firstId` — the id of the first thread that could be read.
-/

namespace Vigil.Dump

open Text

/-- A fault and the line it is in, counted from one. -/
structure DumpError where
  line : Nat
  fault : DumpFault
deriving DecidableEq, Repr

/-- The error as a problem. -/
def DumpError.problem (e : DumpError) : Problem := .dump e.line e.fault.message

/-- A thread that is still open. -/
structure Draft where
  thread : Snapshot
  /-- The function whose location has not come yet. -/
  pending : Option (List Char) := none
deriving DecidableEq, Repr

namespace Draft

/-- The thread with a frame behind its others. -/
def addFrame (t : Snapshot) (f : Frame) : Snapshot := { t with stack := t.stack ++ [f] }

/-- The thread as it stands when nothing more comes: a waiting function is a frame without a
location. -/
def close (d : Draft) : Snapshot :=
  match d.pending with
  | none => d.thread
  | some function => addFrame d.thread { function := String.ofList function }

end Draft

/-- The threads that an open thread leaves when it is closed: itself, if there is one. -/
def closed : Option Draft → List Snapshot
  | none => []
  | some d => [d.close]

/-- What a line does to the thread that is open. -/
inductive Step where
  /-- It belongs to the thread. -/
  | keep (d : Draft)
  /-- It closes the thread. -/
  | close
  /-- It closes the thread and opens another one. -/
  | openNext (d : Draft)
  /-- It cannot be read; the open thread is left as given. -/
  | refuse (fault : DumpFault) (left : Option Draft)

/-- A plain line: the name of the thread, as long as no function came before it, or else a
function, which is then waiting. -/
def takePlain (d : Draft) (text : List Char) : Draft :=
  match d.pending, d.thread.stack, afterPrefix? nameLead text with
  | none, [], some name => { d with thread := { d.thread with name := some (String.ofList name) } }
  | _, _, _ => { thread := d.close, pending := some (trim text) }

/-- A location completes the function in front of it.  A location that cannot be read takes the
function with it. -/
def takeLocation (d : Draft) (text : List Char) : Step :=
  match d.pending with
  | none => .refuse .noFunction (some d)
  | some function =>
    match readLocation text with
    | .error e => .refuse e (some { d with pending := none })
    | .ok (file, line) =>
      let frame : Frame := { function := String.ofList function, file, line }
      .keep { thread := Draft.addFrame d.thread frame }

/-- What a line does when `current` is open. -/
def takeLine (current : Option Draft) (line : List Char) : Step :=
  match Line.ofText line with
  | .blank => .close
  | .header rest =>
    match readHeader rest with
    | .error e => .refuse e current
    | .ok t => .openNext { thread := t }
  | .location rest =>
    match current with
    | none => .refuse .noThread none
    | some d => takeLocation d rest
  | .plain text =>
    match current with
    | none => .refuse .noThread none
    | some d => .keep (takePlain d text)

/-- Read lines, the first of which has the number `n`, while `current` is open: the threads that
are closed on the way or at the end, and the first fault. -/
def readLines : Nat → Option Draft → List (List Char) → List Snapshot × Option DumpError
  | _, current, [] => (closed current, none)
  | n, current, l :: ls =>
    match takeLine current l with
    | .keep d => readLines (n + 1) (some d) ls
    | .close =>
      let r := readLines (n + 1) none ls
      (closed current ++ r.1, r.2)
    | .openNext d =>
      let r := readLines (n + 1) (some d) ls
      (closed current ++ r.1, r.2)
    | .refuse fault left => (closed left, some ⟨n, fault⟩)

/-- The threads of a text up to the first fault, and the fault. -/
def readPartial (s : List Char) : List Snapshot × Option DumpError :=
  readLines 1 none (lines s)

/-- The threads of a dump that has no fault. -/
def read (s : List Char) : Except DumpError (List Snapshot) :=
  match readPartial s with
  | (threads, none) => .ok threads
  | (_, some e) => .error e

/-- The id of the first thread that could be read; `0` if there is none. -/
def firstId (s : List Char) : UInt64 :=
  match (readPartial s).1 with
  | [] => 0
  | t :: _ => t.id

end Vigil.Dump
