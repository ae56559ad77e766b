import Vigil.Dump.Thread
import Vigil.Settings
import Vigil.Text.Utf8
import Vigil.Decimal.Unsigned

/-!
# Writing thread dumps

A dump is a sequence of blocks with an empty line between them.  A block is a header line, a name
line if the thread has a name, and two lines for each frame: the function, and behind a tab the
file and the line.

* `headerLine`, `nameLine`, `frameLines`, `block` — the parts;
* `addBlock` — one more block;
* `writeAll` — a dump of all threads, which stops when its budget is spent and is then cut back to
  it;
* `writeCurrent` — a dump of one thread.
-/

namespace Vigil.Dump

open Text Decimal

/-- What a header line begins with. -/
def headerLead : List Char := "thread ".toList

/-- What stands behind the state of a thread bound to one system thread. -/
def lockedTail : List Char := ", locked to thread".toList

/-- What a name line begins with. -/
def nameLead : List Char := "name: ".toList

/-- The header without its line feed. -/
def header (t : ThreadInfo) : List Char :=
  headerLead ++ digits t.id.toNat ++ [' ', '['] ++ t.state.label.toList ++ lockedTail ++ [']', ':']

/-- The header line. -/
def headerLine (t : ThreadInfo) : List Char := header t ++ ['\n']

/-- A text on one line: line feeds and carriage returns become spaces. -/
def oneLine (s : List Char) : List Char :=
  s.map fun c => if c = '\r' ∨ c = '\n' then ' ' else c

/-- The name line, if there is a name. -/
def nameLine : Option String → List Char
  | none => []
  | some name => nameLead ++ oneLine name.toList ++ ['\n']

/-- The two lines of a frame. -/
def frameLines (f : Frame) : List Char :=
  f.functionText.toList ++ ['\n', '\t'] ++ f.fileText.toList ++ ':' :: digits f.line.toNat ++ ['\n']

/-- The block of a thread with some frames. -/
def block (t : ThreadInfo) (frames : List Frame) : List Char :=
  headerLine t ++ nameLine t.name ++ frames.flatMap frameLines

/-- A text with one more block behind it, and an empty line between if the text is not empty. -/
def addBlock (out : List Char) (t : ThreadInfo) (frames : List Frame) : List Char :=
  out ++ (if out.isEmpty then [] else ['\n']) ++ block t frames

/-- Blocks one behind another. -/
def writeBlocks (blocks : List (ThreadInfo × List Frame)) : List Char :=
  blocks.foldl (fun out b => addBlock out b.1 b.2) []

/-- Add blocks without frames until the text has reached `capacity` bytes. -/
def addUntilFull (capacity : Nat) : List Char → List ThreadInfo → List Char
  | out, [] => out
  | out, t :: ts => if capacity ≤ byteSize out then out else addUntilFull capacity (addBlock out t []) ts

/-- A dump of the calling thread, within the budget for one thread. -/
def writeCurrent (budget : DumpBudget) (current : ThreadInfo) (stack : List Frame) : List Char :=
  clip (budget.capacityFor 1).toNat (block current stack)

/-- The bytes that a dump of all threads may take. -/
def capacityOf (budget : DumpBudget) (census : Census) : Nat :=
  (budget.capacityFor (UInt64.ofNat (census.others.length + 1))).toNat

/-- A dump of all threads, the calling one first and with its stack, within the budget. -/
def writeAll (budget : DumpBudget) (census : Census) : List Char :=
  let capacity := capacityOf budget census
  clip capacity (addUntilFull capacity (block census.current census.stack) census.others)

end Vigil.Dump
