import Vigil.Dump.Thread
import Vigil.Text.Blank
import Vigil.Text.Slice
import Vigil.Decimal.Unsigned

/-!
# Stat lines

The system tells of a thread in one line: its id, its name in parentheses, and its state, before
much else.  The name may hold anything, parentheses and line breaks too, so it reaches from the
first opening to the last closing one.

* `Stat`, `Stat.read?`;
* `Stat.readAtPlaces` — the same reading by the places of the two parentheses, at which the line is cut;
* `ThreadInfo.ofStat?` — the thread that a line tells of;
* `Census.ofStats` — a census from the lines of all threads.
-/

namespace Vigil

open Text Decimal

/-- What is taken from a stat line. -/
structure Stat where
  id : UInt64
  /-- The one-letter code of the state. -/
  code : Char
  name : String
deriving DecidableEq, Repr

/-- Read a stat line. -/
def Stat.read? (s : List Char) : Option Stat :=
  match splitFirst? '(' s with
  | none => none
  | some (front, behind) =>
    match splitLast? ')' behind, readUnsigned? UInt64.size (trim front) with
    | some (name, rest), some id =>
      match trimStart rest with
      | [] => none
      | code :: _ => some { id := UInt64.ofNat id, code, name := String.ofList name }
    | _, _ => none

/-- Read a stat line by the places of the first opening and the last closing parenthesis.  That the line can
be cut in front of the opening one is relied on; the other parts are taken if they can be cut out. -/
def Stat.readAtPlaces (s : List Char) : Except BadCut (Option Stat) :=
  match place? '(' s, lastPlace? ')' s with
  | some opening, some closing =>
    (takeTo opening s).map fun front => do
      let id ← readUnsigned? UInt64.size (trim front)
      let name ← slice? (opening + 1) closing s
      let rest ← slice? (closing + 1) (byteSize s) s
      let code ← (trimStart rest).head?
      return { id := UInt64.ofNat id, code, name := String.ofList name }
  | _, _ => .ok none

/-- The thread that a stat line tells of; an empty name is none. -/
def ThreadInfo.ofStat? (line : String) : Option ThreadInfo :=
  (Stat.read? line.toList).map fun s =>
    { id := s.id, state := .ofCode s.code, name := if s.name.isEmpty then none else some s.name }

/-- The threads of a process: the calling one, under the name it was given if it was given one,
and those of the others whose lines can be read, by increasing id. -/
def Census.ofStats (current : ThreadInfo) (givenName : Option String) (stack : List Frame)
    (tasks : List (UInt64 × String)) : Census :=
  let others := (tasks.filter fun t => t.1 != current.id).mergeSort fun a b => a.1 ≤ b.1
  { current := { current with name := givenName.orElse fun _ => current.name }
    stack
    others := others.filterMap fun t => ThreadInfo.ofStat? t.2 }

end Vigil
