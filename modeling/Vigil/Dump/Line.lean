import Vigil.Dump.Writer
import Vigil.Text.Blank

/-!
# The lines of a dump

What a line is, as far as it alone can tell, and what the two kinds of lines with a form of their
own say.

* `Line`, `Line.ofText` — blank, header, location, or plain;
* `DumpFault` — what can be wrong with a line, and `DumpFault.message`;
* `readHeader`, `readLocation`.
-/

namespace Vigil.Dump

open Text Decimal

/-- What can be wrong with a line. -/
inductive DumpFault where
  /-- Nothing has been opened that the line could belong to. -/
  | noThread
  | headerWithoutColon
  | badThreadId
  | stateNotBracketed
  /-- A location with no function in front of it. -/
  | noFunction
  | locationWithoutColon
  | badLineNumber
deriving DecidableEq, Repr

/-- The fault in words. -/
def DumpFault.message : DumpFault → String
  | noThread => "expected thread header"
  | headerWithoutColon => "thread header must end with ':'"
  | badThreadId => "invalid thread id"
  | stateNotBracketed => "thread state must be bracketed"
  | noFunction => "frame location without function"
  | locationWithoutColon => "frame location must be file:line"
  | badLineNumber => "invalid frame line number"

/-- A line by its looks. -/
inductive Line where
  | blank
  /-- A header, with what stands behind its lead. -/
  | header (rest : List Char)
  /-- A location, with what stands behind its tab. -/
  | location (rest : List Char)
  /-- Anything else: a name or a function. -/
  | plain (text : List Char)
deriving DecidableEq, Repr

/-- What a line looks like. -/
def Line.ofText (s : List Char) : Line :=
  if (trim s).isEmpty then blank
  else
    match afterPrefix? headerLead s with
    | some rest => header rest
    | none =>
      match s with
      | '\t' :: rest => location rest
      | s => plain s

/-- Read the state in a header: nothing, or brackets, with or without the note that the thread is
bound to one system thread. -/
def readState (s : List Char) : Except DumpFault (String × Bool) :=
  match s with
  | [] => .ok ("", false)
  | '[' :: rest =>
    match beforeSuffix? [']'] rest with
    | none => .error .stateNotBracketed
    | some inner =>
      match beforeSuffix? lockedTail inner with
      | some state => .ok (String.ofList state, true)
      | none => .ok (String.ofList inner, false)
  | _ => .error .stateNotBracketed

/-- Read a header behind its lead: an id, and behind a space the state, up to a colon at the end
of the line. -/
def readHeader (s : List Char) : Except DumpFault Snapshot :=
  match beforeSuffix? [':'] (trimEnd s) with
  | none => .error .headerWithoutColon
  | some text =>
    let (id, rest) := (splitFirst? ' ' text).getD (text, [])
    match readUnsigned? UInt64.size id with
    | none => .error .badThreadId
    | some n =>
      match readState (trim rest) with
      | .error e => .error e
      | .ok (state, locked) => .ok { id := UInt64.ofNat n, state, locked }

/-- Read a location behind its tab: a file and, behind the last colon, a line.  A file that is
empty or said to be unknown is none. -/
def readLocation (s : List Char) : Except DumpFault (Option String × UInt32) :=
  match splitLast? ':' (trim s) with
  | none => .error .locationWithoutColon
  | some (file, line) =>
    match readUnsigned? UInt32.size line with
    | none => .error .badLineNumber
    | some n =>
      let known := if file = unknownText.toList ∨ file = [] then none
        else some (String.ofList file)
      .ok (known, UInt32.ofNat n)

end Vigil.Dump
