import Vigil.Stack.Frame
import Vigil.Stack.Symbol
import Vigil.Text.Outline

/-!
# Stack traces

A trace is a list of addresses.  The frames at these addresses are looked up when somebody asks
for them, once; a trace made from frames has them from the start.

* `SymbolTable` — what is known of addresses; `SymbolTable.frame`;
* `StackTrace`, made by `StackTrace.ofAddresses` or `StackTrace.ofFrames`;
* `StackTrace.resolve`, `StackTrace.frames`;
* `Cursor` — reading the frames one by one, always knowing how many are left.
-/

namespace Vigil

open Text

/-- What a symbol table says of an address. -/
structure SymbolEntry where
  /-- The linker's name of the function, in bytes. -/
  name : Option (List UInt8) := none
  file : Option String := none
  line : Option UInt32 := none
deriving Repr, Inhabited

/-- What is known of addresses, and how symbols are unpacked. -/
structure SymbolTable where
  entryAt? : Address → Option SymbolEntry
  /-- The name that a symbol packs, if it packs one. -/
  unpack? : List Char → Option (List Char) := Symbol.unpack?

namespace SymbolTable

/-- Nothing is known of any address. -/
def empty : SymbolTable := { entryAt? := fun _ => none }

/-- The frame at an address; what is not known of it is left open. -/
def frame (table : SymbolTable) (a : Address) : Frame :=
  if a.isNone then { address := a }
  else
    match table.entryAt? a with
    | none => { address := a }
    | some e =>
      { address := a, function := (e.name.map (Symbol.nameOf table.unpack?)).getD "", file := e.file
        line := e.line.getD 0 }

/-- The name of the function at an address, if it is known. -/
def functionName? (table : SymbolTable) (a : Address) : Option String :=
  let name := (table.frame a).function
  if name.isEmpty then none else some name

theorem address_frame (table : SymbolTable) (a : Address) : (table.frame a).address = a := by
  unfold frame
  split
  · rfl
  · split <;> rfl

end SymbolTable

/-- A recorded stack, innermost call first. -/
structure StackTrace where
  addresses : List Address := []
  /-- The frames, once they are looked up. -/
  resolved? : Option (List Frame) := none
deriving DecidableEq, Repr, Inhabited

namespace StackTrace

/-- A trace whose frames are not looked up yet. -/
def ofAddresses (addresses : List Address) : StackTrace := { addresses }

/-- A trace of known frames. -/
def ofFrames (frames : List Frame) : StackTrace :=
  { addresses := frames.map Frame.address, resolved? := some frames }

def length (t : StackTrace) : Nat := t.addresses.length

def isEmpty (t : StackTrace) : Bool := t.addresses.isEmpty

/-- The frames, looked up in `table` unless they are known. -/
def frames (table : SymbolTable) (t : StackTrace) : List Frame :=
  t.resolved?.getD (t.addresses.map table.frame)

/-- The trace with its frames looked up; every holder of the trace sees them from then on. -/
def resolve (table : SymbolTable) (t : StackTrace) : StackTrace :=
  { t with resolved? := some (t.frames table) }

/-- The numbered lines from `n` on. -/
def numbered : Nat → List Frame → List String
  | _, [] => []
  | n, f :: fs => (toString n ++ ". " ++ f.describe ++ "\n") :: numbered (n + 1) fs

/-- The frames as numbered lines. -/
def display (table : SymbolTable) (t : StackTrace) : String :=
  String.join (numbered 1 (t.frames table))

def describe (t : StackTrace) : String :=
  outline "StackTrace" [("len", toString t.length),
    ("resolved", if t.resolved?.isSome then "true" else "false")]

end StackTrace

/-- A place among frames. -/
structure Cursor where
  frames : List Frame
  /-- How many of the frames are in front of the place. -/
  passed : Nat := 0
deriving DecidableEq, Repr, Inhabited

namespace Cursor

/-- The place in front of the frames of a trace. -/
def start (table : SymbolTable) (t : StackTrace) : Cursor := { frames := t.frames table }

/-- The next frame and whether another one follows, and the place behind it. -/
def nextFrame (c : Cursor) : Option (Frame × Bool) × Cursor :=
  match c.frames[c.passed]? with
  | none => (none, c)
  | some f => (some (f, decide (c.passed + 1 < c.frames.length)), { c with passed := c.passed + 1 })

/-- The next frame, and the place behind it. -/
def next (c : Cursor) : Option Frame × Cursor :=
  (c.nextFrame.1.map (·.1), c.nextFrame.2)

/-- How many frames are still to come at least and at most: all but those in front of the place.  There is no
such number if more frames are in front of it than there are. -/
def bounds? (c : Cursor) : Option (Nat × Option Nat) :=
  if c.passed ≤ c.frames.length then
    some (c.frames.length - c.passed, some (c.frames.length - c.passed))
  else none

/-- How many frames are still to come, for a reader who relies on it that both bounds are the same. -/
def remaining? (c : Cursor) : Option Nat :=
  c.bounds?.bind fun (least, most) => if most = some least then some least else none

theorem lt_of_nextFrame {c rest : Cursor} {found : Frame × Bool} (h : c.nextFrame = (some found, rest)) :
    rest.frames.length - rest.passed < c.frames.length - c.passed := by
  unfold nextFrame at h
  split at h
  · cases h
  · next hframe =>
    have hlt : c.passed < c.frames.length := (List.getElem?_eq_some_iff.mp hframe).1
    obtain ⟨-, rfl⟩ := Prod.mk.inj h
    show c.frames.length - (c.passed + 1) < c.frames.length - c.passed
    omega

/-- What is found by reading on from a place to the end: each time how many frames are left, and what comes. -/
def trail (c : Cursor) : List (Option Nat × Option (Frame × Bool)) :=
  match _ : c.nextFrame with
  | (none, _) => [(c.remaining?, none)]
  | (some found, rest) => (c.remaining?, some found) :: rest.trail
termination_by c.frames.length - c.passed
decreasing_by exact lt_of_nextFrame ‹_›

end Cursor

end Vigil
