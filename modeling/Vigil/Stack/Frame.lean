import Vigil.Text.Quoted

/-!
# Addresses and frames

A stack is recorded as code addresses, innermost first; a frame says what stands at an address.

* `Address`, `Address.isNone`, `Address.describe`;
* `Frame`, `Frame.describe` — `file:line: function`, each part known or not.
-/

namespace Vigil

open Text

/-- A place in the running code; `0` is no place. -/
abbrev Address := UInt64

namespace Address

/-- The address that is no place. -/
def none : Address := 0

/-- The address is no place. -/
def isNone (a : Address) : Bool := a == 0

/-- The address in hexadecimal. -/
def describe (a : Address) : String := "0x" ++ String.ofList (hexDigits a.toNat)

end Address

/-- What is written for a function or a file that is not known. -/
def unknownText : String := "<unknown>"

/-- One call on a stack. -/
structure Frame where
  address : Address := 0
  /-- The name of the function; empty when it is not known. -/
  function : String := ""
  file : Option String := Option.none
  line : UInt32 := 0
deriving DecidableEq, Repr, Inhabited

namespace Frame

/-- The function, or that it is not known. -/
def functionText (f : Frame) : String := if f.function.isEmpty then unknownText else f.function

/-- The file, or that it is not known. -/
def fileText (f : Frame) : String := f.file.getD unknownText

/-- The frame on one line. -/
def describe (f : Frame) : String :=
  f.fileText ++ ":" ++ toString f.line.toNat ++ ": " ++ f.functionText

end Frame

end Vigil
