import Vigil.Identity
import Vigil.Text.Quoted
import Vigil.Text.Json
import Vigil.Decimal.Layout

/-!
# Values

What a field says.  Plain values are compared by what they are, kind by kind: a number of one kind
never equals a number of another, and a number that is none differs from itself.  Errors and
values of which only a rendering is known are compared by identity.

* `Value`, `Value.beq`;
* `Value.display` — the value as text, `Value.describe` — with its kind visible;
* `Value.json` — the value as JSON.
-/

namespace Vigil

open Text Decimal

/-- An error that somebody raised: its message, and which of all raised errors it is. -/
abbrev Fault := Instance String

/-- What a field says. -/
inductive Value where
  | text (s : String)
  | int (n : Int64)
  | nat (n : UInt64)
  | float (x : Float)
  | bool (b : Bool)
  /-- An error, known by identity. -/
  | fault (e : Fault)
  /-- Something of which only its rendering is known. -/
  | rendered (r : Instance String)
deriving Inhabited

namespace Value

/-- Equal kinds and equal contents; errors and rendered things by identity, floats by the equality
of floats. -/
def beq : Value → Value → Bool
  | text a, text b => a == b
  | int a, int b => a == b
  | nat a, nat b => a == b
  | float a, float b => a == b
  | bool a, bool b => a == b
  | fault a, fault b => a.same b
  | rendered a, rendered b => a.same b
  | _, _ => false

instance : BEq Value := ⟨beq⟩

/-- The value as plain text. -/
def display : Value → String
  | text s => s
  | int n => toString n.toInt
  | nat n => toString n.toNat
  | float x => Layout.plain.write x
  | bool b => if b then "true" else "false"
  | fault e => e.val
  | rendered r => r.val

/-- The value as text that shows where text begins and ends and what is an error. -/
def describe : Value → String
  | text s => quote s
  | fault e => "Error(" ++ e.val ++ ")"
  | v => v.display

/-- The value as JSON; errors and rendered things as strings. -/
def json : Value → String
  | text s => jsonString s
  | float x => Layout.json.write x
  | fault e => jsonString e.val
  | rendered r => jsonString r.val
  | v => v.display

/-- The text of a text value. -/
def text? : Value → Option String
  | text s => some s
  | _ => none

/-- The truth value of a boolean. -/
def bool? : Value → Option Bool
  | bool b => some b
  | _ => none

/-- The number of a signed integer. -/
def int? : Value → Option Int64
  | int n => some n
  | _ => none

end Value

end Vigil
