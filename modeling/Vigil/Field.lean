import Vigil.Value
import Vigil.Tags

/-!
# Fields

A field is a key, a value and tags.

* `Field`, `Field.beq`;
* `Field.describe` — `key=value`;
* `Field.json` — the three parts in that order.
-/

namespace Vigil

open Text

/-- A key, what is said under it, and the tags that qualify it. -/
structure Field where
  key : String
  value : Value
  tags : Tags := {}
deriving Inhabited

namespace Field

/-- Equal key, value, and tags in order. -/
def beq (a b : Field) : Bool := a.key == b.key && a.value == b.value && a.tags == b.tags

instance : BEq Field := ⟨beq⟩

/-- The field with one more tag. -/
def withTag (f : Field) (name : String) : Field := { f with tags := f.tags.insert name }

/-- The field as `key=value`. -/
def describe (f : Field) : String := f.key ++ "=" ++ f.value.describe

/-- The field as a JSON object. -/
def json (f : Field) : String :=
  jsonObject [("key", jsonString f.key), ("value", f.value.json),
    ("properties", jsonArray (f.tags.names.map jsonString))]

end Field

end Vigil
