/-!
# Values of a settings document

What can stand behind a key.  Of floats and dates only their form is checked, because no setting is
one.  Tables remember how they came about, because that decides what may be added to them.

* `Value`, `Origin`, `Members`;
* `Value.isReadable` — no number in it is out of all bounds.
-/

namespace Vigil.Toml

/-- A name in a document. -/
abbrev Key := List Char

/-- How a table came about. -/
inductive Origin where
  /-- A header passed through it on the way to another table. -/
  | passed
  /-- A header opened it. -/
  | opened
  /-- A dotted key passed through it. -/
  | dotted
  /-- It was written as a value; nothing can be added to it later. -/
  | inline
deriving DecidableEq, Repr

/-- A value in a document. -/
inductive Value where
  | text (s : List Char)
  | integer (n : Int)
  | float
  | boolean (b : Bool)
  | date
  /-- A number that has the form of one but cannot be held.  It is a fault only where somebody looks
  at it. -/
  | unreadable
  | array (items : List Value)
  | table (origin : Origin) (members : List (Key × Value))
  /-- A list of tables that headers opened, the last one first. -/
  | tables (elements : List (List (Key × Value)))

/-- The members of a table, in the order they came about. -/
abbrev Members := List (Key × Value)

mutual

/-- Every number in a value can be held. -/
def Value.isReadable : Value → Bool
  | .unreadable => false
  | .array items => Value.areReadable items
  | .table _ members => Value.areReadableMembers members
  | .tables elements => Value.areReadableElements elements
  | _ => true

/-- Every number in the values of a list can be held. -/
def Value.areReadable : List Value → Bool
  | [] => true
  | v :: vs => v.isReadable && Value.areReadable vs

/-- Every number in the members of a table can be held. -/
def Value.areReadableMembers : List (Key × Value) → Bool
  | [] => true
  | (_, v) :: ms => v.isReadable && Value.areReadableMembers ms

/-- Every number in the tables of a list can be held. -/
def Value.areReadableElements : List (List (Key × Value)) → Bool
  | [] => true
  | ms :: mss => Value.areReadableMembers ms && Value.areReadableElements mss

end

end Vigil.Toml
