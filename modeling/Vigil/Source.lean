import Vigil.Kit

/-!
# Sources of fields

Fields come from a single field, a list, an array, a chain, a kit, from one source followed by another, or
from a source that is lent.  Whoever looks at the fields visits them in order and says of each whether to go
on; a stop in one part keeps all later parts from being visited.

* `Source`, `Source.visit`;
* `Source.size` — the number of fields, which no visit is needed for.  It is a number without bound: as many
  fields as a machine word cannot count any more do not fit into a list;
* `Source.toList`, `Source.get?` — two visits: all fields, and the first value under a key.
-/

namespace Vigil

/-- Where fields come from. -/
inductive Source (σ : Type) where
  | field (f : Field)
  | list (fs : List Field)
  | array (fs : Array Field)
  | chain (c : Chain Field)
  | kit (k : Kit σ)
  /-- One source, and another one behind it. -/
  | both (a b : Source σ)
  /-- A source that another one lends. -/
  | lent (s : Source σ)

namespace Source

variable {σ ρ : Type}

/-- Visit the fields in order until the visitor stops; whether it never did. -/
def visit (visitor : Field → StateM ρ Bool) : Source σ → StateM ρ Bool
  | field f => visitor f
  | list fs => visitList visitor fs
  | array fs => visitList visitor fs.toList
  | chain c => c.visit visitor
  | kit k => k.fields.visit visitor
  | both a b => do
    if ← a.visit visitor then b.visit visitor else return false
  | lent s => s.visit visitor

def size : Source σ → Nat
  | field _ => 1
  | list fs => fs.length
  | array fs => fs.size
  | chain c => c.size
  | kit k => k.fields.size
  | both a b => a.size + b.size
  | lent s => s.size

def isEmpty (s : Source σ) : Bool := s.size == 0

/-- All fields, in the order they are visited. -/
def toList (s : Source σ) : List Field :=
  ((s.visit fun f => do
    modify (f :: ·)
    return true).run []).2.reverse

/-- The value of the first field under a key; the fields behind it are not visited. -/
def get? (s : Source σ) (key : String) : Option Value :=
  ((s.visit fun f => do
    if f.key = key then
      set (some f.value)
      return false
    else return true).run none).2

end Source

/-- The most recent value under a key in a chain. -/
def Chain.get? (c : Chain Field) (key : String) : Option Value :=
  (c.toList.find? fun f => f.key = key).map Field.value

end Vigil
