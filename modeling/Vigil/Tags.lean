import Vigil.Text.Quoted
import Vigil.Text.Outline

/-!
# Tags

Tags qualify a field.  A field carries each tag once, and tags keep the order in which they were
first given.

* `Tags` — distinct names in order; `Tags.insert`, `Tags.ofList`;
* `Tags.insert_of_contains` — adding a tag that is there changes nothing.
-/

namespace Vigil

open Text

/-- Distinct tag names in the order they were first given. -/
structure Tags where
  /-- The names, each once. -/
  names : List String := []
  /-- No name stands twice. -/
  nodup : names.Nodup := by exact List.nodup_nil
deriving DecidableEq

namespace Tags

instance : Inhabited Tags := ⟨{}⟩

/-- The tag is among them. -/
def contains (t : Tags) (name : String) : Bool := t.names.contains name

def isEmpty (t : Tags) : Bool := t.names.isEmpty

/-- Add a tag behind the others, unless it is there already. -/
def insert (t : Tags) (name : String) : Tags :=
  if h : name ∈ t.names then t
  else
    { names := t.names ++ [name]
      nodup := List.nodup_append.2 ⟨t.nodup, by simp, by
        intro a ha b hb e
        simp only [List.mem_singleton] at hb
        exact h (hb ▸ e ▸ ha)⟩ }

/-- The distinct tags of a list, each at its first place. -/
def ofList (names : List String) : Tags := names.foldl insert {}

/-- Tags introduce themselves as a list of names. -/
def describe (t : Tags) : String :=
  "Properties(" ++ listOutline (t.names.map fun n => "Property(" ++ quote n ++ ")") ++ ")"

theorem insert_of_contains {t : Tags} {name : String} (h : t.contains name = true) :
    t.insert name = t := by
  have : name ∈ t.names := by simpa [contains] using h
  simp [insert, this]

end Tags

end Vigil
