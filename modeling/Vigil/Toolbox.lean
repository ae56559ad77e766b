import Vigil.Identity
import Vigil.Text.Quoted
import Vigil.Text.Outline

/-!
# Toolboxes

A toolbox holds tools under names.  A name keeps the place where it was first used; using it again
puts another tool there.

* `ToolName` — the names that have a meaning here, and any others;
* `Toolbox`, `Toolbox.put`, `Toolbox.find?`, `Toolbox.names`;
* `Toolbox.same` — the same instances under the same names in the same order;
* `names_put`, `find?_put` — what `put` does.
-/

namespace Vigil

open Text

/-- The name of a tool. -/
structure ToolName where
  text : String
deriving DecidableEq, Repr, Inhabited

namespace ToolName

def logger : ToolName := ⟨"logger"⟩

def metrics : ToolName := ⟨"metrics"⟩

/-- The name of the tool that knows the active span. -/
def tracer : ToolName := ⟨"tracer"⟩

/-- The name of the observer of failures. -/
def observer : ToolName := ⟨"error_monitor"⟩

def describe (n : ToolName) : String := "ToolId(" ++ quote n.text ++ ")"

end ToolName

/-- Tools under names, in the order in which the names were first used. -/
structure Toolbox (τ : Type) where
  entries : List (ToolName × Instance τ) := []

namespace Toolbox

variable {τ : Type}

def empty : Toolbox τ := {}

/-- Put a tool in the place of the one of its name, or behind all others. -/
def putEntry (n : ToolName) (t : Instance τ) :
    List (ToolName × Instance τ) → List (ToolName × Instance τ)
  | [] => [(n, t)]
  | (n', t') :: es => if n' = n then (n, t) :: es else (n', t') :: putEntry n t es

def put (b : Toolbox τ) (n : ToolName) (t : Instance τ) : Toolbox τ := ⟨putEntry n t b.entries⟩

/-- The tool under a name. -/
def find? (b : Toolbox τ) (n : ToolName) : Option (Instance τ) :=
  (b.entries.find? fun e => e.1 = n).map (·.2)

def names (b : Toolbox τ) : List ToolName := b.entries.map (·.1)

def size (b : Toolbox τ) : Nat := b.entries.length

def isEmpty (b : Toolbox τ) : Bool := b.entries.isEmpty

/-- The entries agree one by one in name and instance. -/
def sameEntries : List (ToolName × Instance τ) → List (ToolName × Instance τ) → Bool
  | [], [] => true
  | a :: as, b :: bs => a.1 == b.1 && a.2.same b.2 && sameEntries as bs
  | _, _ => false

/-- The same instances under the same names in the same order. -/
def same (a b : Toolbox τ) : Bool := sameEntries a.entries b.entries

def describe (b : Toolbox τ) : String := listOutline (b.names.map ToolName.describe)

theorem names_put (b : Toolbox τ) (n : ToolName) (t : Instance τ) :
    (b.put n t).names = if n ∈ b.names then b.names else b.names ++ [n] := by
  obtain ⟨es⟩ := b
  simp only [put, names]
  induction es with
  | nil => simp [putEntry]
  | cons e es ih =>
    by_cases h : e.1 = n
    · simp [putEntry, h]
    · have h' : ¬ n = e.1 := fun q => h q.symm
      simp only [putEntry, h, if_false, List.map_cons, ih, List.mem_cons, h', false_or]
      split <;> simp [*]

theorem find?_put (b : Toolbox τ) (n m : ToolName) (t : Instance τ) :
    (b.put n t).find? m = if n = m then some t else b.find? m := by
  obtain ⟨es⟩ := b
  simp only [put, find?]
  induction es with
  | nil =>
    by_cases h : n = m <;> simp [putEntry, h]
  | cons e es ih =>
    by_cases h : e.1 = n
    · by_cases hm : n = m
      · simp [putEntry, h, hm]
      · simp [putEntry, h, hm]
    · by_cases he : e.1 = m
      · subst he
        have hm : ¬ n = e.1 := fun q => h q.symm
        simp [putEntry, h, hm]
      · simp [putEntry, h, he, ih]

end Toolbox

end Vigil
