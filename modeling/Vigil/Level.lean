/-!
# Levels

How serious a report is, from `trace` to `panic`.

* `Level`, `Level.rank`, `Level.label`, `Level.describe`;
* `Level.ofLabel?` — reading a label back.
-/

namespace Vigil

/-- How serious a report is. -/
inductive Level where
  | trace
  | debug
  | info
  | warn
  | error
  | panic
deriving DecidableEq, Repr

namespace Level

/-- What is assumed when nothing is said. -/
instance : Inhabited Level := ⟨info⟩

/-- The place of a level, the least serious first. -/
def rank : Level → Nat
  | trace => 0
  | debug => 1
  | info => 2
  | warn => 3
  | error => 4
  | panic => 5

/-- The level as a label. -/
def label : Level → String
  | trace => "TRACE"
  | debug => "DEBUG"
  | info => "INFO"
  | warn => "WARN"
  | error => "ERROR"
  | panic => "PANIC"

/-- The level as a name. -/
def describe : Level → String
  | trace => "Trace"
  | debug => "Debug"
  | info => "Info"
  | warn => "Warn"
  | error => "Error"
  | panic => "Panic"

/-- All levels, the least serious first. -/
def all : List Level := [trace, debug, info, warn, error, panic]

/-- The level with this label. -/
def ofLabel? (s : String) : Option Level := all.find? fun l => l.label = s

theorem ofLabel?_label (l : Level) : ofLabel? l.label = some l := by cases l <;> rfl

theorem rank_injective {a b : Level} (h : a.rank = b.rank) : a = b := by
  cases a <;> cases b <;> first | rfl | cases h

end Level

end Vigil
