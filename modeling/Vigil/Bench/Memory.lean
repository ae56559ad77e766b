import Vigil.Act
import Vigil.Report

/-!
# The memory of a bench

On a bench, pipelines are put together from parts that remember what was done to them: a log that
all parts write to, what each recording sink was given, how often each counting part was asked.
Parts of one kind are told apart by number.

* `Recording`, `Tally` — what one part remembers;
* `Bench` — what all remember; `Bench.recording`, `Bench.gateCalls`, … — the slots in it;
* `Bench.note` — one more line in the log.
-/

namespace Vigil

/-- What a recording sink remembers. -/
structure Recording where
  /-- The reports it was given, as it left them, oldest first. -/
  reports : List Report := []
  flushes : Nat := 0
deriving Inhabited

/-- What a counting review remembers. -/
structure Tally where
  calls : Nat := 0
  /-- The report it saw last, as it saw it. -/
  last? : Option Report := none
deriving Inhabited

/-- What the parts on a bench remember. -/
structure Bench where
  /-- The lines of the log, the last one first. -/
  log : List String := []
  recordings : Nat → Recording := fun _ => {}
  gateCalls : Nat → Nat := fun _ => 0
  tallies : Nat → Tally := fun _ => {}
  flushes : Nat → Nat := fun _ => 0
deriving Inhabited

namespace Bench

/-- A function changed at one number. -/
def changeAt {α : Type} (n : Nat) (a : α) (f : Nat → α) : Nat → α :=
  fun m => if m = n then a else f m

/-- The log. -/
def logSlot : Slot Bench (List String) := ⟨Bench.log, fun l b => { b with log := l }⟩

/-- What a recording sink remembers. -/
def recording (n : Nat) : Slot Bench Recording :=
  ⟨fun b => b.recordings n, fun r b => { b with recordings := changeAt n r b.recordings }⟩

/-- How often a counting gate was asked. -/
def gateCount (n : Nat) : Slot Bench Nat :=
  ⟨fun b => b.gateCalls n, fun c b => { b with gateCalls := changeAt n c b.gateCalls }⟩

/-- What a counting review remembers. -/
def tally (n : Nat) : Slot Bench Tally :=
  ⟨fun b => b.tallies n, fun t b => { b with tallies := changeAt n t b.tallies }⟩

/-- How often a tool was flushed. -/
def flushCount (n : Nat) : Slot Bench Nat :=
  ⟨fun b => b.flushes n, fun c b => { b with flushes := changeAt n c b.flushes }⟩

end Bench

variable {σ : Type}

/-- One more line in a log. -/
def note (log : Slot σ (List String)) (line : String) : Act σ Unit := Act.change log (line :: ·)

end Vigil
