import Vigil.Bench.Memory
import Vigil.Gate
import Vigil.Review
import Vigil.Sink

/-!
# Recording and counting parts

* `Sink.recording` — gives every report a name of its own and keeps a copy;
* `Gate.counting`, `Review.counting` — decide the same every time and count how often;
* each works on a slot of any memory.
-/

namespace Vigil

variable {σ : Type}

/-- A sink that names each report after its source and the number of reports it was given, and
keeps the report as it leaves it. -/
def Sink.recording (slot : Slot σ Recording) (source : String) : Sink σ where
  emit r := do
    let n := (← Act.look slot).reports.length + 1
    let r := r.addExternalId ⟨source, source ++ "-" ++ toString n⟩
    Act.change slot fun m => { m with reports := m.reports ++ [r] }
    return r
  flush := Act.change slot fun m => { m with flushes := m.flushes + 1 }

/-- The source of a recording sink that is given none. -/
def defaultRecordingSource : String := "recording"

/-- A gate that says the same every time and counts how often it is asked. -/
def Gate.counting (slot : Slot σ Nat) (verdict : Verdict) : Gate σ := fun _ _ => do
  Act.change slot (· + 1)
  return verdict

/-- A review that decides the same every time, counts how often it is asked and keeps the report
it saw last. -/
def Review.counting (slot : Slot σ Tally) (keep : Bool) : Review σ := fun r => do
  Act.change slot fun t => { calls := t.calls + 1, last? := some r }
  return (keep, r)

end Vigil
