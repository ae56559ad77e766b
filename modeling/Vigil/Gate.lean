import Vigil.Act
import Vigil.Report

/-!
# Gates

A gate sees a failure before anything is captured, and either skips it or lets it pass, with fields
that it adds.  Gates stand in a row: the first that skips ends the matter.

* `Verdict`, `Gate`;
* `Gate.runAll` — a failure before a row of gates.
-/

namespace Vigil

/-- What a gate says to a failure. -/
inductive Verdict where
  | skip
  /-- It passes, with further fields, oldest first. -/
  | pass (extras : List Field)

/-- A part that decides on a failure before anything is captured. -/
abbrev Gate (σ : Type) := TraceIds → Failure → Act σ Verdict

namespace Gate

variable {σ : Type}

/-- The fields that all gates add, in the order of the gates, or nothing if one skips; the gates
behind that one are not asked. -/
def runAll (ids : TraceIds) (failure : Failure) : List (Gate σ) → Act σ (Option (List Field))
  | [] => pure (some [])
  | g :: gs => do
    match ← g ids failure with
    | .skip => return none
    | .pass extras => return (← runAll ids failure gs).map (extras ++ ·)

def describeAll (gates : List (Gate σ)) : String :=
  Text.outline "PreHooks" [("len", toString gates.length)]

end Gate

end Vigil
