import Vigil.Act
import Vigil.Report

/-!
# Reviews

A review sees an assembled report, may change it, and keeps or vetoes it.  Reviews stand in a row:
each sees the report as the one before left it, and the first veto ends the matter.

* `Review`;
* `Review.runAll` — a report before a row of reviews.
-/

namespace Vigil

/-- A part that decides on an assembled report: whether it is kept, and what becomes of it. -/
abbrev Review (σ : Type) := Report → Act σ (Bool × Report)

namespace Review

variable {σ : Type}

/-- Whether all reviews keep the report, and the report as they left it; the reviews behind a veto
are not asked. -/
def runAll : List (Review σ) → Report → Act σ (Bool × Report)
  | [], r => pure (true, r)
  | v :: vs, r => do
    let (kept, r) ← v r
    if kept then runAll vs r else return (false, r)

def describeAll (reviews : List (Review σ)) : String :=
  Text.outline "Hooks" [("len", toString reviews.length)]

end Review

end Vigil
