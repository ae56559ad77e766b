import Vigil.Bench.Crew

/-!
# Buffers on loan

Buffers of a pool that were taken out and not put back yet, each under a name.  A buffer whose name
is used again goes back to the pool, once the new one is out.

* `Loans`, `Loans.borrow`, `Loans.write`, `Loans.giveBack`;
* `Loans.tryOut` — a try of a probe on the same pool.
-/

namespace Vigil

/-- A pool and the buffers that are out, by name. -/
structure Loans where
  pool : Pool
  out : List (String × Buffer) := []

namespace Loans

/-- The buffer under a name. -/
def find? (l : Loans) (name : String) : Option Buffer :=
  (l.out.find? fun e => e.1 = name).map (·.2)

/-- The buffers under other names. -/
def others (l : Loans) (name : String) : List (String × Buffer) :=
  l.out.filter fun e => e.1 ≠ name

/-- Take a buffer out under a name. -/
def borrow (l : Loans) (name : String) : Fresh (Buffer × Loans) := do
  let (b, pool) ← l.pool.checkout
  let pool := match l.find? name with
    | some old => pool.release old
    | none => pool
  return (b, { pool, out := (name, b) :: l.others name })

/-- Write addresses into a buffer that is out. -/
def write (l : Loans) (name : String) (values : List Address) : Option (Buffer × Loans) :=
  (l.find? name).map fun b =>
    let b := { b with content := b.content ++ values }
    (b, { l with out := (name, b) :: l.others name })

/-- Put a buffer back. -/
def giveBack (l : Loans) (name : String) : Option Loans :=
  (l.find? name).map fun b => { pool := l.pool.release b, out := l.others name }

/-- Try the probe on a crew out, with this pool and a filter that rejects the first `n`
places. -/
def tryOut (l : Loans) (n : Nat) : Fresh (Tried × Loans) := fun supply =>
  let r := ((Probe.onCrew {} {}).tryOut n).run { supply, memory := { pool := l.pool } }
  ((r.1, { l with pool := r.2.memory.pool }), r.2.supply)

end Loans

end Vigil
