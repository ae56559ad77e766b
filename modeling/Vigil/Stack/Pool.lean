import Vigil.Identity
import Vigil.Stack.Trace

/-!
# Recording stacks into pooled buffers

Addresses are recorded into buffers that a pool hands out empty and takes back.  A pool keeps no
more idle buffers than its capacity, and no stack is recorded deeper than its buffers are long.

A filter decides which addresses count; it may change a state as it is asked, so it is asked
about no more addresses than needed.

Room for the idle buffers is reserved when a pool is made, and room for the addresses when a buffer is.  Sizes
are numbers without bound here, and there is always room; a program stops where there is none, at the latest if
it asks for more bytes than half of a machine word can count.

* `Pool`, `Pool.checkout`, `Pool.release`;
* `record` — the beginning of a stack, as far as the limit goes;
* `firstAccepted`, and `acceptedPlace?` with `fromFirstAccepted` — the two ways a filter is put to recorded
  addresses;
* `Pool.caller`, `Pool.trace` — both on a whole stack.
-/

namespace Vigil

/-- A buffer for addresses, and which of all buffers it is. -/
structure Buffer where
  mark : Mark
  content : List Address := []
deriving DecidableEq, Repr, Inhabited

/-- Idle buffers, the one put back last first. -/
structure Pool where
  idle : List Buffer := []
  /-- How many addresses are recorded at most; at least one. -/
  bufferLength : Nat
  /-- How many idle buffers are kept at most. -/
  capacity : Nat
deriving DecidableEq, Repr, Inhabited

namespace Pool

/-- The length of buffers when none is asked for. -/
def defaultBufferLength : Nat := 1000

/-- The capacity when none is asked for. -/
def defaultCapacity : Nat := 16

/-- A pool without idle buffers. -/
def make (bufferLength capacity : Nat) : Pool :=
  { bufferLength := max bufferLength 1, capacity }

/-- The pool that is used when none is given. -/
def shared : Pool := make defaultBufferLength defaultCapacity

/-- Take the buffer put back last, or a new one. -/
def checkout (p : Pool) : Fresh (Buffer × Pool) :=
  match p.idle with
  | b :: bs => pure (b, { p with idle := bs })
  | [] => do return ({ mark := ← Supply.draw }, p)

/-- Put a buffer back, emptied; it is dropped if enough are idle. -/
def release (p : Pool) (b : Buffer) : Pool :=
  if p.idle.length < p.capacity then { p with idle := { b with content := [] } :: p.idle } else p

end Pool

/-- Write addresses of a stack behind `content` until it holds `limit` of them; the first is
written in any case. -/
def record (limit : Nat) : List Address → List Address → List Address
  | content, [] => content
  | content, a :: stack =>
    if content.length + 1 < limit then record limit (content ++ [a]) stack else content ++ [a]

variable {ρ : Type}

/-- The first address that the filter accepts; it is asked about none behind that one. -/
def firstAccepted (accept : Address → StateM ρ Bool) : List Address → StateM ρ (Option Address)
  | [] => pure none
  | a :: as => do
    if ← accept a then return some a else firstAccepted accept as

/-- The place of the first address that the filter accepts; it is asked about none behind that one. -/
def acceptedPlace? (accept : Address → StateM ρ Bool) : List Address → StateM ρ (Option Nat)
  | [] => pure none
  | a :: as => do
    if ← accept a then return some 0 else return (← acceptedPlace? accept as).map (· + 1)

/-- The addresses from the first that the filter accepts on. -/
def fromFirstAccepted (accept : Address → StateM ρ Bool) (as : List Address) :
    StateM ρ (List Address) := do
  return as.drop ((← acceptedPlace? accept as).getD as.length)

namespace Pool

/-- Record a stack into a buffer of the pool and put the buffer back.  This is all that becomes of the pool if
nothing else happens to it while the buffer is out. -/
def walk (p : Pool) (stack : List Address) : Fresh (List Address × Pool) := do
  let (b, rest) ← p.checkout
  let recorded := record p.bufferLength b.content stack
  return (recorded, rest.release { b with content := recorded })

/-- The innermost recorded address that the filter accepts, or no place. -/
def caller (recorded : List Address) (accept : Address → StateM ρ Bool) : StateM ρ Address := do
  return (← firstAccepted accept recorded).getD Address.none

/-- The trace of the recorded addresses from the innermost accepted one on. -/
def trace (recorded : List Address) (accept : Address → StateM ρ Bool) : StateM ρ StackTrace := do
  return .ofAddresses (← fromFirstAccepted accept recorded)

end Pool

end Vigil
