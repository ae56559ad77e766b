import Vigil.Text.Outline

/-!
# Scopes

Each thread has a stack of entered kits.  Entering gives a guard; giving up the guard takes its
entry off the stack of its thread, wherever in it the entry is.  The kit entered last of those
whose guards are still held is the current one.  The ids of guards are words, drawn from one counter
for all threads.

* `Guard`, `Scopes`;
* `Scopes.enter`, `Scopes.leave`, `Scopes.current?`.
-/

namespace Vigil

open Text

/-- Which thread. -/
abbrev ThreadNumber := Nat

/-- What is given for entering, and to be given up on leaving. -/
structure Guard where
  id : UInt64
  thread : ThreadNumber
deriving DecidableEq, Repr, Inhabited

namespace Guard

/-- The guard as it introduces itself, its id written by `showId`. -/
def describeWith (showId : UInt64 → String) (g : Guard) : String :=
  outline "BeltGuard" [("id", showId g.id)]

def describe (g : Guard) : String := g.describeWith toString

end Guard

/-- An entry on a stack. -/
structure Scope (κ : Type) where
  guardId : UInt64
  kit : κ

/-- The stacks of all threads. -/
structure Scopes (κ : Type) where
  /-- The id of the next guard; behind the largest word it starts over. -/
  nextGuard : UInt64 := 1
  /-- The entries of a thread, the one entered last first. -/
  stack : ThreadNumber → List (Scope κ) := fun _ => []

namespace Scopes

variable {κ : Type}

/-- The stacks with the stack of one thread replaced. -/
def withStack (s : Scopes κ) (t : ThreadNumber) (entries : List (Scope κ)) : Scopes κ :=
  { s with stack := fun u => if u = t then entries else s.stack u }

/-- Enter a kit on a thread. -/
def enter (s : Scopes κ) (t : ThreadNumber) (k : κ) : Guard × Scopes κ :=
  (⟨s.nextGuard, t⟩,
    { s.withStack t (⟨s.nextGuard, k⟩ :: s.stack t) with nextGuard := s.nextGuard + 1 })

/-- The entries without the uppermost one of a guard. -/
def removeGuard (id : UInt64) : List (Scope κ) → List (Scope κ)
  | [] => []
  | e :: es => if e.guardId = id then es else e :: removeGuard id es

/-- Give up a guard. -/
def leave (s : Scopes κ) (g : Guard) : Scopes κ :=
  s.withStack g.thread (removeGuard g.id (s.stack g.thread))

/-- The kit that is current on a thread. -/
def current? (s : Scopes κ) (t : ThreadNumber) : Option κ := (s.stack t).head?.map Scope.kit

theorem stack_enter_of_ne {t u : ThreadNumber} (h : u ≠ t) (s : Scopes κ) (k : κ) :
    (s.enter t k).2.stack u = s.stack u := by
  simp [enter, withStack, h]

theorem stack_leave_of_ne {u : ThreadNumber} (s : Scopes κ) (g : Guard) (h : u ≠ g.thread) :
    (s.leave g).stack u = s.stack u := by
  simp [leave, withStack, h]

end Scopes

end Vigil
