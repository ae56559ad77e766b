/-!
# Marks: telling equal things apart

Two chains of fields may hold the same fields and still be different chains, and two errors may
carry the same message and still be different errors.  What tells them apart is a **mark**, drawn
once when the thing is made and kept by every copy of it.

* `Mark`, `Supply` — marks are drawn in increasing order, so a drawn mark is new;
* `Fresh` — computations that draw marks;
* `Instance α` — a value with a mark of its own, `Instance.same` comparing by mark alone.
-/

namespace Vigil

/-- What tells one made thing from another; `0` is never drawn. -/
abbrev Mark := Nat

/-- The marks not drawn yet: `next` and all above it. -/
structure Supply where
  /-- The mark that is drawn next. -/
  next : Mark := 1
deriving Repr, DecidableEq, Inhabited

/-- A computation that may draw marks. -/
abbrev Fresh := StateM Supply

/-- Draw the next mark. -/
def Supply.draw : Fresh Mark := fun s => (s.next, ⟨s.next + 1⟩)

/-- A value with an identity of its own: copies keep the mark, a second making gets a new one. -/
structure Instance (α : Type) where
  /-- The identity. -/
  mark : Mark
  /-- What is identified. -/
  val : α
deriving Repr, Inhabited

namespace Instance

variable {α : Type}

/-- Give a value an identity. -/
def make (a : α) : Fresh (Instance α) := do
  return ⟨← Supply.draw, a⟩

/-- Copies of one instance are the same; equal values made twice are not. -/
def same (a b : Instance α) : Bool := a.mark == b.mark

@[simp] theorem same_self (a : Instance α) : a.same a = true := by simp [same]

end Instance

end Vigil
