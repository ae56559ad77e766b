import Vigil.Identity

/-!
# Acting parts

A pipeline is put together from parts that its user supplies: they look at what passes, may change
it, and may keep a memory of their own.  What all parts remember together is one state `σ`; while
they act they can also draw marks, because they may make things that have an identity.

* `World σ`, `Act σ` — acting on that state;
* `Act.fresh`, `Act.look`, `Act.change` — drawing marks, reading and changing memory;
* `Slot σ α` — the place of one part's memory in the state of all.
-/

namespace Vigil

/-- What parts can touch: the marks not drawn yet, and their memory. -/
structure World (σ : Type) where
  supply : Supply
  memory : σ
deriving Inhabited

/-- Acting on a world. -/
abbrev Act (σ : Type) := StateM (World σ)

/-- A place in a state. -/
structure Slot (σ α : Type) where
  get : σ → α
  set : α → σ → σ

namespace Act

variable {σ α : Type}

/-- Draw marks while acting. -/
def fresh (x : Fresh α) : Act σ α := fun w =>
  let r := x.run w.supply
  (r.1, { w with supply := r.2 })

/-- What is in a slot. -/
def look (slot : Slot σ α) : Act σ α := fun w => (slot.get w.memory, w)

/-- Change what is in a slot. -/
def change (slot : Slot σ α) (f : α → α) : Act σ Unit := fun w =>
  ((), { w with memory := slot.set (f (slot.get w.memory)) w.memory })

instance : MonadLift Fresh (Act σ) := ⟨fresh⟩

end Act

end Vigil
