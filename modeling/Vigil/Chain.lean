import Vigil.Identity

/-!
# Chains: lists that grow at one end and share the rest

A chain holds items newest first.  It grows by links, each holding a batch of items and a mark of
its own, so that chains made from one another share links and can be told from chains that merely
hold the same items.

* `Chain.push`, `Chain.extend`, `Chain.pushEach` — new items on top;
* `Chain.overlay` — a whole chain on top of another;
* `Chain.above` — what was laid on top of an earlier chain;
* `Chain.sameHead` — identity of the newest link;
* `Chain.Cursor` — a place in a chain, from which the items below are read one at a time;
* `Chain.visit` — one item after another, read so, until the visitor stops.

Each operation is described by the list it leaves: `toList_push`, `toList_extend`,
`toList_pushEach`, `toList_overlay`.
-/

namespace Vigil

/-- One step of growth: a batch of items, oldest first, under a mark. -/
structure Link (α : Type) where
  mark : Mark
  batch : List α
deriving Repr, DecidableEq, Inhabited

/-- Links, newest first, and the number of items in them. -/
structure Chain (α : Type) where
  links : List (Link α) := []
  size : Nat := 0
deriving Repr, DecidableEq, Inhabited

namespace Chain

variable {α : Type}

def empty : Chain α := {}

/-- The items, newest first. -/
def toList (c : Chain α) : List α := c.links.flatMap fun l => l.batch.reverse

def isEmpty (c : Chain α) : Bool := c.size == 0

def latest? (c : Chain α) : Option α := c.toList.head?

/-- Lay a batch, given oldest first, on top as one link; nothing is laid if there is none. -/
def extend (c : Chain α) : List α → Fresh (Chain α)
  | [] => pure c
  | batch => do
    let mark ← Supply.draw
    return { links := ⟨mark, batch⟩ :: c.links, size := c.size + batch.length }

/-- Lay one item on top. -/
def push (c : Chain α) (a : α) : Fresh (Chain α) := c.extend [a]

/-- Lay items on top one at a time, in the order given. -/
def pushEach (c : Chain α) : List α → Fresh (Chain α)
  | [] => pure c
  | a :: as => do (← c.push a).pushEach as

/-- A chain of one batch, given oldest first. -/
def ofBatch (batch : List α) : Fresh (Chain α) := empty.extend batch

/-- Lay the chain `newer` on top of `c`: on the empty chain it is `newer` itself, on any other
the items are laid on top as one link. -/
def overlay (c newer : Chain α) : Fresh (Chain α) :=
  match c.links with
  | [] => pure newer
  | _ :: _ => c.extend newer.toList.reverse

/-- The links in front of the one marked `stop`, if there is such a one. -/
def linksAbove? (stop : Mark) : List (Link α) → Option (List (Link α))
  | [] => none
  | l :: ls => if l.mark = stop then some [] else (linksAbove? stop ls).map (l :: ·)

/-- A chain of its own with the batches of the links. -/
def rebuild : List (Link α) → Fresh (Chain α)
  | [] => pure empty
  | l :: ls => do (← rebuild ls).extend l.batch

/-- What was laid on top of `base` to make `c`; all of `c` if it was not made from `base`, or if
there is nothing in `base`. -/
def above (c base : Chain α) : Fresh (Chain α) :=
  match base.links with
  | [] => pure c
  | stop :: _ =>
    if c.size < base.size then pure c
    else
      match linksAbove? stop.mark c.links with
      | none => pure c
      | some ls => rebuild ls

/-- The newest links are the same, or neither chain has one. -/
def sameHead (a b : Chain α) : Bool :=
  match a.links, b.links with
  | x :: _, y :: _ => x.mark == y.mark
  | [], [] => true
  | _, _ => false

end Chain

/-- Visit the items of a list until the visitor stops; whether it never did. -/
def visitList {α ρ : Type} (visitor : α → StateM ρ Bool) : List α → StateM ρ Bool
  | [] => pure true
  | a :: as => do
    if ← visitor a then visitList visitor as else return false

/-- The visitor that remembers what it sees, and stops at its visit number `stop` if there is such a
number. -/
def stopAt {α : Type} (stop : Option Nat) (a : α) : StateM (Array α) Bool := do
  modify (·.push a)
  return stop != some (← get).size

namespace Chain

variable {α : Type}

/-! ### Reading items one at a time -/

/-- The number of items in the newest of some links. -/
def newestSize : List (Link α) → Nat
  | [] => 0
  | l :: _ => l.batch.length

/-- A place in a chain: the links from the current one down, and how many items of the current link
are still to come.  A batch is held oldest first and read from its end. -/
structure Cursor (α : Type) where
  links : List (Link α)
  left : Nat
  left_le : left ≤ newestSize links

namespace Cursor

/-- The place in front of all items of some links. -/
def start (links : List (Link α)) : Cursor α := ⟨links, newestSize links, Nat.le_refl _⟩

/-- The next item when `left` items of the first link are still to come, and the place behind it.  A
link with none left is passed over. -/
def nextFrom : (links : List (Link α)) → (left : Nat) → left ≤ newestSize links →
    Option (α × Cursor α)
  | [], _, _ => none
  | l :: ls, left + 1, h => some (l.batch[left], ⟨l :: ls, left, Nat.le_of_succ_le h⟩)
  | _ :: ls, 0, _ => nextFrom ls (newestSize ls) (Nat.le_refl _)

/-- The next item, and the place behind it. -/
def next? (c : Cursor α) : Option (α × Cursor α) := nextFrom c.links c.left c.left_le

/-- Up to `n` items, read one at a time. -/
def take : Nat → Cursor α → List α
  | 0, _ => []
  | n + 1, c =>
    match c.next? with
    | none => []
    | some (a, c) => a :: take n c

/-- The number of items in some links. -/
def count : List (Link α) → Nat
  | [] => 0
  | l :: ls => l.batch.length + count ls

/-- The number of items that are still to come. -/
def remaining (c : Cursor α) : Nat := c.left + count c.links.tail

theorem remaining_lt_of_nextFrom {links : List (Link α)} {left : Nat}
    {h : left ≤ newestSize links} {a : α} {c : Cursor α} (hnext : nextFrom links left h = some (a, c)) :
    c.remaining < left + count links.tail := by
  induction links generalizing left with
  | nil => cases hnext
  | cons l ls ih =>
    cases left with
    | succ left =>
      obtain ⟨-, rfl⟩ := Prod.mk.inj (Option.some.inj hnext)
      exact Nat.add_lt_add_right (Nat.lt_succ_self left) _
    | zero =>
      -- the links below hold what is left
      have hlt : c.remaining < newestSize ls + count ls.tail := ih hnext
      cases ls with
      | nil => cases hnext
      | cons m ms => exact Nat.lt_of_lt_of_eq hlt (Nat.zero_add _).symm

theorem remaining_lt_of_next? {c rest : Cursor α} {a : α} (h : c.next? = some (a, rest)) :
    rest.remaining < c.remaining := remaining_lt_of_nextFrom h

/-- Visit the items still to come until the visitor stops; whether it never did. -/
def visit {ρ : Type} (visitor : α → StateM ρ Bool) (c : Cursor α) : StateM ρ Bool :=
  match _ : c.next? with
  | none => pure true
  | some (a, rest) => do
    if ← visitor a then rest.visit visitor else return false
termination_by c.remaining
decreasing_by exact remaining_lt_of_next? ‹_›

end Cursor

/-- The place in front of the newest item. -/
def cursor (c : Chain α) : Cursor α := .start c.links

/-- Visit the items, newest first, until the visitor stops; whether it never did. -/
def visit {ρ : Type} (visitor : α → StateM ρ Bool) (c : Chain α) : StateM ρ Bool :=
  c.cursor.visit visitor

/-! ### The list of items after each operation -/

@[simp] theorem toList_empty : (empty : Chain α).toList = [] := rfl

theorem toList_extend (c : Chain α) (batch : List α) (s : Supply) :
    ((c.extend batch).run s).1.toList = batch.reverse ++ c.toList := by
  cases batch with
  | nil => rfl
  | cons a as =>
    change (⟨⟨s.next, a :: as⟩ :: c.links, _⟩ : Chain α).toList = _
    simp [toList]

theorem toList_push (c : Chain α) (a : α) (s : Supply) :
    ((c.push a).run s).1.toList = a :: c.toList := by
  simp [push, toList_extend]

theorem toList_overlay (c newer : Chain α) (s : Supply) :
    ((c.overlay newer).run s).1.toList = newer.toList ++ c.toList := by
  unfold overlay
  split
  · rename_i h
    change newer.toList = _
    simp [toList, h]
  · simp [toList_extend]

theorem toList_pushEach (c : Chain α) (as : List α) (s : Supply) :
    ((c.pushEach as).run s).1.toList = as.reverse ++ c.toList := by
  induction as generalizing c s with
  | nil => rfl
  | cons a as ih =>
    change ((((c.push a).run s).1.pushEach as).run ((c.push a).run s).2).1.toList = _
    rw [ih, toList_push]
    simp

end Chain

end Vigil
