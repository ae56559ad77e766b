import Vigil.Decimal.Binary64

/-!
# The fewest digits that read back

Many decimals are nearer to a given double than to any other double, and reading any of them
gives the double back.  `shortest` finds one with the fewest digits, and of those the nearest.
All is computed on natural numbers: the double is a fraction, and so are the two midpoints
between it and its neighbours, which themselves read back when the mantissa is even.

For each number of digits the candidates are the two neighbours of the double on the grid of that
many digits: if any point of a grid reads back, one of these two does.

* `Scientific` — digits and the place of the first of them;
* `Interval` — the fraction and the decimals that read back;
* `Scientific.shortest` — the digits of a positive double.
-/

namespace Vigil.Decimal

/-- The decimal `d₀.d₁d₂… · 10 ^ exponent`, with digits most significant first. -/
structure Scientific where
  /-- The digits, the first one not zero. -/
  digits : List Char
  /-- The power of ten of the first digit. -/
  exponent : Int
deriving Repr, DecidableEq

/-- Which of two equally near decimals is taken. -/
inductive Tie where
  /-- The greater one. -/
  | up
  /-- The one with an even last digit. -/
  | even
deriving Repr, DecidableEq

/-- A positive double and the decimals that read back as it, over one denominator. -/
structure Interval where
  /-- The double, as `value / unit`. -/
  value : Nat
  unit : Nat
  /-- Half the way to the next smaller and the next greater double, over the same denominator. -/
  below : Nat
  above : Nat
  /-- The midpoints read back too. -/
  closed : Bool
deriving Repr

namespace Interval

/-- The double `mantissa · 2 ^ exponent` and its surroundings.  The next smaller double is only
half as far when the mantissa is the least one of its exponent, the smallest exponents apart. -/
def of (mantissa : Nat) (exponent : Int) : Interval :=
  let narrow := mantissa = Binary64.leastNormal ∧ Binary64.minExponent < exponent
  let below := if narrow then 1 else 2
  let up := 1 <<< (exponent - 2).toNat
  let down := 1 <<< (2 - exponent).toNat
  { value := 4 * mantissa * up, unit := down, below := below * up, above := 2 * up
    closed := mantissa % 2 = 0 }

/-- The decimal `p · 10 ^ (-places)` for a grid of `num / den`-th parts reads back. -/
def contains (i : Interval) (num den : Nat) : Bool :=
  let x := num * i.unit
  let v := i.value * den
  if x ≤ v then
    let gap := v - x
    gap < i.below * den || (i.closed && gap == i.below * den)
  else
    let gap := x - v
    gap < i.above * den || (i.closed && gap == i.above * den)

/-- The power of ten of the first digit of `value / unit`. -/
def magnitude (i : Interval) : Int :=
  let guess : Int := (Nat.toDigits 10 i.value).length - (Nat.toDigits 10 i.unit).length
  if i.unit * Nat.pow 10 guess.toNat ≤ i.value * Nat.pow 10 (-guess).toNat then guess else guess - 1

/-- The nearest decimal of `places` digits that reads back, as a multiple of
`10 ^ (magnitude - places + 1)`, if one does. -/
def onGrid? (i : Interval) (tie : Tie) (places : Nat) : Option Nat :=
  let step := i.magnitude - places + 1
  let num := Nat.pow 10 step.toNat
  let den := Nat.pow 10 (-step).toNat
  let scaled := i.value * den
  let grid := i.unit * num
  let low := scaled / grid
  let rest := scaled % grid
  let lowFits := i.contains (low * num) den
  let highFits := i.contains ((low + 1) * num) den
  if lowFits && highFits then
    if 2 * rest < grid then some low
    else if grid < 2 * rest then some (low + 1)
    else match tie with
      | .up => some (low + 1)
      | .even => some (if low % 2 = 0 then low else low + 1)
  else if lowFits then some low
  else if highFits then some (low + 1)
  else none

/-- The first grid with a decimal that reads back, from `places` digits on. -/
def firstGrid (i : Interval) (tie : Tie) : Nat → Nat → Nat × Nat
  | 0, places => (i.value / i.unit, places)
  | fuel + 1, places =>
    match i.onGrid? tie places with
    | some n => (n, places)
    | none => i.firstGrid tie fuel (places + 1)

end Interval

/-- Digits without the zeros behind them. -/
def dropTrailingZeros (ds : List Char) : List Char :=
  (ds.reverse.dropWhile (· == '0')).reverse

/-- The fewest digits that read back as the positive double `mantissa · 2 ^ exponent`, the nearest
ones of that number; seventeen digits always read back. -/
def Scientific.shortest (tie : Tie) (mantissa : Nat) (exponent : Int) : Scientific :=
  let i := Interval.of mantissa exponent
  let found := i.firstGrid tie 17 1
  let written := Nat.toDigits 10 found.1
  { digits := dropTrailingZeros written
    exponent := i.magnitude - found.2 + written.length }

end Vigil.Decimal
