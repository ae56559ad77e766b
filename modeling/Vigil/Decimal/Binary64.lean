/-!
# Binary floating-point numbers, exactly

The sixty-four bits of a double stand for a sign, a mantissa `m` and an exponent `e`, that is for
`± m · 2 ^ e`; the two greatest exponents stand for the infinities and for what is no number.

* `Binary64` — the exact meaning of a double;
* `Binary64.ofBits`, `Binary64.ofFloat` — read off its bits.
-/

namespace Vigil.Decimal

/-- The exact meaning of a double. -/
inductive Binary64 where
  /-- Not a number. -/
  | nan
  /-- An infinity. -/
  | infinite (negative : Bool)
  /-- The number `± mantissa · 2 ^ exponent`. -/
  | finite (negative : Bool) (mantissa : Nat) (exponent : Int)
deriving Repr, DecidableEq

namespace Binary64

/-- The exponent of the smallest doubles. -/
def minExponent : Int := -1074

/-- The least mantissa of doubles that are greater than all those of the smallest exponent. -/
def leastNormal : Nat := 1 <<< 52

/-- Read the meaning of a double off its bits: one for the sign, eleven for the exponent, the
others for the mantissa, whose leading bit is left out except at the smallest exponent. -/
def ofBits (bits : UInt64) : Binary64 :=
  let n := bits.toNat
  let negative := n >>> 63 == 1
  let biased := (n >>> 52) % 2048
  let fraction := n % leastNormal
  if biased = 2047 then
    if fraction = 0 then infinite negative else nan
  else if biased = 0 then finite negative fraction minExponent
  else finite negative (leastNormal + fraction) (minExponent + (biased : Int) - 1)

/-- The meaning of a double. -/
def ofFloat (x : Float) : Binary64 := ofBits x.toBits

end Binary64

end Vigil.Decimal
