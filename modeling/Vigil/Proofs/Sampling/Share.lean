import Vigil.Decimal.Binary64
import Mathlib.Algebra.Order.Field.Power
import Mathlib.Algebra.Order.Floor.Semifield
import Mathlib.Data.Rat.Floor
import Mathlib.Tactic.NormNum
import Mathlib.Tactic.Positivity

/-!
# The share of words that a ratio keeps

A finite double is a rational number, and the exact bound of a share is that number times the number of words,
rounded down.  It is found by shifting the mantissa; no rounding comes in before the last step, however small
the double is.  Proved:

* `limit?`, `keeps` — the exact bound of a share, and the words below it;
* `shift_eq_floor`, `scaled_eq_floor` — shifting left or right multiplies by a power of two and rounds down
  once;
* `eq_finite_of_value` — the doubles that a positive number is the value of;
* `limit?_eq_some_floor` — the bound of a ratio between nothing and one.
-/

namespace Vigil

open Decimal

/-- The exact value of a finite double. -/
def Decimal.Binary64.value? : Binary64 → Option ℚ
  | .finite negative mantissa exponent =>
    some (if negative then -(mantissa * 2 ^ exponent) else mantissa * 2 ^ exponent)
  | .infinite _ => none
  | .nan => none

namespace Sampling

/-! ## The bound -/

/-- The number of all words. -/
def wordCount : Nat := UInt64.size

/-- The exact bound of the words that are a share; none if all of them are. -/
def limit? : Binary64 → Option Nat
  | .nan => some 0
  | .infinite negative => if negative then some 0 else none
  | .finite negative mantissa exponent =>
    if negative then some 0
    else
      let scaled := mantissa <<< (exponent + 64).toNat >>> (-(exponent + 64)).toNat
      if wordCount ≤ scaled then none else some scaled

/-- A word is one of the share. -/
def keeps (ratio : Binary64) (word : UInt64) : Bool :=
  (limit? ratio).all fun limit => word.toNat < limit

theorem shift_eq_floor (m : Nat) (z : Int) :
    m <<< z.toNat >>> (-z).toNat = ⌊(m : ℚ) * 2 ^ z⌋₊ := by
  cases z with
  | ofNat n =>
    have hleft : (m : ℚ) * 2 ^ (Int.ofNat n) = (m * 2 ^ n : Nat) := by
      rw [Int.ofNat_eq_natCast, zpow_natCast, Nat.cast_mul, Nat.cast_pow, Nat.cast_ofNat]
    rw [hleft, Nat.floor_natCast, show (-Int.ofNat n).toNat = 0 by simp, Nat.shiftRight_zero,
      Int.ofNat_eq_natCast, Int.toNat_natCast, Nat.shiftLeft_eq]
  | negSucc n =>
    have hright : (m : ℚ) * 2 ^ (Int.negSucc n) = m / (2 ^ (n + 1) : Nat) := by
      rw [zpow_negSucc, Nat.cast_pow, Nat.cast_ofNat, div_eq_mul_inv]
    rw [hright, Nat.floor_div_eq_div, Int.toNat_negSucc, Nat.shiftLeft_zero, Int.neg_negSucc,
      Int.toNat_natCast, Nat.shiftRight_eq_div_pow]

/-- The number of words times a positive double, rounded down. -/
theorem scaled_eq_floor (m : Nat) (e : Int) :
    m <<< (e + 64).toNat >>> (-(e + 64)).toNat = ⌊(m : ℚ) * 2 ^ e * 2 ^ 64⌋₊ := by
  rw [shift_eq_floor, zpow_add₀ two_ne_zero, ← mul_assoc]
  norm_cast

variable {r : Binary64} {q : ℚ}

/-- A positive value is that of a positive double. -/
theorem eq_finite_of_value (hr : r.value? = some q) (h0 : 0 < q) :
    ∃ (m : Nat) (e : Int), r = .finite false m e ∧ (m : ℚ) * 2 ^ e = q := by
  cases r with
  | nan => exact absurd hr (by simp [Binary64.value?])
  | infinite negative => exact absurd hr (by simp [Binary64.value?])
  | finite negative m e =>
    cases negative with
    | true =>
      obtain rfl : -((m : ℚ) * 2 ^ e) = q := by simpa [Binary64.value?] using hr
      exact absurd h0 (not_lt.mpr (neg_nonpos.mpr (by positivity)))
    | false => exact ⟨m, e, rfl, by simpa [Binary64.value?] using hr⟩

/-- **The bound of a ratio between nothing and one**: its share of the number of words, rounded down. -/
theorem limit?_eq_some_floor (hr : r.value? = some q) (h0 : 0 < q) (h1 : q < 1) :
    limit? r = some ⌊q * 2 ^ 64⌋₊ ∧ ⌊q * 2 ^ 64⌋₊ < wordCount := by
  obtain ⟨m, e, rfl, rfl⟩ := eq_finite_of_value hr h0
  have hbelow : ⌊(m : ℚ) * 2 ^ e * 2 ^ 64⌋₊ < wordCount := by
    rw [Nat.floor_lt (by positivity)]
    calc (m : ℚ) * 2 ^ e * 2 ^ 64 < (1 : ℚ) * 2 ^ 64 := mul_lt_mul_of_pos_right h1 (by positivity)
      _ = (wordCount : ℚ) := by norm_num [wordCount, UInt64.size]
  rw [limit?, if_neg Bool.false_ne_true, scaled_eq_floor]
  exact ⟨if_neg (Nat.not_le.mpr hbelow), hbelow⟩

end Sampling

end Vigil
