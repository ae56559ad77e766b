import Vigil.Proofs.Decimal.Doubles
import Vigil.Proofs.Sampling.Share
import Vigil.Sampling.Ratio

/-!
# The bound of a share, computed in doubles

The bound below which words are kept is computed in doubles: the greatest word is made a double, which rounds it
up to a power of two, so that the product only moves the exponent of the ratio, and then the fraction is cut off.
Nothing is lost before that.  Proved:

* `toNat_toUInt64_mul` — the product and what is cut off of it;
* `map_toNat_doubleLimit?` — the bound computed in doubles is the exact one;
* `TraceIdRatio.keep_eq_keeps` — so a set of trace ids is kept exactly if its hash is one of the share.
-/

namespace Vigil.Sampling

open Decimal Decimal.Binary64 Float.Model Float.Model.UnpackedFloat

/-! ## Products in doubles -/

theorem le_iff_unpack (x y : Float) : x ≤ y ↔ x.toModel.unpack.le y.toModel.unpack = true := by
  show decide (x.toModel ≤ y.toModel) = true ↔ _
  exact decide_eq_true_iff

/-- The greatest word is rounded up to the number of all words. -/
theorem unpack_greatest :
    (0xffffffffffffffff : UInt64).toFloat.toModel.unpack = .finite .positive (2 ^ 52) 12 (by decide) := rfl

theorem fits_one : Fits (2 ^ 52) (-52) := ⟨by decide, by decide, by decide, by decide⟩

theorem one_le_iff {m : Nat} {e : Int} (h : Fits m e) (hm : 0 < m) :
    UnpackedFloat.le (.finite .positive (2 ^ 52) (-52) (by decide)) (.finite .positive m e hm) = true ↔
      1 ≤ (m : ℚ) * 2 ^ e := by
  rw [fits_one.le_iff h]
  norm_num

/-- A positive double below one has its leading bit behind the point. -/
theorem log2_add_neg {m : Nat} {e : Int} (hm : 0 < m) (hlt : (m : ℚ) * 2 ^ e < 1) :
    (m.log2 : Int) + e < 0 := by
  have hself : (2 : ℚ) ^ m.log2 ≤ m := by exact_mod_cast Nat.log2_self_le hm.ne'
  have hpow : (2 : ℚ) ^ ((m.log2 : Int) + e) < 2 ^ (0 : Int) := by
    calc (2 : ℚ) ^ ((m.log2 : Int) + e) = 2 ^ m.log2 * 2 ^ e := by
          rw [zpow_add₀ two_ne_zero, zpow_natCast]
      _ ≤ m * 2 ^ e := mul_le_mul_of_nonneg_right hself (by positivity)
      _ < 2 ^ (0 : Int) := by rwa [zpow_zero]
  exact (zpow_lt_zpow_iff_right₀ one_lt_two).mp hpow

theorem wordCount_le_floor_iff {q : ℚ} (hq : 0 ≤ q) : wordCount ≤ ⌊q * 2 ^ 64⌋₊ ↔ 1 ≤ q := by
  have hcount : (wordCount : ℚ) = 1 * 2 ^ 64 := by norm_num [wordCount, UInt64.size]
  rw [Nat.le_floor_iff (by positivity), hcount, mul_le_mul_iff_of_pos_right (by positivity)]

/-- **The product is not rounded**, so that only its fraction is lost. -/
theorem toNat_toUInt64_mul {x : Float} {m : Nat} {e : Int} {hm : 0 < m}
    (hx : x.toModel.unpack = .finite .positive m e hm) (h : Fits m e) (hlt : (m : ℚ) * 2 ^ e < 1) :
    (x * (0xffffffffffffffff : UInt64).toFloat).toUInt64.toNat = ⌊(m : ℚ) * 2 ^ e * 2 ^ 64⌋₊ := by
  have hge := h.exponent_ge
  have hbelow := log2_add_neg hm hlt
  have hlog : m.log2 ≤ 52 := Nat.le_of_lt_succ ((Nat.log2_lt hm.ne').mpr h.mantissa_lt)
  have hfits : Fits (m * 2 ^ (52 - m.log2)) (e + 12 + m.log2) :=
    .of_lengthened hm hlog (by omega) (by omega)
  have hproduct : (x * (0xffffffffffffffff : UInt64).toFloat).toModel.unpack
      = .finite .positive (m * 2 ^ (52 - m.log2)) (e + 12 + m.log2)
          (Nat.mul_pos hm (Nat.two_pow_pos _)) := by
    show UnpackedFloat.unpack .binary64 (UnpackedFloat.pack .binary64
      (UnpackedFloat.mul .binary64 x.toModel.unpack (0xffffffffffffffff : UInt64).toFloat.toModel.unpack)) = _
    rw [hx, unpack_greatest, mul_two_pow _ _ hm hlog (by omega)]
    exact unpack_pack hfits
  have hvalue : ((m * 2 ^ (52 - m.log2) : Nat) : ℚ) * 2 ^ (e + 12 + m.log2) = m * 2 ^ e * 2 ^ 64 := by
    have hexp : (52 - m.log2 : Nat) + (e + 12 + m.log2) = e + (64 : Nat) := by omega
    rw [Nat.cast_mul, Nat.cast_pow, Nat.cast_ofNat, mul_assoc, ← zpow_natCast, ← zpow_add₀ two_ne_zero, hexp,
      zpow_add₀ two_ne_zero, zpow_natCast, mul_assoc]
  have hsize : ⌊(m : ℚ) * 2 ^ e * 2 ^ 64⌋₊ < UInt64.size :=
    Nat.lt_of_not_le (mt (wordCount_le_floor_iff (by positivity)).mp (not_le.mpr hlt))
  show (UInt64.ofNatClamp (UnpackedFloat.toInt 0 (UInt64.size - 1)
    (x * (0xffffffffffffffff : UInt64).toFloat).toModel.unpack).toNat).toNat = _
  rw [hproduct, toInt_finite, shift_eq_floor, hvalue, Int.toNat_natCast, UInt64.ofNatClamp_eq_ofNat _ hsize,
    UInt64.toNat_ofNat_of_lt' hsize]

/-! ## The bound -/

section Parts

variable {x : Float} {f : UnpackedFloat} (hx : x.toModel.unpack = f)

include hx

theorem doubleLimit?_of_le_zero (h : f.isNaN = true ∨ f.le (.zero .positive) = true) :
    doubleLimit? x = some 0 := by
  subst hx
  exact if_pos (h.imp_right (le_iff_unpack x 0).mpr)

theorem doubleLimit?_of_pos (h : ¬(f.isNaN = true ∨ f.le (.zero .positive) = true)) :
    doubleLimit? x = if 1 ≤ x then none else some (x * (0xffffffffffffffff : UInt64).toFloat).toUInt64 := by
  subst hx
  exact if_neg fun hzero => h (hzero.imp_right (le_iff_unpack x 0).mp)

theorem one_le_float_iff :
    1 ≤ x ↔ UnpackedFloat.le (.finite .positive (2 ^ 52) (-52) (by decide)) f = true := by
  subst hx
  exact le_iff_unpack 1 x

end Parts

/-- The exact bound of a positive double. -/
theorem limit?_finite (m : Nat) (e : Int) :
    limit? (.finite false m e)
      = if wordCount ≤ ⌊(m : ℚ) * 2 ^ e * 2 ^ 64⌋₊ then none else some ⌊(m : ℚ) * 2 ^ e * 2 ^ 64⌋₊ := by
  rw [limit?, if_neg Bool.false_ne_true, scaled_eq_floor]

/-- **The bound computed in doubles is the exact one.** -/
theorem map_toNat_doubleLimit? (bits : UInt64) :
    (doubleLimit? (Float.ofBits bits)).map UInt64.toNat = limit? (.ofBits bits) := by
  have hcanonical := canonical_unpack bits.toBitVec
  have hx := unpack_ofBits bits
  rw [ofBits_eq_ofUnpacked]
  cases hf : UnpackedFloat.unpack .binary64 bits.toBitVec with
  | notANumber =>
    rw [doubleLimit?_of_le_zero (hx.trans hf) (.inl rfl)]
    rfl
  | infinity s =>
    cases s with
    | negative =>
      rw [doubleLimit?_of_le_zero (hx.trans hf) (.inr rfl)]
      rfl
    | positive =>
      rw [doubleLimit?_of_pos (hx.trans hf) (by decide),
        if_pos ((one_le_float_iff (hx.trans hf)).mpr rfl)]
      rfl
  | zero s =>
    rw [doubleLimit?_of_le_zero (hx.trans hf) (.inr (by cases s <;> rfl))]
    cases s <;> rfl
  | finite s m e hm =>
    cases s with
    | negative =>
      rw [doubleLimit?_of_le_zero (hx.trans hf) (.inr rfl)]
      rfl
    | positive =>
      rw [hf] at hcanonical hx
      have hpos : ¬((UnpackedFloat.finite .positive m e hm).isNaN = true ∨
          (UnpackedFloat.finite .positive m e hm).le (.zero .positive) = true) :=
        not_or.mpr ⟨Bool.false_ne_true, Bool.false_ne_true⟩
      have hone : 1 ≤ Float.ofBits bits ↔ 1 ≤ (m : ℚ) * 2 ^ e :=
        (one_le_float_iff hx).trans (one_le_iff hcanonical hm)
      rw [doubleLimit?_of_pos hx hpos, ofUnpacked, isNegative, limit?_finite]
      by_cases hall : 1 ≤ (m : ℚ) * 2 ^ e
      · rw [if_pos (hone.mpr hall), if_pos ((wordCount_le_floor_iff (by positivity)).mpr hall)]
        rfl
      · rw [if_neg (mt hone.mp hall), if_neg (mt (wordCount_le_floor_iff (by positivity)).mp hall),
          Option.map_some, toNat_toUInt64_mul hx hcanonical (not_le.mp hall)]

theorem all_map_toNat (limit : Option UInt64) (word : UInt64) :
    ((limit.map UInt64.toNat).all fun n => word.toNat < n) = limit.all fun bound => word < bound := by
  cases limit with
  | none => rfl
  | some bound => exact decide_eq_decide.mpr UInt64.lt_iff_toNat_lt.symm

/-- **A set of trace ids is kept exactly if its hash is one of the share.** -/
theorem TraceIdRatio.keep_eq_keeps (bits seed : UInt64) (ids : TraceIds) :
    (TraceIdRatio.mk bits seed).keep ids = keeps (.ofBits bits) (hash seed ids) := by
  rw [keeps, ← map_toNat_doubleLimit?, all_map_toNat]
  rfl

end Vigil.Sampling
