import Vigil.Decimal.Binary64
import Mathlib

/-!
# Doubles as the machine has them

The doubles of the machine are words, and each operation takes words apart into a sign, a mantissa and an
exponent, computes with these, rounds, and puts a word together again.  The exact meaning of a double is
what the word is taken apart into.  Proved:

* `ofBits_eq_ofUnpacked`, `canonical_unpack` — the exact meaning of a word, and how large its parts can be;
* `unpack_pack`, `unpack_ofBits` — parts that fit survive being put together and taken apart again;
* `mul_two_pow` — a product with a power of two is not rounded;
* `toInt_finite` — the fraction is cut off by shifting;
* `Fits.le_iff`, `Fits.le_cases` — doubles are compared as their values are.
-/

namespace Vigil.Decimal.Binary64

open Float.Model Float.Model.UnpackedFloat

/-! ## Taking words apart -/

/-- The mantissas and exponents that words stand for. -/
structure Fits (m : Nat) (e : Int) : Prop where
  mantissa_lt : m < 2 ^ 53
  /-- The mantissa is long, unless the exponent is the smallest one. -/
  long : 2 ^ 52 ≤ m ∨ e = -1074
  exponent_ge : -1074 ≤ e
  exponent_le : e ≤ 971

/-- The parts are those of a word. -/
def Canonical : UnpackedFloat → Prop
  | .finite _ m e _ => Fits m e
  | .zero _ => True
  | .infinity _ => True
  | .notANumber => True

def isNegative : Sign → Bool
  | .negative => true
  | .positive => false

/-- What the parts of a double stand for. -/
def ofUnpacked : UnpackedFloat → Binary64
  | .notANumber => .nan
  | .infinity s => .infinite (isNegative s)
  | .zero s => .finite (isNegative s) 0 minExponent
  | .finite s m e _ => .finite (isNegative s) m e

section Parts

variable (b : BitVec 64)

theorem toNat_unpackMantissa :
    (@unpackMantissa .binary64 b).toNat = b.toNat % 2 ^ 52 := by
  simp [unpackMantissa]

theorem toNat_unpackExponent :
    (@unpackExponent .binary64 b).toNat = (b.toNat >>> 52) % 2 ^ 11 := by
  simp [unpackExponent]

theorem toNat_unpackSign : (@unpackSign .binary64 b).toNat = b.toNat >>> 63 := by
  have hlt : b.toNat < 2 ^ 64 := b.isLt
  have hbit : (@unpackSign .binary64 b).toNat = b.toNat >>> 63 % 2 := by simp [unpackSign]
  rw [hbit, Nat.shiftRight_eq_div_pow]
  omega

/-- The leading bit that words leave out. -/
theorem toNat_withLeadingBit (v : BitVec 52) : (1#1 ++ v).toNat = 2 ^ 52 + v.toNat := by
  rw [BitVec.toNat_append, ← Nat.shiftLeft_add_eq_or_of_lt v.isLt]
  rfl

theorem isNegative_ofBitVec (v : BitVec 1) : isNegative (Sign.ofBitVec v) = (v.toNat == 1) := by
  revert v
  decide

/-- **The exact meaning of a word** is that of the parts it is taken apart into. -/
theorem ofBits_eq_ofUnpacked (bits : UInt64) :
    ofBits bits = ofUnpacked (UnpackedFloat.unpack .binary64 bits.toBitVec) := by
  have hones : @unpackExponent .binary64 bits.toBitVec = -1#11 ↔
      (bits.toNat >>> 52) % 2048 = 2047 := by
    rw [← BitVec.toNat_inj, toNat_unpackExponent]
    rfl
  have hzero : @unpackExponent .binary64 bits.toBitVec = 0#11 ↔
      (bits.toNat >>> 52) % 2048 = 0 := by
    rw [← BitVec.toNat_inj, toNat_unpackExponent]
    rfl
  have hnone : @unpackMantissa .binary64 bits.toBitVec = 0#52 ↔
      bits.toNat % leastNormal = 0 := by
    rw [← BitVec.toNat_inj, toNat_unpackMantissa]
    rfl
  have hsign : isNegative (Sign.ofBitVec (@unpackSign .binary64 bits.toBitVec))
      = (bits.toNat >>> 63 == 1) := by
    rw [isNegative_ofBitVec, toNat_unpackSign, UInt64.toNat_toBitVec]
  unfold ofBits UnpackedFloat.unpack
  by_cases hgreatest : (bits.toNat >>> 52) % 2048 = 2047
  · rw [if_pos hgreatest]
    simp only [if_pos (hones.mpr hgreatest), hnone]
    by_cases hman : bits.toNat % leastNormal = 0
    · simp only [if_pos hman, ofUnpacked, hsign]
    · simp only [if_neg hman, ofUnpacked]
  · rw [if_neg hgreatest]
    simp only [if_neg (mt hones.mp hgreatest), hnone]
    by_cases hleast : (bits.toNat >>> 52) % 2048 = 0
    · simp only [if_pos hleast, if_pos (hzero.mpr hleast)]
      by_cases hman : bits.toNat % leastNormal = 0
      · simp only [dif_pos hman, ofUnpacked, hsign]
        rw [hman]
      · simp only [dif_neg hman, ofUnpacked, hsign]
        rw [toNat_unpackMantissa, toNat_unpackExponent]
        show _ = finite _ _ (((bits.toNat >>> 52 % 2048 : Nat) : Int) - (1023 + 52) + 1)
        rw [hleast]
        rfl
    · simp only [if_neg hleast, if_neg (mt hzero.mp hleast), ofUnpacked, hsign]
      rw [toNat_withLeadingBit, toNat_unpackMantissa, toNat_unpackExponent]
      show finite _ _ _ = finite _ _ (((bits.toNat >>> 52 % 2048 : Nat) : Int) - (1023 + 52))
      congr 1
      rw [minExponent]
      omega

/-- How large the parts of a word can be. -/
theorem canonical_unpack : Canonical (UnpackedFloat.unpack .binary64 b) := by
  have hm : (@unpackMantissa .binary64 b).toNat < 2 ^ 52 := BitVec.isLt _
  have he : (@unpackExponent .binary64 b).toNat < 2 ^ 11 := BitVec.isLt _
  have hbias : (Format.binary64.exponentBias : Int) = 1023 := rfl
  have hbits : (Format.binary64.mantissaBitsWithoutImplicit : Int) = 52 := rfl
  rw [UnpackedFloat.unpack]
  split
  · split <;> trivial
  · next hones =>
    have hgreatest : (@unpackExponent .binary64 b).toNat ≠ 2047 := BitVec.toNat_inj.not.mpr hones
    split
    · next hzero =>
      split
      · trivial
      · rw [hzero, hbias, hbits]
        exact ⟨by omega, .inr (by decide), by decide, by decide⟩
    · next hzero =>
      have hleast : (@unpackExponent .binary64 b).toNat ≠ 0 := BitVec.toNat_inj.not.mpr hzero
      show Fits _ _
      rw [hbias, hbits, toNat_withLeadingBit]
      exact ⟨by omega, .inl (by omega), by omega, by omega⟩

end Parts

/-! ## Putting words together -/

theorem unpackSign_packComponents (s : Sign) (e : BitVec 11) (m : BitVec 52) :
    unpackSign (packComponents .binary64 s e m) = s.toBitVec := by
  have htop : (s.toBitVec ++ e ++ m).getLsbD 63 = s.toBitVec[0] := by
    rw [BitVec.getLsbD_append, BitVec.getLsbD_append]
    rfl
  ext i hi
  obtain rfl : i = 0 := by omega
  simp only [unpackSign, packComponents, BitVec.getElem_cast, BitVec.extractLsb, BitVec.getElem_extractLsb']
  exact htop

theorem ofBitVec_toBitVec (s : Sign) : Sign.ofBitVec s.toBitVec = s := by
  cases s <;> rfl

/-- A word with a long mantissa: its leading bit is left out, and added again. -/
theorem Fits.unpack_pack_long {m : Nat} {e : Int} (h : Fits m e) (hlong : 2 ^ 52 ≤ m) (s : Sign)
    (hm : 0 < m) :
    UnpackedFloat.unpack .binary64 (UnpackedFloat.pack .binary64 (.finite s m e hm)) = .finite s m e hm := by
  have hlt := h.mantissa_lt
  have hge := h.exponent_ge
  have hle := h.exponent_le
  have hlog : m.log2 = 52 := (Nat.log2_eq_iff hm.ne').mpr ⟨hlong, hlt⟩
  have hbiased : (e + Format.binary64.exponentBias + Format.binary64.mantissaBitsWithoutImplicit).toNat
      = (e + 1075).toNat := by
    show (e + (1023 : Nat) + (52 : Nat)).toNat = _
    omega
  have hexp : (BitVec.ofNat 11 (e + 1075).toNat).toNat = (e + 1075).toNat := by
    rw [BitVec.toNat_ofNat, Nat.mod_eq_of_lt (by omega)]
  have hones : BitVec.ofNat 11 (e + 1075).toNat ≠ -1#11 := by
    rw [← BitVec.toNat_inj.ne, hexp]
    show _ ≠ 2047
    omega
  have hzero : BitVec.ofNat 11 (e + 1075).toNat ≠ 0#11 := by
    rw [← BitVec.toNat_inj.ne, hexp]
    show _ ≠ 0
    omega
  have hman : (1#1 ++ BitVec.ofNat 52 m).toNat = m := by
    rw [toNat_withLeadingBit, BitVec.toNat_ofNat]
    omega
  simp only [UnpackedFloat.pack, hbiased]
  rw [if_neg (by omega), if_pos (by rw [hlog]; rfl)]
  simp only [UnpackedFloat.unpack, unpackExponent_packComponents, unpackMantissa_packComponents,
    unpackSign_packComponents, ofBitVec_toBitVec, hexp, hman]
  rw [if_neg hones, if_neg hzero]
  congr 1
  show ((e + 1075).toNat : Int) - (1023 + 52) = e
  omega

/-- A word with the smallest exponent. -/
theorem unpack_pack_short {m : Nat} (hshort : m < 2 ^ 52) (s : Sign) (hm : 0 < m) :
    UnpackedFloat.unpack .binary64 (UnpackedFloat.pack .binary64 (.finite s m (-1074) hm))
      = .finite s m (-1074) hm := by
  have hbiased : (-1074 + (Format.binary64.exponentBias : Int)
      + Format.binary64.mantissaBitsWithoutImplicit).toNat = 1 := by decide
  have hlog : m.log2 + 1 ≠ Format.binary64.mantissaBits := by
    have hlt : m.log2 < 52 := (Nat.log2_lt hm.ne').mpr hshort
    show m.log2 + 1 ≠ 53
    omega
  have hman : (BitVec.ofNat 52 m).toNat = m := by
    rw [BitVec.toNat_ofNat, Nat.mod_eq_of_lt hshort]
  have hnone : BitVec.ofNat 52 m ≠ 0#52 := by
    rw [← BitVec.toNat_inj.ne, hman]
    exact hm.ne'
  simp only [UnpackedFloat.pack, hbiased]
  rw [if_neg (by decide), if_neg hlog]
  simp only [UnpackedFloat.unpack, unpackExponent_packComponents, unpackMantissa_packComponents,
    unpackSign_packComponents, ofBitVec_toBitVec, hman]
  rw [if_neg (by decide), if_pos trivial, dif_neg hnone]
  rfl

/-- **Parts that fit survive** being put together and taken apart again. -/
theorem unpack_pack {f : UnpackedFloat} (h : Canonical f) :
    UnpackedFloat.unpack .binary64 (UnpackedFloat.pack .binary64 f) = f := by
  cases f with
  | notANumber => rfl
  | infinity s => cases s <;> rfl
  | zero s => cases s <;> rfl
  | finite s m e hm =>
    have hfits : Fits m e := h
    by_cases hlong : 2 ^ 52 ≤ m
    · exact hfits.unpack_pack_long hlong s hm
    · obtain rfl : e = -1074 := hfits.long.resolve_left hlong
      exact unpack_pack_short (Nat.not_le.mp hlong) s hm

/-- A word and the double made of it have the same parts. -/
theorem unpack_ofBits (bits : UInt64) :
    (Float.ofBits bits).toModel.unpack = UnpackedFloat.unpack .binary64 bits.toBitVec :=
  unpack_pack (canonical_unpack bits.toBitVec)

/-! ## Shifting -/

theorem mantissa_shiftRight (x : ExtendedMantissa) (n : Nat) : (x >>> n).mantissa = x.mantissa >>> n := by
  induction n with
  | zero => rfl
  | succ n ih =>
    show (x >>> n).mantissa / 2 = _
    rw [ih, Nat.shiftRight_succ]

/-- Nothing is left over when only zeros are shifted out. -/
theorem shiftRight_mul_two_pow (m n : Nat) :
    (⟨m * 2 ^ n, false, false⟩ : ExtendedMantissa) >>> n = ⟨m, false, false⟩ := by
  induction n generalizing m with
  | zero =>
    rw [Nat.pow_zero, Nat.mul_one]
    rfl
  | succ n ih =>
    show ((⟨m * 2 ^ (n + 1), false, false⟩ : ExtendedMantissa) >>> n).shiftRightOne = _
    rw [Nat.pow_succ', ← Nat.mul_assoc, ih]
    simp [ExtendedMantissa.shiftRightOne]

/-- **The fraction is cut off by shifting.** -/
theorem toInt_finite (lo hi : Int) (m : Nat) (e : Int) (hm : 0 < m) :
    UnpackedFloat.toInt lo hi (.finite .positive m e hm) = (m <<< e.toNat >>> (-e).toNat : Nat) := by
  have hshift : (0 - (e - ((e - 0).toNat : Int))).toNat = (-e).toNat := by omega
  show (((⟨m <<< (e - 0).toNat, false, false⟩ : ExtendedMantissa)
    >>> (0 - (e - ((e - 0).toNat : Int))).toNat).mantissa : Int) = _
  rw [hshift, mantissa_shiftRight, Int.sub_zero]

/-! ## Products -/

theorem log2_mul_two_pow {m : Nat} (hm : 0 < m) (n : Nat) : (m * 2 ^ n).log2 = m.log2 + n := by
  induction n with
  | zero => rw [Nat.pow_zero, Nat.mul_one, Nat.add_zero]
  | succ n ih =>
    have hne : m * 2 ^ n ≠ 0 := by positivity
    rw [Nat.pow_succ', Nat.mul_left_comm, Nat.log2_two_mul hne, ih, Nat.add_assoc]

/-- A mantissa that is made long fits, if its exponent does. -/
theorem Fits.of_lengthened {m : Nat} {e : Int} (hm : 0 < m) (hlog : m.log2 ≤ 52) (hge : -1074 ≤ e)
    (hle : e ≤ 971) : Fits (m * 2 ^ (52 - m.log2)) e := by
  have hlong : (m * 2 ^ (52 - m.log2)).log2 = 52 := by
    rw [log2_mul_two_pow hm]
    omega
  have hbounds := (Nat.log2_eq_iff (by positivity)).mp hlong
  exact ⟨hbounds.2, .inl hbounds.1, hge, hle⟩

/-- The exponent at which a mantissa is long, if it is not too small. -/
theorem targetExponent_eq (m : Nat) (e : Int) :
    Format.binary64.targetExponent (totalExponent m e) = max (m.log2 + e - 52) (-1074) := by
  show max ((m.log2 + 1 + e : Int) - 53) (-1074) = _
  omega

/-- A mantissa is made long, or short, without loss. -/
theorem shiftToTargetExponent_mul {m n : Nat} {e : Int}
    (h : max (((m * 2 ^ n).log2 : Int) + e - 52) (-1074) = e + n) :
    shiftToTargetExponent .binary64 (m * 2 ^ n) e .exact = (⟨m, false, false⟩, e + n) := by
  have hshift : (e + n - e).toNat = n := by omega
  simp only [shiftToTargetExponent, targetExponent_eq, h, shiftToExponent, hshift]
  exact Prod.ext (shiftRight_mul_two_pow m n) rfl

/-- **A product with a power of two is not rounded**, if it is not too small. -/
theorem mul_two_pow (s s' : Sign) {m : Nat} {e k : Int} (hm : 0 < m) (hlog : m.log2 ≤ 52)
    (hlow : -1074 ≤ e + k + m.log2) :
    UnpackedFloat.mul .binary64 (.finite s m e hm) (.finite s' (2 ^ 52) k (by decide))
      = .finite (s * s') (m * 2 ^ (52 - m.log2)) (e + k + m.log2) (Nat.mul_pos hm (Nat.two_pow_pos _)) := by
  have hlong : ((m * 2 ^ (52 - m.log2)).log2 : Int) = 52 := by
    rw [log2_mul_two_pow hm]
    omega
  have hsplit : m * 2 ^ 52 = m * 2 ^ (52 - m.log2) * 2 ^ m.log2 := by
    rw [Nat.mul_assoc, ← Nat.pow_add, Nat.sub_add_cancel hlog]
  -- the product has too many bits, but as many zeros at its end
  have hfirst : shiftToTargetExponent .binary64 (m * 2 ^ 52) (e + k) .exact
      = (⟨m * 2 ^ (52 - m.log2), false, false⟩, e + k + m.log2) := by
    rw [hsplit]
    refine shiftToTargetExponent_mul ?_
    rw [log2_mul_two_pow (by positivity), Nat.cast_add, hlong]
    omega
  have hsecond : shiftToTargetExponent .binary64 (m * 2 ^ (52 - m.log2)) (e + k + m.log2) .exact
      = (⟨m * 2 ^ (52 - m.log2), false, false⟩, e + k + m.log2) := by
    have hstay := shiftToTargetExponent_mul (m := m * 2 ^ (52 - m.log2)) (n := 0) (e := e + k + m.log2)
    rw [Nat.pow_zero, Nat.mul_one, Int.natCast_zero, Int.add_zero, hlong] at hstay
    exact hstay (by omega)
  have hne : m * 2 ^ (52 - m.log2) ≠ 0 := by positivity
  simp only [UnpackedFloat.mul, roundWithAccuracy, hfirst, ExtendedMantissa.roundedMantissa,
    ExtendedMantissa.accuracy, Accuracy.roundToNearestEven, hsecond]
  rw [dif_neg hne]

/-! ## Order -/

section Order

variable {m m' : Nat} {e e' : Int}

theorem Fits.lt_of_exponent_lt (h : Fits m e) (h' : Fits m' e') (hlt : e < e') :
    (m : ℚ) * 2 ^ e < m' * 2 ^ e' := by
  have hge := h.exponent_ge
  have hm : (m : ℚ) < 2 ^ 53 := by exact_mod_cast h.mantissa_lt
  have hm' : (2 : ℚ) ^ 52 ≤ m' := by exact_mod_cast h'.long.resolve_right (by omega)
  calc (m : ℚ) * 2 ^ e < 2 ^ 53 * 2 ^ e := mul_lt_mul_of_pos_right hm (by positivity)
    _ = 2 ^ 52 * 2 ^ (e + 1) := by rw [zpow_add_one₀ two_ne_zero]; ring
    _ ≤ 2 ^ 52 * 2 ^ e' := mul_le_mul_of_nonneg_left (zpow_le_zpow_right₀ one_le_two hlt) (by positivity)
    _ ≤ m' * 2 ^ e' := mul_le_mul_of_nonneg_right hm' (by positivity)

/-- **Positive doubles are compared as their values are**, though it is the exponents that are looked at
first. -/
theorem Fits.le_iff (h : Fits m e) (h' : Fits m' e') (hm : 0 < m) (hm' : 0 < m') :
    UnpackedFloat.le (.finite .positive m e hm) (.finite .positive m' e' hm') = true ↔
      (m : ℚ) * 2 ^ e ≤ m' * 2 ^ e' := by
  show ((compare e e').then (compare m m')).isLE = true ↔ _
  rcases lt_trichotomy e e' with hlt | rfl | hgt
  · rw [Int.compare_eq_lt.mpr hlt]
    exact iff_of_true rfl (h.lt_of_exponent_lt h' hlt).le
  · rw [Int.compare_eq_eq.mpr rfl, mul_le_mul_iff_of_pos_right (by positivity), Nat.cast_le]
    exact Nat.isLE_compare
  · rw [Int.compare_eq_gt.mpr hgt]
    exact iff_of_false Bool.false_ne_true (h'.lt_of_exponent_lt h hgt).not_ge

/-- Nothing is greater than the infinity. -/
theorem eq_infinity_of_le {g : UnpackedFloat} (h : (UnpackedFloat.infinity .positive).le g = true) :
    g = .infinity .positive := by
  cases g with
  | notANumber => exact absurd h Bool.false_ne_true
  | infinity s =>
    cases s with
    | negative => exact absurd h Bool.false_ne_true
    | positive => rfl
  | zero s => exact absurd h Bool.false_ne_true
  | finite s m e hm => exact absurd h Bool.false_ne_true

/-- What is not less than a positive double is positive itself. -/
theorem Fits.le_cases (h : Fits m e) {hm : 0 < m} {g : UnpackedFloat} (hg : Canonical g)
    (hle : UnpackedFloat.le (.finite .positive m e hm) g = true) :
    g = .infinity .positive ∨
      ∃ m' e' hm', g = .finite .positive m' e' hm' ∧ (m : ℚ) * 2 ^ e ≤ m' * 2 ^ e' := by
  cases g with
  | notANumber => exact absurd hle Bool.false_ne_true
  | infinity s =>
    cases s with
    | negative => exact absurd hle Bool.false_ne_true
    | positive => exact .inl rfl
  | zero s => exact absurd hle Bool.false_ne_true
  | finite s m' e' hm' =>
    cases s with
    | negative => exact absurd hle Bool.false_ne_true
    | positive => exact .inr ⟨m', e', hm', rfl, (h.le_iff hg hm hm').mp hle⟩

end Order

end Vigil.Decimal.Binary64
