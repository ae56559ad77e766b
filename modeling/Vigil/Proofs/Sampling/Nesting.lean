import Vigil.Proofs.Sampling.Bound

/-!
# What is kept at different ratios

The bound below which words are kept is exact, and it grows with the ratio.  Proved:

* `keeps_iff` — which words are a share;
* `keeps_mono` — a greater share has all words of a smaller one;
* `keep_exact_and_nested` — so a set of trace ids is kept exactly when its hash lies below the share of the
  words that the ratio is, and what is kept at a ratio is kept at all greater ones.
-/

namespace Vigil.Sampling

open Decimal Decimal.Binary64 Float.Model Float.Model.UnpackedFloat

/-! ## The words that are kept -/

theorem keeps_finite_iff (m : Nat) (e : Int) (word : UInt64) :
    keeps (.finite false m e) word = true ↔ word.toNat < ⌊(m : ℚ) * 2 ^ e * 2 ^ 64⌋₊ := by
  rw [keeps, limit?_finite]
  split
  · next hall => exact iff_of_true rfl (Nat.lt_of_lt_of_le word.toNat_lt hall)
  · exact decide_eq_true_iff

/-- **The words that are kept**: all of them, or those below the share that a positive number is. -/
theorem keeps_iff (f : UnpackedFloat) (word : UInt64) :
    keeps (ofUnpacked f) word = true ↔
      f = .infinity .positive ∨
        ∃ m e hm, f = .finite .positive m e hm ∧ word.toNat < ⌊(m : ℚ) * 2 ^ e * 2 ^ 64⌋₊ := by
  cases f with
  | notANumber => simp [ofUnpacked, keeps, limit?]
  | infinity s => cases s <;> simp [ofUnpacked, isNegative, keeps, limit?]
  | zero s =>
    cases s with
    | negative => simp [ofUnpacked, isNegative, keeps, limit?]
    | positive => simp [ofUnpacked, isNegative, keeps_finite_iff]
  | finite s m e hm =>
    cases s with
    | negative => simp [ofUnpacked, isNegative, keeps, limit?]
    | positive =>
      rw [ofUnpacked, isNegative, keeps_finite_iff]
      constructor
      · exact fun h => .inr ⟨m, e, hm, rfl, h⟩
      · rintro (h | ⟨m', e', hm', h, hlt⟩)
        · cases h
        · cases h
          exact hlt

/-- What is kept at a ratio is kept at a greater one. -/
theorem keeps_mono {f g : UnpackedFloat} (hf : Canonical f) (hg : Canonical g) (hle : f.le g = true)
    {word : UInt64} (h : keeps (ofUnpacked f) word = true) : keeps (ofUnpacked g) word = true := by
  rw [keeps_iff] at h ⊢
  rcases h with rfl | ⟨m, e, hm, rfl, hbelow⟩
  · exact .inl (eq_infinity_of_le hle)
  · refine (Fits.le_cases hf hg hle).imp_right ?_
    rintro ⟨m', e', hm', rfl, hvalue⟩
    refine ⟨m', e', hm', rfl, Nat.lt_of_lt_of_le hbelow (Nat.floor_le_floor ?_)⟩
    exact mul_le_mul_of_nonneg_right hvalue (by positivity)

theorem positive_of_value {f : UnpackedFloat} {q : ℚ} (hq : (ofUnpacked f).value? = some q) (h0 : 0 < q) :
    ∃ m e hm, f = .finite .positive m e hm ∧ (m : ℚ) * 2 ^ e = q := by
  obtain ⟨m, e, hf, rfl⟩ := eq_finite_of_value hq h0
  cases f with
  | notANumber => cases hf
  | infinity s => cases hf
  | zero s =>
    obtain ⟨-, rfl, -⟩ := Binary64.finite.inj hf
    rw [Nat.cast_zero, zero_mul] at h0
    exact absurd h0 (lt_irrefl 0)
  | finite s m' e' hm =>
    cases s with
    | negative => cases hf
    | positive =>
      cases hf
      exact ⟨m, e, hm, rfl, rfl⟩

/-- The words that are kept at the ratio that some bits stand for. -/
theorem keeps_ofBits_iff (bits word : UInt64) :
    keeps (.ofBits bits) word = true ↔
      (Float.ofBits bits).isNaN = false ∧
        (1 ≤ Float.ofBits bits ∨
          ∃ q, (Binary64.ofBits bits).value? = some q ∧ 0 < q ∧ q < 1 ∧ word.toNat < ⌊q * 2 ^ 64⌋₊) := by
  have hcanonical := canonical_unpack bits.toBitVec
  have hx := unpack_ofBits bits
  rw [ofBits_eq_ofUnpacked, keeps_iff, one_le_float_iff hx]
  show _ ↔ (Float.ofBits bits).toModel.unpack.isNaN = false ∧ _
  rw [hx]
  constructor
  · rintro (hf | ⟨m, e, hm, hf, hbelow⟩) <;> rw [hf] at hcanonical ⊢
    · exact ⟨rfl, .inl rfl⟩
    · refine ⟨rfl, or_iff_not_imp_left.mpr fun hless => ?_⟩
      have hlt : (m : ℚ) * 2 ^ e < 1 := not_le.mp (mt (one_le_iff hcanonical hm).mpr hless)
      exact ⟨(m : ℚ) * 2 ^ e, rfl, by positivity, hlt, hbelow⟩
  · rintro ⟨-, hone | ⟨q, hq, h0, -, hbelow⟩⟩
    · refine (fits_one.le_cases hcanonical hone).imp_right ?_
      rintro ⟨m, e, hm, hf, hvalue⟩
      have hall : 1 ≤ (m : ℚ) * 2 ^ e := by
        refine le_trans (le_of_eq ?_) hvalue
        norm_num
      refine ⟨m, e, hm, hf, Nat.lt_of_lt_of_le word.toNat_lt ?_⟩
      exact (wordCount_le_floor_iff (by positivity)).mpr hall
    · obtain ⟨m, e, hm, hf, rfl⟩ := positive_of_value hq h0
      exact .inr ⟨m, e, hm, hf, hbelow⟩

/-! ## Sets of trace ids -/

/-- **What is kept, and at which ratios.**  A set of trace ids is kept exactly when its hash lies below the
bound that is computed in doubles, if there is one, and this bound is the exact one; this is so exactly when the
ratio is a number and either is at least one, or lies between nothing and one and its exact value is a share of
all words that the hash lies below; and a set that is kept at a ratio is kept at every ratio that is not less. -/
theorem keep_exact_and_nested (seed : UInt64) (ids : TraceIds) :
    (∀ bits, (TraceIdRatio.mk bits seed).keep ids
        = (doubleLimit? (Float.ofBits bits)).all fun limit => hash seed ids < limit) ∧
    (∀ bits, (doubleLimit? (Float.ofBits bits)).map UInt64.toNat = limit? (.ofBits bits)) ∧
    (∀ bits, (TraceIdRatio.mk bits seed).keep ids = true ↔
      (Float.ofBits bits).isNaN = false ∧
        (1 ≤ Float.ofBits bits ∨
          ∃ q, (Binary64.ofBits bits).value? = some q ∧ 0 < q ∧ q < 1 ∧
            (hash seed ids).toNat < ⌊q * 2 ^ 64⌋₊)) ∧
    ∀ bits bits', Float.ofBits bits ≤ Float.ofBits bits' →
      (TraceIdRatio.mk bits seed).keep ids = true → (TraceIdRatio.mk bits' seed).keep ids = true := by
  refine ⟨fun _ => rfl, map_toNat_doubleLimit?, fun bits => ?_, fun bits bits' hle => ?_⟩
  · rw [TraceIdRatio.keep_eq_keeps, keeps_ofBits_iff]
  · rw [le_iff_unpack, unpack_ofBits, unpack_ofBits] at hle
    rw [TraceIdRatio.keep_eq_keeps, TraceIdRatio.keep_eq_keeps, ofBits_eq_ofUnpacked, ofBits_eq_ofUnpacked]
    exact keeps_mono (canonical_unpack _) (canonical_unpack _) hle

/-- The two doubles next to the share at which the hash of an id lies: the lower one does not keep it, the
upper one does, and so does the ratio that keeps all. -/
theorem keep_exact_and_nested_next_to_hash :
    let ids : TraceIds := ⟨[⟨1, [⟨"a"⟩]⟩], 1⟩
    Float.ofBits 0x3fe9b945bb508ae5 ≤ Float.ofBits 0x3ff0000000000000 ∧
      (TraceIdRatio.mk 0x3fe9b945bb508ae4 2).keep ids = false ∧
      (TraceIdRatio.mk 0x3fe9b945bb508ae5 2).keep ids = true ∧
      (TraceIdRatio.mk 0x3ff0000000000000 2).keep ids = true := by
  intro ids
  obtain ⟨hdoubles, -, hexact, hnested⟩ := keep_exact_and_nested 2 ids
  have hfeed : feed ids = [97, 255] := by
    rw [feed, TraceIds.sorted, show ids.toList = [⟨"a"⟩] from rfl, List.mergeSort_singleton]
    decide
  have hhash : hash 2 ids = 14828715139617203994 := by
    rw [hash, hfeed]
    decide
  have hlower : doubleLimit? (Float.ofBits 0x3fe9b945bb508ae4) = some 14828715139617202176 := by decide
  have hvalue : (Binary64.ofBits 0x3fe9b945bb508ae5).value? = some (7240583564266213 / 2 ^ 53) := by
    rw [show Binary64.ofBits 0x3fe9b945bb508ae5 = .finite false 7240583564266213 (-53) by decide]
    norm_num [value?]
  have hshare : (7240583564266213 / 2 ^ 53 : ℚ) * 2 ^ 64 = (14828715139617204224 : Nat) := by norm_num
  have hupper : (TraceIdRatio.mk 0x3fe9b945bb508ae5 2).keep ids = true := by
    rw [hexact, hhash]
    refine ⟨by decide, .inr ⟨_, hvalue, by norm_num, by norm_num, ?_⟩⟩
    rw [hshare, Nat.floor_natCast]
    decide
  have hle : Float.ofBits 0x3fe9b945bb508ae5 ≤ Float.ofBits 0x3ff0000000000000 := by decide
  refine ⟨hle, ?_, hupper, hnested _ _ hle hupper⟩
  rw [hdoubles, hhash, hlower]
  decide

end Vigil.Sampling
