import Vigil.Proofs.Sampling.Bound
import Mathlib.Data.Int.GCD
import Mathlib.Data.LawfulXor.Basic
import Mathlib.Data.Nat.Prime.Basic
import Mathlib.SetTheory.Cardinal.Finite

/-!
# Every seed counts alike

The hash of a chain of ids is a chain of mixing steps, and each of them can be undone: a product with an odd
word, an exclusive or with a word, and the folding of the upper bits.  So for given ids every word is the hash
under exactly one seed, and a ratio is the share of the seeds that keep the ids.  Proved:

* `mul_bijective_of_odd`, `foldUpper_foldUpper` — the steps can be undone;
* `absorbBytes_bijective`, `finish_bijective`, `hash_bijective` — and so can what is made of them;
* `card_words_below` — how many words lie below a bound;
* `seeds_fair` — how many seeds keep the ids of a chain.
-/

namespace Vigil.Sampling

open Decimal

/-! ## Steps that can be undone -/

/-- Words are counted modulo a power of two, where an odd word has an inverse. -/
theorem mul_bijective_of_odd {m : UInt64} (hodd : m.toNat % 2 = 1) :
    Function.Bijective fun state : UInt64 => state * m := by
  have hcoprime : m.toNat.Coprime UInt64.size :=
    (Nat.Coprime.pow_left 64 (Nat.coprime_two_left.mpr (Nat.odd_iff.mpr hodd))).symm
  obtain ⟨n, -, hn⟩ := Nat.exists_mul_mod_eq_one_of_coprime hcoprime (by decide)
  have hinverse : m * UInt64.ofNat n = 1 := by
    rw [← UInt64.toNat_inj, UInt64.toNat_mul]
    simpa [UInt64.toNat_ofNat, Nat.mul_mod] using hn
  refine Function.bijective_iff_has_inverse.mpr ⟨fun state => state * UInt64.ofNat n, ?_, ?_⟩
  · intro state
    show state * m * UInt64.ofNat n = state
    rw [UInt64.mul_assoc, hinverse, UInt64.mul_one]
  · intro state
    show state * UInt64.ofNat n * m = state
    rw [UInt64.mul_assoc, UInt64.mul_comm _ m, hinverse, UInt64.mul_one]

/-- The upper bits are folded into bits that lie so low that folding twice takes them out again. -/
theorem foldUpper_foldUpper (h : UInt64) : foldUpper (foldUpper h) = h := by
  have hgone : h >>> 33 >>> 33 = 0 := by
    rw [← UInt64.toNat_inj, UInt64.toNat_shiftRight, UInt64.toNat_shiftRight]
    show h.toNat >>> 33 >>> 33 = 0
    rw [← Nat.shiftRight_add, Nat.shiftRight_eq_div_pow]
    exact Nat.div_eq_of_lt (Nat.lt_trans h.toNat_lt (by decide))
  rw [foldUpper, foldUpper, UInt64.shiftRight_xor, hgone, xor_zero, xor_cancel_right]

theorem foldUpper_bijective : Function.Bijective foldUpper :=
  Function.Involutive.bijective foldUpper_foldUpper

theorem absorb_bijective (word : UInt64) : Function.Bijective fun state => absorb state word :=
  (xor_left_involutive word).bijective.comp (mul_bijective_of_odd (by decide))

/-! ## The hash under different seeds -/

theorem absorbBytes_bijective (bytes : List UInt8) :
    Function.Bijective fun state => absorbBytes state bytes := by
  induction bytes with
  | nil => exact Function.bijective_id
  | cons b bytes ih => exact ih.comp (absorb_bijective b.toUInt64)

theorem finish_bijective : Function.Bijective finish :=
  foldUpper_bijective.comp <| (mul_bijective_of_odd (by decide)).comp <|
    foldUpper_bijective.comp <| (mul_bijective_of_odd (by decide)).comp foldUpper_bijective

/-- **Every word is the hash of given ids under exactly one seed.** -/
theorem hash_bijective (ids : TraceIds) : Function.Bijective fun seed => hash seed ids := by
  have hseed : Function.Bijective fun seed => absorb initial seed :=
    (xor_right_involutive (initial * multiplier)).bijective
  exact finish_bijective.comp ((absorbBytes_bijective (feed ids)).comp hseed)

/-! ## Counting words and seeds -/

theorem card_words_below {n : Nat} (hn : n ≤ wordCount) : Nat.card {word : UInt64 // word.toNat < n} = n := by
  let place : {word : UInt64 // word.toNat < n} ≃ Fin n :=
    { toFun := fun word => ⟨word.1.toNat, word.2⟩
      invFun := fun i => ⟨UInt64.ofNat i, by
        rw [UInt64.toNat_ofNat_of_lt' (Nat.lt_of_lt_of_le i.2 hn)]
        exact i.2⟩
      left_inv := fun word => Subtype.ext (UInt64.ofNat_toNat)
      right_inv := fun i => Fin.ext (UInt64.toNat_ofNat_of_lt' (Nat.lt_of_lt_of_le i.2 hn)) }
  rw [Nat.card_congr place, Nat.card_fin]

/-- As many seeds keep the ids of a chain as there are words that are kept. -/
theorem card_seeds_kept (ratio : Binary64) (ids : TraceIds) :
    Nat.card {seed : UInt64 // keeps ratio (hash seed ids) = true}
      = Nat.card {word : UInt64 // keeps ratio word = true} :=
  Nat.card_congr ((Equiv.ofBijective _ (hash_bijective ids)).subtypeEquiv fun _ => Iff.rfl)

/-- **Every seed counts alike.**  Under different seeds the same ids have different hashes, and every word is
their hash under one seed; so the share of the seeds that keep them is the ratio, rounded down to a whole
number of seeds. -/
theorem seeds_fair (ids : TraceIds) :
    (Function.Bijective fun seed => hash seed ids) ∧
    ∀ (bits : UInt64) (q : ℚ), (Binary64.ofBits bits).value? = some q → 0 < q → q < 1 →
      Nat.card {seed : UInt64 // (TraceIdRatio.mk bits seed).keep ids = true} = ⌊q * 2 ^ 64⌋₊ := by
  refine ⟨hash_bijective ids, fun bits q hq h0 h1 => ?_⟩
  obtain ⟨hlimit, hbelow⟩ := limit?_eq_some_floor hq h0 h1
  simp only [TraceIdRatio.keep_eq_keeps]
  rw [card_seeds_kept]
  simp only [keeps, hlimit, Option.all_some, decide_eq_true_eq]
  exact card_words_below (Nat.le_of_lt hbelow)

/-- Two ids under the greatest ratio below one and under the smallest there is: all seeds but two thousand and
forty-eight keep them, and none does. -/
theorem seeds_fair_near_the_ends :
    let ids : TraceIds := ⟨[⟨2, [⟨"b"⟩]⟩, ⟨1, [⟨"a"⟩]⟩], 2⟩
    (Function.Bijective fun seed => hash seed ids) ∧
    Nat.card {seed : UInt64 // (TraceIdRatio.mk 0x3fefffffffffffff seed).keep ids = true} = 2 ^ 64 - 2 ^ 11 ∧
    Nat.card {seed : UInt64 // (TraceIdRatio.mk 1 seed).keep ids = true} = 0 := by
  intro ids
  obtain ⟨hbijective, hcard⟩ := seeds_fair ids
  have hgreatest : (Binary64.ofBits 0x3fefffffffffffff).value? = some (1 - 1 / 2 ^ 53) := by
    rw [show Binary64.ofBits 0x3fefffffffffffff = .finite false (2 ^ 53 - 1) (-53) by decide]
    norm_num [Binary64.value?]
  have hsmallest : (Binary64.ofBits 1).value? = some (1 / 2 ^ 1074) := by
    rw [show Binary64.ofBits 1 = .finite false 1 (-1074) by decide, Binary64.value?,
      if_neg Bool.false_ne_true, Nat.cast_one, one_mul, one_div]
    rfl
  refine ⟨hbijective, ?_, ?_⟩
  · rw [hcard _ _ hgreatest (by norm_num) (by norm_num), Nat.floor_eq_iff (by norm_num)]
    norm_num
  · have hbelow : (1 : ℚ) / 2 ^ 1074 < 1 :=
      (div_lt_one (by positivity)).mpr (one_lt_pow₀ one_lt_two (by decide))
    rw [hcard _ _ hsmallest (by positivity) hbelow, Nat.floor_eq_zero, one_div_mul_eq_div,
      div_lt_one (by positivity)]
    exact pow_lt_pow_right₀ one_lt_two (by decide)

end Vigil.Sampling
