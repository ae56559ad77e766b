import Vigil.Settings
import Mathlib.Order.MinMax

/-!
# How many bytes a dump may take

The bytes that a dump may take are computed in words, with a product that stops at the greatest word.  The
ceiling of the budget is a word itself, so that nothing of this shows: the bytes are those that whole
numbers give (`toNat_capacityFor`), for more threads there are never fewer than for one
(`capacityFor_one_le`), and they never fall when anything that they depend on grows (`capacityFor_mono`).
All of this together is `capacityFor_exact`.
-/

namespace Vigil

theorem toNat_min (a b : UInt64) : (min a b).toNat = min a.toNat b.toNat := by
  show (if a ≤ b then a else b).toNat = min a.toNat b.toNat
  rw [min_def, apply_ite UInt64.toNat]
  simp only [UInt64.le_iff_toNat_le]

theorem toNat_max (a b : UInt64) : (max a b).toNat = max a.toNat b.toNat := by
  show (if a ≤ b then b else a).toNat = max a.toNat b.toNat
  rw [max_def, apply_ite UInt64.toNat]
  simp only [UInt64.le_iff_toNat_le]

theorem toNat_saturatingMul (a b : UInt64) :
    (saturatingMul a b).toNat = min (a.toNat * b.toNat) (UInt64.size - 1) := by
  rw [saturatingMul]
  split
  · next hfits =>
    rw [UInt64.toNat_mul, Nat.mod_eq_of_lt hfits]
    omega
  · next hover =>
    rw [UInt64.toNat_ofNat_of_lt' (by decide)]
    omega

namespace DumpBudget

variable (b : DumpBudget)

/-- **The bytes are those that whole numbers give.** -/
theorem toNat_capacityFor (threads : UInt64) :
    (b.capacityFor threads).toNat
      = min (max threads.toNat 1 * b.bytesPerThread.toNat) b.maxBytes.toNat := by
  have hceiling : b.maxBytes.toNat < UInt64.size := b.maxBytes.toNat_lt
  rw [capacityFor, toNat_min, toNat_saturatingMul, toNat_max]
  show min (min (max threads.toNat 1 * b.bytesPerThread.toNat) (UInt64.size - 1)) b.maxBytes.toNat = _
  omega

/-- For more threads there are never fewer bytes than for one. -/
theorem capacityFor_one_le (threads : UInt64) :
    (b.capacityFor 1).toNat ≤ (b.capacityFor threads).toNat := by
  rw [toNat_capacityFor, toNat_capacityFor]
  exact min_le_min_right _ (Nat.mul_le_mul_right _ (Nat.le_max_right _ 1))

/-- For more threads, more bytes for each or a higher ceiling there are never fewer bytes. -/
theorem capacityFor_mono {b b' : DumpBudget} {n n' : UInt64} (hn : n ≤ n')
    (hbytes : b.bytesPerThread ≤ b'.bytesPerThread) (hmost : b.maxBytes ≤ b'.maxBytes) :
    b.capacityFor n ≤ b'.capacityFor n' := by
  rw [UInt64.le_iff_toNat_le] at hn hbytes hmost ⊢
  rw [toNat_capacityFor, toNat_capacityFor]
  exact min_le_min (Nat.mul_le_mul (max_le_max_right 1 hn) hbytes) hmost

/-- Under settings that are accepted something of a dump is kept. -/
theorem one_le_capacityFor_of_check {s accepted : Settings} (h : s.check = .ok accepted) (n : UInt64) :
    1 ≤ accepted.threadDump.capacityFor n := by
  obtain ⟨rfl, -, hbytes, hmost⟩ := Settings.check_eq_ok_iff.mp h
  have hbytes' : accepted.threadDump.bytesPerThread.toNat ≠ 0 := fun h0 => hbytes (UInt64.toNat_inj.mp h0)
  have hmost' : accepted.threadDump.maxBytes.toNat ≠ 0 := fun h0 => hmost (UInt64.toNat_inj.mp h0)
  have hproduct : 0 < max n.toNat 1 * accepted.threadDump.bytesPerThread.toNat :=
    Nat.mul_pos (Nat.le_max_right _ 1) (Nat.pos_of_ne_zero hbytes')
  rw [UInt64.le_iff_toNat_le, toNat_capacityFor]
  exact le_min hproduct (Nat.pos_of_ne_zero hmost')

/-- **The bytes that a dump may take are exact and monotone.**  For any words they are what whole numbers
give, no more than the ceiling, and never fewer for more threads, for more bytes for each thread or for a
higher ceiling; and under settings that are accepted there is at least one. -/
theorem capacityFor_exact (n : UInt64) :
    (b.capacityFor n).toNat = min (max n.toNat 1 * b.bytesPerThread.toNat) b.maxBytes.toNat ∧
    b.capacityFor n ≤ b.maxBytes ∧
    (∀ n', n ≤ n' → b.capacityFor n ≤ b.capacityFor n') ∧
    (∀ bytes, b.bytesPerThread ≤ bytes →
      b.capacityFor n ≤ { b with bytesPerThread := bytes }.capacityFor n) ∧
    (∀ most, b.maxBytes ≤ most → b.capacityFor n ≤ { b with maxBytes := most }.capacityFor n) ∧
    ∀ s accepted : Settings, s.check = .ok accepted → 1 ≤ accepted.threadDump.capacityFor n := by
  refine ⟨b.toNat_capacityFor n, ?_, fun n' hn => ?_, fun bytes hbytes => ?_, fun most hmost => ?_,
    fun s accepted h => one_le_capacityFor_of_check h n⟩
  · rw [UInt64.le_iff_toNat_le, toNat_capacityFor]
    exact Nat.min_le_right _ _
  · exact capacityFor_mono hn UInt64.le_rfl UInt64.le_rfl
  · exact capacityFor_mono UInt64.le_rfl hbytes UInt64.le_rfl
  · exact capacityFor_mono UInt64.le_rfl UInt64.le_rfl hmost

/-- A million million threads with a thousand million bytes each: the product is no word, and neither is the one
for twice as many threads. -/
theorem capacityFor_exact_beyond_words :
    let b : DumpBudget := { bytesPerThread := 1000000000, maxBytes := 18446744073709551615 }
    (b.capacityFor 1000000000000).toNat = 18446744073709551615 ∧
      b.capacityFor 1000000000000 ≤ b.capacityFor 2000000000000 ∧
      1 ≤ ({} : Settings).threadDump.capacityFor 1000000000000 := by
  intro b
  obtain ⟨hexact, -, hmono, -, -, hone⟩ := b.capacityFor_exact 1000000000000
  exact ⟨hexact, hmono _ (by decide), hone {} {} rfl⟩

end DumpBudget

end Vigil
