import Vigil.Decimal.Unsigned

/-!
# What an unsigned decimal spells

A number is spelt by one or more digits, perhaps behind a plus sign.  Reading an unsigned decimal finds
exactly the spelt numbers below its bound (`readUnsigned?_eq_some_iff`), and the digits of a number
spell it (`spells_digits`).
-/

namespace Vigil.Decimal

/-- The text spells the number: one or more digits, perhaps with a plus sign in front. -/
def Spells (s : List Char) (n : Nat) : Prop :=
  ∃ ds : List Char, (s = ds ∨ s = '+' :: ds) ∧ ds ≠ [] ∧ (∀ c ∈ ds, c.isDigit = true) ∧
    n = Nat.ofDigitChars 10 ds 0

theorem digitValue?_eq_some_iff {c : Char} {n : Nat} :
    digitValue? c = some n ↔ c.isDigit = true ∧ n = c.toNat - '0'.toNat := by
  have hdigit : ('0' ≤ c ∧ c ≤ '9') ↔ c.isDigit = true := by
    rw [Char.isDigit, Bool.and_eq_true, decide_eq_true_eq, decide_eq_true_eq]
    exact Iff.rfl
  rw [digitValue?]
  by_cases h : '0' ≤ c ∧ c ≤ '9'
  · rw [if_pos h, Option.some.injEq]
    exact ⟨fun e => ⟨hdigit.mp h, e.symm⟩, fun e => e.2.symm⟩
  · rw [if_neg h]
    exact ⟨(nomatch ·), fun e => absurd (hdigit.mpr e.1) h⟩

theorem continueDigits?_eq_some_iff {s : List Char} {m n : Nat} :
    continueDigits? m s = some n ↔
      (∀ c ∈ s, c.isDigit = true) ∧ n = Nat.ofDigitChars 10 s m := by
  induction s generalizing m with
  | nil =>
    simp only [continueDigits?, Option.some.injEq, List.not_mem_nil, false_implies, implies_true,
      true_and, Nat.ofDigitChars_nil]
    exact eq_comm
  | cons c s ih =>
    cases hc : digitValue? c with
    | none =>
      have hdigit : ¬c.isDigit = true := fun hd => by
        rw [digitValue?_eq_some_iff.mpr ⟨hd, rfl⟩] at hc
        cases hc
      simp [continueDigits?, hc, hdigit]
    | some d =>
      obtain ⟨hdigit, rfl⟩ := digitValue?_eq_some_iff.mp hc
      rw [continueDigits?, hc, List.forall_mem_cons, Nat.ofDigitChars_cons, Nat.mul_comm 10 m]
      simp only [ih, hdigit, true_and]

theorem ofDigits?_eq_some_iff {s : List Char} {n : Nat} :
    ofDigits? s = some n ↔
      s ≠ [] ∧ (∀ c ∈ s, c.isDigit = true) ∧ n = Nat.ofDigitChars 10 s 0 := by
  cases s with
  | nil => simp [ofDigits?]
  | cons c s => simp [ofDigits?, continueDigits?_eq_some_iff]

/-- **Reading finds exactly the spelt numbers below the bound.** -/
theorem readUnsigned?_eq_some_iff {bound n : Nat} {s : List Char} :
    readUnsigned? bound s = some n ↔ Spells s n ∧ n < bound := by
  unfold readUnsigned?
  rw [Option.filter_eq_some_iff, ofDigits?_eq_some_iff, decide_eq_true_eq]
  refine and_congr_left fun _ => ?_
  split
  · rename_i t
    constructor
    · intro h
      obtain ⟨hne, hdigits, hn⟩ := h
      exact ⟨t, .inr rfl, hne, hdigits, hn⟩
    · intro h
      obtain ⟨ds, rfl | h, hne, hdigits, hn⟩ := h
      · -- a plus sign is no digit
        exact absurd (hdigits '+' List.mem_cons_self) (by decide)
      · obtain rfl := (List.cons.inj h).2
        exact ⟨hne, hdigits, hn⟩
  · rename_i hplus
    constructor
    · intro h
      obtain ⟨hne, hdigits, hn⟩ := h
      exact ⟨s, .inl rfl, hne, hdigits, hn⟩
    · intro h
      obtain ⟨ds, rfl | h, hne, hdigits, hn⟩ := h
      · exact ⟨hne, hdigits, hn⟩
      · exact absurd h (hplus ds)

/-- A text spells one number at most. -/
theorem Spells.unique {s : List Char} {m n : Nat} (hm : Spells s m) (hn : Spells s n) : m = n := by
  have hm' := readUnsigned?_eq_some_iff.mpr ⟨hm, Nat.lt_succ_of_le (Nat.le_max_left m n)⟩
  have hn' := readUnsigned?_eq_some_iff.mpr ⟨hn, Nat.lt_succ_of_le (Nat.le_max_right m n)⟩
  exact Option.some.inj (hm'.symm.trans hn')

/-- Nothing but digits and a plus sign spells a number. -/
theorem Spells.not_mem {s : List Char} {n : Nat} {c : Char} (h : Spells s n)
    (hdigit : ¬c.isDigit = true) (hplus : c ≠ '+') : c ∉ s := by
  obtain ⟨ds, rfl | rfl, -, hdigits, -⟩ := h
  · exact fun hmem => hdigit (hdigits c hmem)
  · intro hmem
    rcases List.mem_cons.mp hmem with h | hmem
    · exact hplus h
    · exact hdigit (hdigits c hmem)

theorem digits_ne_nil (n : Nat) : digits n ≠ [] := Nat.toDigits_ne_nil

theorem isDigit_of_mem_digits {n : Nat} {c : Char} (h : c ∈ digits n) : c.isDigit = true :=
  Nat.isDigit_of_mem_toDigits (by decide) (by decide) h

theorem not_mem_digits {c : Char} (n : Nat) (h : ¬c.isDigit = true) : c ∉ digits n :=
  fun hc => h (isDigit_of_mem_digits hc)

/-- The digits of a number spell it. -/
theorem spells_digits (n : Nat) : Spells (digits n) n :=
  ⟨digits n, .inl rfl, digits_ne_nil n, fun _ hc => isDigit_of_mem_digits hc,
    Nat.ofDigitChars_ten_toDigits.symm⟩

end Vigil.Decimal
