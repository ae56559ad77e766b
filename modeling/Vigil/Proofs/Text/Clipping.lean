import Vigil.Text.Utf8

/-!
# What is left of a text that is clipped

A text is clipped from the left, a character at a time, until the next one does not fit.  Proved, the first
three for a text put together from two parts:

* `clip_append_of_le` — a first part that fits is kept whole, and the budget that it leaves goes to the
  second part;
* `clip_append_of_lt` — a first part that does not fit is clipped as if nothing stood behind it, and
  something of it is lost (`clip_ne_self`);
* `clip_append_of_spent` — nor does it matter what stands behind a first part that fits exactly;
* `clip_eq_self_or_le` — a budget that does not suffice is spent but for three bytes at most.
-/

namespace Vigil.Text

theorem clip_append_of_le {budget : Nat} {p : List Char} (s : List Char) (h : byteSize p ≤ budget) :
    clip budget (p ++ s) = p ++ clip (budget - byteSize p) s := by
  induction p generalizing budget with
  | nil => rfl
  | cons c p ih =>
    have hsize : c.utf8Size + byteSize p ≤ budget := h
    have hc : c.utf8Size ≤ budget := by omega
    have hp : byteSize p ≤ budget - c.utf8Size := by omega
    rw [List.cons_append, clip, if_pos hc, ih hp, List.cons_append, byteSize, Nat.sub_add_eq]

theorem clip_append_of_lt {budget : Nat} {p : List Char} (s : List Char) (h : budget < byteSize p) :
    clip budget (p ++ s) = clip budget p := by
  induction p generalizing budget with
  | nil => exact absurd h (Nat.not_lt_zero budget)
  | cons c p ih =>
    have hsize : budget < c.utf8Size + byteSize p := h
    rw [List.cons_append, clip, clip]
    split
    · have hp : budget - c.utf8Size < byteSize p := by omega
      rw [ih hp]
    · rfl

/-- Where the budget is spent, nothing that stands behind is kept. -/
theorem clip_append_of_spent {budget : Nat} {p : List Char} (s : List Char) (h : budget ≤ byteSize p) :
    clip budget (p ++ s) = clip budget p := by
  rcases Nat.lt_or_eq_of_le h with hlt | heq
  · exact clip_append_of_lt s hlt
  · have hnone : clip 0 s = [] := by
      cases s with
      | nil => rfl
      | cons c s => rw [clip, if_neg (Nat.not_le_of_lt c.utf8Size_pos)]
    rw [clip_append_of_le s (Nat.le_of_eq heq.symm), heq, Nat.sub_self, hnone, List.append_nil,
      clip_eq_self (Nat.le_refl _)]

/-- A text is kept whole, or what is kept falls short of the budget by less than a character takes. -/
theorem clip_eq_self_or_le (budget : Nat) (s : List Char) :
    clip budget s = s ∨ budget ≤ byteSize (clip budget s) + 3 := by
  induction s generalizing budget with
  | nil => exact .inl rfl
  | cons c s ih =>
    rw [clip]
    split
    · refine (ih (budget - c.utf8Size)).imp (congrArg (c :: ·)) fun hle => ?_
      rw [byteSize]
      omega
    · have hc : c.utf8Size ≤ 4 := c.utf8Size_le_four
      right
      rw [byteSize]
      omega

/-- Something is lost of a text that does not fit. -/
theorem clip_ne_self {budget : Nat} {s : List Char} (h : budget < byteSize s) : clip budget s ≠ s := by
  intro heq
  have hle := byteSize_clip_le budget s
  rw [heq] at hle
  omega

end Vigil.Text
