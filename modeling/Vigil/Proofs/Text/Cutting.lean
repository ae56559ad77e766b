import Vigil.Text.Slice
import Vigil.Proofs.Text.Clipping

/-!
# Cutting a text at the last place that fits

A text that is too long for a budget is cut by going back from the budget, a byte at a time, to a place where
it can be cut.  Whether it can be cut there is told by the one byte behind the place.  Proved:

* `exists_utf8EncodeChar_eq` — of the bytes of a character the first one begins it and the others continue it;
* `canCut_encode_iff` — so the byte behind a place tells whether the text can be cut there;
* `searchBack_of_last` — going back ends at the last place that passes the test;
* `clip_longest`, `clip_clip` — a clipped text is the longest beginning that fits, and clipping twice is
  clipping to the smaller budget;
* `clipBack_ends_at_longest` — going back ends, and it leaves that beginning.
-/

namespace Vigil.Text

/-! ## The bytes of a character -/

/-- Six bits of a number are spelt as a byte that continues a character. -/
theorem isContinuation_ofNat (n : Nat) : isContinuation (UInt8.ofNat (n % 0x40 + 0x80)) = true := by
  rw [isContinuation, Bool.and_eq_true, decide_eq_true_eq, decide_eq_true_eq, UInt8.le_iff_toNat_le,
    UInt8.le_iff_toNat_le, UInt8.toNat_ofNat']
  show 0x80 ≤ _ ∧ _ ≤ 0xbf
  omega

theorem not_isContinuation_ofNat {n : Nat} (h : n < 0x80 ∨ 0xc0 ≤ n) (hn : n < 0x100) :
    isContinuation (UInt8.ofNat n) = false := by
  rw [Bool.eq_false_iff, isContinuation, ne_eq, Bool.and_eq_true, decide_eq_true_eq, decide_eq_true_eq,
    UInt8.le_iff_toNat_le, UInt8.le_iff_toNat_le, UInt8.toNat_ofNat']
  show ¬(0x80 ≤ _ ∧ _ ≤ 0xbf)
  omega

/-- **The first byte of a character begins it and the others continue it.** -/
theorem exists_utf8EncodeChar_eq (c : Char) : ∃ lead rest, String.utf8EncodeChar c = lead :: rest ∧
    isContinuation lead = false ∧ ∀ b ∈ rest, isContinuation b = true := by
  simp only [String.utf8EncodeChar]
  -- the arms are those of one, two, three and four bytes
  split
  · exact ⟨_, _, rfl, not_isContinuation_ofNat (by omega) (by omega), List.forall_mem_nil _⟩
  split
  · refine ⟨_, _, rfl, not_isContinuation_ofNat (by omega) (by omega), ?_⟩
    exact List.forall_mem_singleton.mpr (isContinuation_ofNat _)
  split
  · refine ⟨_, _, rfl, not_isContinuation_ofNat (by omega) (by omega), ?_⟩
    simp only [List.forall_mem_cons, isContinuation_ofNat, true_and]
    exact List.forall_mem_nil _
  · refine ⟨_, _, rfl, not_isContinuation_ofNat (by omega) (by omega), ?_⟩
    simp only [List.forall_mem_cons, isContinuation_ofNat, true_and]
    exact List.forall_mem_nil _

/-! ## Where a text can be cut -/

variable {s : List Char} {n : Nat}

theorem isBoundary_nil_iff : IsBoundary [] n ↔ n = 0 := by
  constructor
  · intro h
    obtain ⟨front, behind, hs, rfl⟩ := h
    rw [(List.append_eq_nil_iff.mp hs.symm).1]
    rfl
  · rintro rfl
    exact ⟨[], [], rfl, rfl⟩

/-- A text can be cut in front of its first character, and behind it where the rest can be cut. -/
theorem isBoundary_cons_iff {c : Char} :
    IsBoundary (c :: s) n ↔ n = 0 ∨ ∃ m, n = c.utf8Size + m ∧ IsBoundary s m := by
  constructor
  · intro h
    obtain ⟨front, behind, hs, rfl⟩ := h
    cases front with
    | nil => exact .inl rfl
    | cons d front =>
      obtain ⟨rfl, rfl⟩ := List.cons.inj hs
      exact .inr ⟨byteSize front, rfl, front, behind, rfl, rfl⟩
  · rintro (rfl | ⟨m, rfl, front, behind, rfl, rfl⟩)
    · exact ⟨[], c :: s, rfl, rfl⟩
    · exact ⟨c :: front, behind, rfl, rfl⟩

/-- At a place inside the first character the byte behind it continues that character. -/
theorem canCut_encode_of_inside {c : Char} (s : List Char) (h0 : n ≠ 0) (hn : n < c.utf8Size) :
    canCut (encode (c :: s)) n = false := by
  obtain ⟨lead, rest, hbytes, -, hrest⟩ := exists_utf8EncodeChar_eq c
  obtain ⟨k, rfl⟩ := Nat.exists_eq_succ_of_ne_zero h0
  have hlength : (lead :: rest).length = c.utf8Size := hbytes ▸ String.length_utf8EncodeChar c
  have hk : k < rest.length := by
    rw [List.length_cons] at hlength
    omega
  have hbyte : (encode (c :: s))[k + 1]? = some rest[k] := by
    rw [encode_cons, hbytes, List.cons_append, List.getElem?_cons_succ, List.getElem?_append_left hk,
      List.getElem?_eq_getElem hk]
  rw [canCut, if_neg h0, hbyte]
  show (!isContinuation rest[k]) = false
  rw [hrest _ (List.getElem_mem hk)]
  rfl

/-- Behind its first character a text can be cut where the rest can be cut. -/
theorem canCut_encode_cons (c : Char) (s : List Char) (m : Nat) :
    canCut (encode (c :: s)) (c.utf8Size + m) = canCut (encode s) m := by
  have hpos : c.utf8Size + m ≠ 0 := by
    have := c.utf8Size_pos
    omega
  have hlength : (String.utf8EncodeChar c).length = c.utf8Size := String.length_utf8EncodeChar c
  have hbyte : (encode (c :: s))[c.utf8Size + m]? = (encode s)[m]? := by
    rw [encode_cons, List.getElem?_append_right (by omega), hlength, Nat.add_sub_cancel_left]
  rw [canCut, if_neg hpos, hbyte, encode_cons, List.length_append, hlength, canCut]
  by_cases hm : m = 0
  · -- the rest is cut at its beginning: there its first character begins, or nothing is left
    subst hm
    cases s with
    | nil => rw [if_pos rfl]; exact beq_self_eq_true _
    | cons d s =>
      obtain ⟨lead, rest, hd, hlead, -⟩ := exists_utf8EncodeChar_eq d
      rw [if_pos rfl, encode_cons, hd, List.cons_append, List.getElem?_cons_zero]
      show (!isContinuation lead) = true
      rw [hlead]
      rfl
  · rw [if_neg hm]
    cases (encode s)[m]? with
    | none => rw [Bool.eq_iff_iff, beq_iff_eq, beq_iff_eq, Nat.add_left_cancel_iff]
    | some b => rfl

/-- **The byte behind a place tells whether the text can be cut there.** -/
theorem canCut_encode_iff : canCut (encode s) n = true ↔ IsBoundary s n := by
  induction s generalizing n with
  | nil =>
    rw [isBoundary_nil_iff]
    by_cases hn : n = 0
    · exact ⟨fun _ => hn, fun _ => if_pos hn⟩
    · rw [canCut, if_neg hn]
      exact beq_iff_eq
  | cons c s ih =>
    rw [isBoundary_cons_iff]
    by_cases h0 : n = 0
    · exact ⟨fun _ => .inl h0, fun _ => if_pos h0⟩
    rcases Nat.lt_or_ge n c.utf8Size with hn | hn
    · rw [canCut_encode_of_inside s h0 hn]
      constructor
      · intro h
        cases h
      · rintro (h | ⟨m, rfl, -⟩)
        · exact absurd h h0
        · omega
    · obtain ⟨m, rfl⟩ := Nat.exists_eq_add_of_le hn
      rw [canCut_encode_cons, ih]
      constructor
      · exact fun h => .inr ⟨m, rfl, h⟩
      · rintro (h | ⟨m', hm, h⟩)
        · exact absurd h h0
        · rwa [Nat.add_left_cancel hm]

/-! ## Going back -/

/-- **Going back ends at the last place that passes the test.** -/
theorem searchBack_of_last {test : Nat → Bool} {m : Nat} (hm : m ≤ n) (htest : test m = true)
    (hlast : ∀ k, test k = true → k ≤ n → k ≤ m) : searchBack test n = .ok m := by
  induction n with
  | zero =>
    obtain rfl : m = 0 := Nat.le_zero.mp hm
    exact if_pos htest
  | succ n ih =>
    rw [searchBack]
    split
    · next hn => rw [Nat.le_antisymm hm (hlast (n + 1) hn (Nat.le_refl _))]
    · next hn =>
      have hne : m ≠ n + 1 := by
        rintro rfl
        exact hn htest
      exact ih (by omega) fun k hk hkn => hlast k hk (Nat.le_succ_of_le hkn)

/-! ## The longest beginning that fits -/

theorem byteSize_le_of_beginning {p : List Char} (h : p <+: s) : byteSize p ≤ byteSize s := by
  obtain ⟨rest, rfl⟩ := h
  rw [byteSize_append]
  exact Nat.le_add_right _ _

/-- **Every beginning that fits is a beginning of what is kept.** -/
theorem clip_longest {budget : Nat} {p : List Char} (h : p <+: s) (hp : byteSize p ≤ budget) :
    p <+: clip budget s := by
  obtain ⟨rest, rfl⟩ := h
  rw [clip_append_of_le rest hp]
  exact List.prefix_append p _

/-- **Clipping twice is clipping to the smaller budget.** -/
theorem clip_clip (budget budget' : Nat) (s : List Char) :
    clip budget' (clip budget s) = clip (min budget budget') s := by
  have hleft : clip budget' (clip budget s) <+: clip (min budget budget') s := by
    have hkept : clip budget s <+: s := clip_prefix budget s
    have htwice : clip budget' (clip budget s) <+: clip budget s := clip_prefix budget' _
    refine clip_longest (htwice.trans hkept) (Nat.le_min.mpr ⟨?_, byteSize_clip_le _ _⟩)
    exact Nat.le_trans (byteSize_le_of_beginning htwice) (byteSize_clip_le budget s)
  have hright : clip (min budget budget') s <+: clip budget' (clip budget s) := by
    have hkept : clip (min budget budget') s <+: s := clip_prefix _ s
    have hsize := Nat.le_min.mp (byteSize_clip_le (min budget budget') s)
    exact clip_longest (clip_longest hkept hsize.1) hsize.2
  exact hleft.eq_of_length_le hright.length_le

/-- What is kept ends where the text can be cut, and no later place in the budget is one. -/
theorem searchBack_canCut (budget : Nat) (s : List Char) :
    searchBack (canCut (encode s)) budget = .ok (byteSize (clip budget s)) := by
  refine searchBack_of_last (byteSize_clip_le budget s) ?_ fun k hk hbudget => ?_
  · obtain ⟨rest, hrest⟩ := clip_prefix budget s
    exact canCut_encode_iff.mpr ⟨clip budget s, rest, hrest.symm, rfl⟩
  · obtain ⟨front, behind, rfl, rfl⟩ := canCut_encode_iff.mp hk
    exact byteSize_le_of_beginning (clip_longest (List.prefix_append front behind) hbudget)

/-- **Clipping by going back leaves what clipping from the left leaves.** -/
theorem clipBack_eq (budget : Nat) (s : List Char) : clipBack budget s = .ok (clip budget s) := by
  rw [clipBack]
  split
  · next hfits => rw [clip_eq_self hfits]
  · obtain ⟨rest, hrest⟩ := clip_prefix budget s
    have htake : takeTo (byteSize (clip budget s)) s = .ok (clip budget s) := by
      have h := takeTo_append (clip budget s) rest
      rwa [hrest] at h
    rw [searchBack_canCut]
    exact htake

/-- The bytes of a beginning are the first bytes of the text. -/
theorem encode_of_beginning {p : List Char} (h : p <+: s) : encode p = (encode s).take (byteSize p) := by
  obtain ⟨rest, rfl⟩ := h
  rw [encode_append, ← length_encode, List.take_left]

/-- **A text is cut at the last place that fits.**  Whatever the text and the budget are: going back from the
budget comes to a place where the text can be cut before it would pass the beginning, and the text is cut
there.  What is kept is a text again, the first so many bytes of the text, and takes no more bytes than the
budget; any beginning of the text that fits is a beginning of it, and no place behind its end that is within the
budget is one where the text can be cut.  So cutting what is kept once more is cutting to the smaller
budget. -/
theorem clipBack_ends_at_longest (budget : Nat) (s : List Char) :
    ∃ kept, clipBack budget s = .ok kept ∧ kept = clip budget s ∧
      searchBack (canCut (encode s)) budget = .ok (byteSize kept) ∧
      kept <+: s ∧ encode kept = (encode s).take (byteSize kept) ∧ byteSize kept ≤ budget ∧
      (∀ p, p <+: s → byteSize p ≤ budget → p <+: kept) ∧
      (∀ n, IsBoundary s n → n ≤ budget → n ≤ byteSize kept) ∧
      ∀ budget', clipBack budget' kept = clipBack (min budget budget') s := by
  have hkept : clip budget s <+: s := clip_prefix budget s
  refine ⟨clip budget s, clipBack_eq budget s, rfl, searchBack_canCut budget s, hkept,
    encode_of_beginning hkept, byteSize_clip_le budget s, fun p => clip_longest, ?_, fun budget' => ?_⟩
  · rintro n ⟨front, behind, rfl, rfl⟩ hn
    exact byteSize_le_of_beginning (clip_longest (List.prefix_append front behind) hn)
  · rw [clipBack_eq, clipBack_eq, clip_clip]

/-- Characters of one, two, three and four bytes: a budget that ends inside the last one is spent but for two
bytes, and one that ends inside the third one then leaves the first two. -/
theorem clipBack_ends_at_longest_inside_chars :
    let s := "aé€😀".toList
    let kept := "aé€".toList
    clipBack 8 s = .ok kept ∧ searchBack (canCut (encode s)) 8 = .ok 6 ∧ ¬IsBoundary s 8 ∧
      clipBack 5 kept = clipBack 5 s ∧ clipBack 5 s = .ok "aé".toList := by
  intro s kept
  obtain ⟨kept', hclip, hkept, hsearch, -, -, -, -, hlast, htwice⟩ := clipBack_ends_at_longest 8 s
  obtain rfl : kept' = kept := hkept.trans (by decide)
  have hnot : ¬IsBoundary s 8 := fun h => absurd (hlast 8 h (Nat.le_refl 8)) (by decide)
  exact ⟨hclip, hsearch, hnot, htwice 5, rfl⟩

end Vigil.Text
