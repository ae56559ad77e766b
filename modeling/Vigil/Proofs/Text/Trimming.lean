import Vigil.Text.Blank
import Mathlib.Data.List.DropRight

/-!
# What trimming leaves

Trimming takes blanks off the ends of a text.  Proved here is what that means for texts put together
from parts: blanks behind a text are of no account (`trim_append_of_blank`), a character that is no
blank stops the trimming on its side (`trimStart_append_of_not_blank`, `trimEnd_concat_of_not_blank`),
and what is taken off are blanks and nothing else (`exists_eq_trimEnd_append`).  Of the beginnings of a
text that starts with no blank something is left (`trim_beginning`).  Splitting at the last separator is
described as splitting at the first one is (`splitLast?_eq_some_iff`, `getD_splitFirst?_eq_iff`).
-/

namespace Vigil.Text

/-! ## Leading blanks -/

theorem trimStart_cons_of_blank {c : Char} (s : List Char) (h : isBlank c = true) :
    trimStart (c :: s) = trimStart s :=
  List.dropWhile_cons_of_pos h

theorem trimStart_cons_of_not_blank {c : Char} (s : List Char) (h : ¬isBlank c = true) :
    trimStart (c :: s) = c :: s :=
  List.dropWhile_cons_of_neg h

/-- What is left begins with the first character that is no blank. -/
theorem head?_trimStart (s : List Char) : (trimStart s).head? = s.find? fun c => !isBlank c := by
  rw [List.find?_eq_head?_dropWhile_not]
  simp only [Bool.not_not]
  rfl

/-- A character that is no blank stops the trimming: what stands from it on is kept. -/
theorem trimStart_append_of_not_blank (s : List Char) {c : Char} (t : List Char)
    (h : ¬isBlank c = true) : trimStart (s ++ c :: t) = trimStart s ++ c :: t := by
  induction s with
  | nil => exact trimStart_cons_of_not_blank t h
  | cons a s ih =>
    by_cases ha : isBlank a = true
    · rw [List.cons_append, trimStart_cons_of_blank _ ha, trimStart_cons_of_blank _ ha, ih]
    · rw [List.cons_append, trimStart_cons_of_not_blank _ ha, trimStart_cons_of_not_blank _ ha,
        List.cons_append]

/-! ## Trailing blanks -/

theorem trimEnd_concat_of_not_blank (s : List Char) {c : Char} (h : ¬isBlank c = true) :
    trimEnd (s ++ [c]) = s ++ [c] :=
  List.rdropWhile_concat_neg _ s c h

/-- Blanks behind a text are trimmed off before the text is. -/
theorem trimEnd_append_of_blank (s : List Char) {t : List Char} (h : ∀ c ∈ t, isBlank c = true) :
    trimEnd (s ++ t) = trimEnd s := by
  induction t using List.reverseRecOn with
  | nil => rw [List.append_nil]
  | append_singleton t c ih =>
    have hc : isBlank c = true := h c (by simp)
    have hlast : trimEnd (s ++ t ++ [c]) = trimEnd (s ++ t) := List.rdropWhile_concat_pos _ _ c hc
    rw [← List.append_assoc, hlast, ih fun a ha => h a (by simp [ha])]

/-- What is trimmed off behind a text are blanks. -/
theorem exists_eq_trimEnd_append (s : List Char) :
    ∃ blanks, s = trimEnd s ++ blanks ∧ ∀ c ∈ blanks, isBlank c = true :=
  ⟨s.rtakeWhile isBlank, List.rdropWhile_append_rtakeWhile.symm, fun _ hc =>
    List.mem_rtakeWhile_imp hc⟩

/-! ## Both ends -/

/-- Nothing is left of a text exactly when all of it is blank. -/
theorem trim_eq_nil_iff {s : List Char} : trim s = [] ↔ ∀ c ∈ s, isBlank c = true := by
  constructor
  · intro h
    have hstart : ∀ c ∈ trimStart s, isBlank c = true :=
      List.rdropWhile_eq_nil_iff.mp h
    refine trimStart_eq_nil_iff.mp ?_
    cases hs : trimStart s with
    | nil => rfl
    | cons c t =>
      -- the first character that trimming keeps is no blank
      have hne : s.dropWhile isBlank ≠ [] := by
        rw [show s.dropWhile isBlank = c :: t from hs]
        exact List.cons_ne_nil c t
      have hhead := List.head_dropWhile_not isBlank hne
      have hc : isBlank c = true := hstart c (by rw [hs]; exact List.mem_cons_self)
      simp only [show s.dropWhile isBlank = c :: t from hs, List.head_cons, hc] at hhead
      exact absurd hhead (by decide)
  · intro h
    rw [trim, trimStart_eq_nil_iff.mpr h]
    rfl

theorem trim_cons_of_blank {c : Char} (s : List Char) (h : isBlank c = true) :
    trim (c :: s) = trim s := by
  rw [trim, trimStart_cons_of_blank s h, trim]

/-- Blanks behind a text are of no account. -/
theorem trim_append_of_blank (s : List Char) {t : List Char} (h : ∀ c ∈ t, isBlank c = true) :
    trim (s ++ t) = trim s := by
  induction s with
  | nil =>
    rw [List.nil_append, trim_eq_nil_iff.mpr h]
    rfl
  | cons c s ih =>
    by_cases hc : isBlank c = true
    · rw [List.cons_append, trim_cons_of_blank _ hc, trim_cons_of_blank _ hc, ih]
    · rw [trim, trim, List.cons_append, trimStart_cons_of_not_blank _ hc,
        trimStart_cons_of_not_blank _ hc, ← List.cons_append, trimEnd_append_of_blank _ h]

/-- A text without blanks is kept whole. -/
theorem trim_eq_self {s : List Char} (h : ∀ c ∈ s, ¬isBlank c = true) : trim s = s := by
  have hstart : trimStart s = s := by
    cases s with
    | nil => rfl
    | cons c s => exact trimStart_cons_of_not_blank s (h c List.mem_cons_self)
  rw [trim, hstart]
  obtain rfl | ⟨s, c, rfl⟩ := List.eq_nil_or_concat' s
  · rfl
  · exact trimEnd_concat_of_not_blank s (h c (by simp))

theorem not_isBlank_of_isDigit {c : Char} (h : c.isDigit = true) : ¬isBlank c = true := by
  have hrange : 48 ≤ c.toNat ∧ c.toNat ≤ 57 := by
    rw [Char.isDigit, Bool.and_eq_true, decide_eq_true_eq, decide_eq_true_eq] at h
    exact h
  simp only [isBlank, Bool.or_eq_true, Bool.and_eq_true, decide_eq_true_eq, beq_iff_eq]
  omega

/-- A carriage return behind a text is a blank behind it. -/
theorem isBlank_of_mem_cr : ∀ c ∈ ['\r'], isBlank c = true :=
  List.forall_mem_singleton.mpr (by decide)

/-! ## Texts without blanks at their ends -/

theorem trim_prefix_trimStart (s : List Char) : trim s <+: trimStart s := by
  obtain ⟨blanks, hblanks, -⟩ := exists_eq_trimEnd_append (trimStart s)
  exact ⟨blanks, hblanks.symm⟩

theorem trimStart_suffix (s : List Char) : trimStart s <:+ s := List.dropWhile_suffix _

section Trimmed

variable {s p : List Char}

theorem trimStart_eq_self (h : trim s = s) : trimStart s = s := by
  have hle := (trim_prefix_trimStart s).length_le
  rw [h] at hle
  exact (trimStart_suffix s).eq_of_length_le hle

theorem not_isBlank_head {c : Char} (h : trimStart (c :: s) = c :: s) : ¬isBlank c = true := by
  intro hc
  have hle := (trimStart_suffix s).length_le
  rw [← trimStart_cons_of_blank s hc, h, List.length_cons] at hle
  omega

theorem getLast?_ne_cr (h : trim s = s) : s.getLast? ≠ some '\r' := by
  intro hlast
  obtain ⟨l, rfl⟩ := List.getLast?_eq_some_iff.mp hlast
  have hle := Nat.le_trans (trim_prefix_trimStart l).length_le (trimStart_suffix l).length_le
  rw [← trim_append_of_blank l isBlank_of_mem_cr, h, List.length_append, List.length_singleton] at hle
  omega

/-- Of a beginning of a text without blanks in front only the end is trimmed off. -/
theorem trim_beginning (h : trimStart s = s) (hp : p <+: s) (hne : p ≠ []) :
    trim p <+: p ∧ trim p ≠ [] := by
  obtain ⟨c, p, rfl⟩ := List.exists_cons_of_ne_nil hne
  obtain ⟨rest, rfl⟩ := hp
  have hc : ¬isBlank c = true := not_isBlank_head h
  refine ⟨?_, fun hnil => hc (trim_eq_nil_iff.mp hnil c List.mem_cons_self)⟩
  have hstart := trim_prefix_trimStart (c :: p)
  rwa [trimStart_cons_of_not_blank _ hc] at hstart

end Trimmed

/-! ## Splitting at a separator -/

theorem splitLast?_eq_some_iff {c : Char} {s l r : List Char} :
    splitLast? c s = some (l, r) ↔ s = l ++ c :: r ∧ c ∉ r := by
  simp only [splitLast?, Option.map_eq_some_iff, Prod.exists, Prod.mk.injEq,
    splitFirst?_eq_some_iff]
  constructor
  · intro h
    obtain ⟨a, b, ⟨hs, hc⟩, rfl, rfl⟩ := h
    refine ⟨?_, by simpa using hc⟩
    have := congrArg List.reverse hs
    simpa using this
  · intro h
    obtain ⟨rfl, hc⟩ := h
    exact ⟨r.reverse, l.reverse, ⟨by simp, by simpa using hc⟩, by simp, by simp⟩

theorem splitFirst?_eq_none_iff {c : Char} {s : List Char} : splitFirst? c s = none ↔ c ∉ s := by
  induction s with
  | nil => simp [splitFirst?]
  | cons d s ih =>
    by_cases h : d = c
    · simp [splitFirst?, h]
    · have h' : ¬c = d := fun e => h e.symm
      simp [splitFirst?, h, h', ih]

theorem splitLast?_eq_none_iff {c : Char} {s : List Char} : splitLast? c s = none ↔ c ∉ s := by
  rw [splitLast?, Option.map_eq_none_iff, splitFirst?_eq_none_iff, List.mem_reverse]

/-- A character that a text has stands in it for a last time. -/
theorem exists_eq_append_last {c : Char} {s : List Char} (h : c ∈ s) :
    ∃ front behind, s = front ++ c :: behind ∧ c ∉ behind := by
  cases hs : splitLast? c s with
  | none => exact absurd h (splitLast?_eq_none_iff.mp hs)
  | some p => exact ⟨p.1, p.2, splitLast?_eq_some_iff.mp hs⟩

/-- The parts before and after the first separator; without a separator the second part is empty. -/
theorem getD_splitFirst?_eq_iff {c : Char} {s l r : List Char} :
    (splitFirst? c s).getD (s, []) = (l, r) ↔ c ∉ l ∧ (s = l ∧ r = [] ∨ s = l ++ c :: r) := by
  cases hs : splitFirst? c s with
  | none =>
    have hc : c ∉ s := splitFirst?_eq_none_iff.mp hs
    rw [Option.getD_none, Prod.mk.injEq]
    constructor
    · intro h
      obtain ⟨rfl, rfl⟩ := h
      exact ⟨hc, .inl ⟨rfl, rfl⟩⟩
    · intro h
      obtain ⟨-, ⟨rfl, rfl⟩ | rfl⟩ := h
      · exact ⟨rfl, rfl⟩
      · exact absurd (List.mem_append_right l List.mem_cons_self) hc
  | some p =>
    obtain ⟨a, b⟩ := p
    obtain ⟨heq, hc⟩ := splitFirst?_eq_some_iff.mp hs
    rw [Option.getD_some, Prod.mk.injEq]
    constructor
    · intro h
      obtain ⟨rfl, rfl⟩ := h
      exact ⟨hc, .inr heq⟩
    · intro h
      obtain ⟨hl, ⟨rfl, rfl⟩ | hparts⟩ := h
      · exact absurd (heq ▸ List.mem_append_right a List.mem_cons_self) hl
      · have hsplit := splitFirst?_eq_some_iff.mpr ⟨hparts, hl⟩
        rw [hs, Option.some.injEq, Prod.mk.injEq] at hsplit
        exact hsplit

theorem afterPrefix?_eq_none_iff {lead s : List Char} :
    afterPrefix? lead s = none ↔ ¬lead <+: s := by
  rw [Option.eq_none_iff_forall_ne_some]
  constructor
  · intro h hlead
    obtain ⟨t, rfl⟩ := hlead
    exact h t (afterPrefix?_eq_some_iff.mpr rfl)
  · intro h t ht
    exact h ⟨t, (afterPrefix?_eq_some_iff.mp ht).symm⟩

theorem beforeSuffix?_eq_none_iff {tail s : List Char} :
    beforeSuffix? tail s = none ↔ ¬tail <:+ s := by
  rw [Option.eq_none_iff_forall_ne_some]
  constructor
  · intro h hlead
    obtain ⟨t, rfl⟩ := hlead
    exact h t (beforeSuffix?_eq_some_iff.mpr rfl)
  · intro h t ht
    exact h ⟨t, (beforeSuffix?_eq_some_iff.mp ht).symm⟩

/-- The separator that stands once in a text is the one at which a beginning of the text is split. -/
theorem eq_of_beginning_split {c : Char} {a b x y : List Char} (hb : c ∉ b) (hy : c ∉ y)
    (h : a ++ c :: x <+: b ++ c :: y) : a = b := by
  obtain ⟨rest, h⟩ := h
  rw [List.append_assoc, List.cons_append] at h
  rcases List.append_eq_append_iff.mp h with ⟨d, rfl, hd⟩ | ⟨d, rfl, hd⟩
  · cases d with
    | nil => rw [List.append_nil]
    | cons e d =>
      obtain ⟨rfl, -⟩ := List.cons.inj hd
      exact absurd (List.mem_append_right a List.mem_cons_self) hb
  · cases d with
    | nil => rw [List.append_nil]
    | cons e d =>
      obtain ⟨-, rfl⟩ := List.cons.inj hd
      exact absurd (List.mem_append_right d List.mem_cons_self) hy

end Vigil.Text
