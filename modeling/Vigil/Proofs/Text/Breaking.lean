import Vigil.Text.Lines

/-!
# How a text breaks into lines

A text breaks at its line feeds, and a carriage return in front of one goes with it.  Proved:

* `lines_append_newline` — a text without a line feed, with a line feed behind it, is one line in front
  of the others: the text itself, or the text without a carriage return at its end;
* `lines_append` — a text in which every line is ended, and another text behind it, hold the lines of the
  one and then those of the other;
* `lines_firstLines` — the beginning of a text up to a line break holds the lines in front of it;
* `prefix_cons_cases` — where a beginning of two texts with a separator between ends;
* `lines_cut` — the lines of a beginning of a text are lines of the text, but for the last one,
  which may be cut (`CutLine`, `Cut`).  A cut inside a line break leaves the carriage return on the
  line, so a cut line may also be longer by that.
-/

namespace Vigil.Text

/-- In front of a character that starts no line break the first line grows. -/
theorem lines_cons {c : Char} {s : List Char} (hn : c ≠ '\n')
    (hr : ∀ t, c = '\r' → s ≠ '\n' :: t) :
    lines (c :: s)
      = match lines s with
        | [] => [[c]]
        | l :: ls => (c :: l) :: ls :=
  lines.eq_4 c s hn hr

theorem lines_append_newline {l : List Char} (h : '\n' ∉ l) (s : List Char) :
    ∃ l', (l' = l ∨ l = l' ++ ['\r']) ∧ lines (l ++ '\n' :: s) = l' :: lines s := by
  induction l with
  | nil => exact ⟨[], .inl rfl, lines_newline s⟩
  | cons c l ih =>
    have hc : c ≠ '\n' := fun e => h (e ▸ List.mem_cons_self)
    have hl : '\n' ∉ l := fun m => h (List.mem_cons_of_mem c m)
    by_cases hcr : c = '\r' ∧ l = []
    · obtain ⟨rfl, rfl⟩ := hcr
      exact ⟨[], .inr rfl, lines_crlf s⟩
    · obtain ⟨l', hl', hlines⟩ := ih hl
      refine ⟨c :: l', ?_, ?_⟩
      · rcases hl' with rfl | rfl
        · exact .inl rfl
        · exact .inr rfl
      · have hr : ∀ t, c = '\r' → l ++ '\n' :: s ≠ '\n' :: t := by
          intro t e heq
          cases l with
          | nil => exact hcr ⟨e, rfl⟩
          | cons a l =>
            have ha : a = '\n' := (List.cons.inj heq).1
            exact hl (ha ▸ List.mem_cons_self)
        rw [List.cons_append, lines_cons hc hr, hlines]

/-- A text without a line feed and without a carriage return at its end is a line as it is. -/
theorem lines_append_newline_of_not_cr {l : List Char} (h : '\n' ∉ l)
    (hr : l.getLast? ≠ some '\r') (s : List Char) : lines (l ++ '\n' :: s) = l :: lines s := by
  obtain ⟨l', rfl | rfl, hlines⟩ := lines_append_newline h s
  · exact hlines
  · exact absurd List.getLast?_concat hr

theorem lines_of_newline_not_mem {l : List Char} (h : '\n' ∉ l) (hne : l ≠ []) : lines l = [l] := by
  induction l with
  | nil => exact absurd rfl hne
  | cons c l ih =>
    have hc : c ≠ '\n' := fun e => h (e ▸ List.mem_cons_self)
    have hl : '\n' ∉ l := fun m => h (List.mem_cons_of_mem c m)
    have hr : ∀ t, c = '\r' → l ≠ '\n' :: t := fun t _ e => hl (e ▸ List.mem_cons_self)
    rw [lines_cons hc hr]
    cases l with
    | nil => rfl
    | cons a l => rw [ih hl (List.cons_ne_nil a l)]

/-- Behind a text in which every line is ended, the lines of any other text follow. -/
theorem lines_append {a : List Char} (h : a = [] ∨ a.getLast? = some '\n') (s : List Char) :
    lines (a ++ s) = lines a ++ lines s := by
  have hrest : ∀ {c : Char} {a : List Char}, c :: a = [] ∨ (c :: a).getLast? = some '\n' →
      a = [] ∨ a.getLast? = some '\n' := by
    intro c a h
    cases a with
    | nil => exact .inl rfl
    | cons b a => exact .inr (h.resolve_left (List.cons_ne_nil c _))
  induction a using lines.induct with
  | case1 => rfl
  | case2 a ih => rw [List.cons_append, lines_newline, lines_newline, ih (hrest h), List.cons_append]
  | case3 a ih =>
    rw [List.cons_append, List.cons_append, lines_crlf, lines_crlf, ih (hrest (hrest h)),
      List.cons_append]
  | case4 c a hn hr ha _ =>
    -- a last line that no line break ends
    obtain rfl := lines_eq_nil_iff.mp ha
    exact absurd (Option.some.inj (h.resolve_left (List.cons_ne_nil c []))) hn
  | case5 c a hn hr l ls ha ih =>
    have hr' : ∀ t, c = '\r' → a ++ s ≠ '\n' :: t := by
      intro t hc heq
      cases a with
      | nil => exact absurd ha (List.cons_ne_nil l ls).symm
      | cons b a => exact hr a hc (congrArg (· :: a) (List.cons.inj heq).1)
    rw [List.cons_append, lines_cons hn hr', lines_cons hn hr, ih (hrest h), ha]
    rfl

/-! ## The first lines of a text -/

/-- The beginning of a text that holds its first `n` lines, with their line breaks. -/
def firstLines : Nat → List Char → List Char
  | 0, _ => []
  | _ + 1, [] => []
  | n + 1, c :: s => c :: firstLines (if c = '\n' then n else n + 1) s

theorem firstLines_prefix (n : Nat) (s : List Char) : firstLines n s <+: s := by
  induction s generalizing n with
  | nil => cases n <;> exact List.prefix_rfl
  | cons c s ih =>
    cases n with
    | zero => exact List.nil_prefix
    | succ n => exact List.cons_prefix_cons.mpr ⟨rfl, ih _⟩

theorem lines_firstLines (n : Nat) (s : List Char) : lines (firstLines n s) = (lines s).take n := by
  induction s using lines.induct generalizing n with
  | case1 => cases n <;> simp [firstLines]
  | case2 s ih =>
    cases n with
    | zero => simp [firstLines]
    | succ n => rw [firstLines, if_pos rfl, lines_newline, lines_newline, ih, List.take_succ_cons]
  | case3 s ih =>
    cases n with
    | zero => simp [firstLines]
    | succ n =>
      rw [firstLines, if_neg (by decide), firstLines, if_pos rfl, lines_crlf, lines_crlf, ih,
        List.take_succ_cons]
  | case4 c s hn hr hs ih | case5 c s hn hr l ls hs ih =>
    cases n with
    | zero => simp [firstLines]
    | succ n =>
      have hr' : ∀ t, c = '\r' → firstLines (n + 1) s ≠ '\n' :: t := by
        intro t hc ht
        obtain ⟨u, hu⟩ := firstLines_prefix (n + 1) s
        rw [ht] at hu
        exact hr (t ++ u) hc hu.symm
      rw [firstLines, if_neg hn, lines_cons hn hr', lines_cons hn hr, ih (n + 1), hs]
      simp

/-! ## Cutting a text -/

/-- A beginning of two texts with a separator between ends in front of the separator or behind it. -/
theorem prefix_cons_cases {c : Char} {p l s : List Char} (h : p <+: l ++ c :: s) :
    p <+: l ∨ ∃ q, p = l ++ c :: q ∧ q <+: s := by
  rcases List.prefix_or_prefix_of_prefix h (List.prefix_append l (c :: s)) with hp | ⟨q, rfl⟩
  · exact .inl hp
  · rcases List.prefix_cons_iff.mp ((List.prefix_append_right_inj l).mp h) with rfl | ⟨r, rfl, hr⟩
    · rw [List.append_nil]
      exact .inl List.prefix_rfl
    · exact .inr ⟨r, rfl, hr⟩

/-- What is left of a line when the text is cut in it: a beginning of it, or all of it with the
carriage return of the line break behind it. -/
def CutLine (l' l : List Char) : Prop := l' <+: l ∨ l' = l ++ ['\r']

theorem CutLine.cons {l' l : List Char} (c : Char) (h : CutLine l' l) :
    CutLine (c :: l') (c :: l) := by
  rcases h with h | rfl
  · exact .inl (List.cons_prefix_cons.mpr ⟨rfl, h⟩)
  · exact .inr rfl

/-- What a cut line starts with, the line starts with, if it is no carriage return. -/
theorem CutLine.lead {lead l' l : List Char} (h : CutLine l' l) (hlead : lead <+: l')
    (hr : '\r' ∉ lead) : lead <+: l := by
  rcases h with h | rfl
  · exact hlead.trans h
  · rcases List.prefix_concat_iff.mp hlead with rfl | hlead
    · exact absurd (List.mem_append_right l List.mem_cons_self) hr
    · exact hlead

/-- The lines that are left when a text is cut: the first ones, and then perhaps a cut one. -/
inductive Cut : List (List Char) → List (List Char) → Prop
  | nil {ls : List (List Char)} : Cut [] ls
  | last {l' l : List Char} {ls : List (List Char)} : CutLine l' l → Cut [l'] (l :: ls)
  | cons {l : List Char} {ls' ls : List (List Char)} : Cut ls' ls → Cut (l :: ls') (l :: ls)

/-- A character in front that starts no line break makes no other cut. -/
theorem cut_lines_cons {c : Char} {p s : List Char} (hn : c ≠ '\n')
    (hp : ∀ t, c = '\r' → p ≠ '\n' :: t) (hs : ∀ t, c = '\r' → s ≠ '\n' :: t)
    (h : Cut (lines p) (lines s)) : Cut (lines (c :: p)) (lines (c :: s)) := by
  rw [lines_cons hn hp, lines_cons hn hs]
  generalize lines p = ps at h
  generalize lines s = ls at h
  cases h with
  | nil =>
    cases ls with
    | nil => exact .last (.inl List.prefix_rfl)
    | cons l ls => exact .last (.inl (List.cons_prefix_cons.mpr ⟨rfl, List.nil_prefix⟩))
  | last hcut => exact .last (hcut.cons c)
  | cons hcut => exact .cons hcut

/-- **The lines of a beginning of a text are the first lines of the text, the last one cut.** -/
theorem lines_cut {p s : List Char} (h : p <+: s) : Cut (lines p) (lines s) := by
  induction s using lines.induct generalizing p with
  | case1 =>
    rw [List.prefix_nil.mp h, lines_nil]
    exact .nil
  | case2 s ih =>
    cases p with
    | nil => exact lines_nil ▸ .nil
    | cons a p =>
      obtain ⟨rfl, hp⟩ := List.cons_prefix_cons.mp h
      rw [lines_newline, lines_newline]
      exact .cons (ih hp)
  | case3 s ih =>
    cases p with
    | nil => exact lines_nil ▸ .nil
    | cons a p =>
      obtain ⟨rfl, hp⟩ := List.cons_prefix_cons.mp h
      cases p with
      | nil =>
        rw [lines_crlf]
        exact .last (.inr rfl)
      | cons b p =>
        obtain ⟨rfl, hp'⟩ := List.cons_prefix_cons.mp hp
        rw [lines_crlf, lines_crlf]
        exact .cons (ih hp')
  | case4 c s hn hr _ ih | case5 c s hn hr _ _ _ ih =>
    cases p with
    | nil => exact lines_nil ▸ .nil
    | cons a p =>
      obtain ⟨rfl, hp⟩ := List.cons_prefix_cons.mp h
      have hr' : ∀ t, a = '\r' → p ≠ '\n' :: t := by
        intro t ha hp'
        subst hp'
        obtain ⟨u, hu⟩ := hp
        exact hr (t ++ u) ha hu.symm
      exact cut_lines_cons hn hr' hr (ih hp)

end Vigil.Text
