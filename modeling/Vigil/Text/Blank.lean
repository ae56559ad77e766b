/-!
# Blank characters and trimming

The blanks are the twenty-five code points of the White_Space property.  Trimming takes them off
either end of a text and leaves those inside.

* `isBlank`, `trimStart`, `trimEnd`, `trim`;
* `trimStart_eq_nil_iff` — nothing is left exactly when every character is blank.
-/

namespace Vigil.Text

/-- The White_Space property. -/
def isBlank (c : Char) : Bool :=
  let n := c.toNat
  (0x9 ≤ n && n ≤ 0xd) || n == 0x20 || n == 0x85 || n == 0xa0 || n == 0x1680
    || (0x2000 ≤ n && n ≤ 0x200a) || n == 0x2028 || n == 0x2029 || n == 0x202f || n == 0x205f
    || n == 0x3000

/-- The text without its leading blanks. -/
def trimStart (s : List Char) : List Char := s.dropWhile isBlank

/-- The text without its trailing blanks. -/
def trimEnd (s : List Char) : List Char := (s.reverse.dropWhile isBlank).reverse

/-- The text without its leading and trailing blanks. -/
def trim (s : List Char) : List Char := trimEnd (trimStart s)

/-- `s` without `lead` in front of it, if it starts with `lead`. -/
def afterPrefix? : List Char → List Char → Option (List Char)
  | [], s => some s
  | _ :: _, [] => none
  | a :: lead, c :: s => if a = c then afterPrefix? lead s else none

/-- `s` without `tail` behind it, if it ends in `tail`. -/
def beforeSuffix? (tail s : List Char) : Option (List Char) :=
  (afterPrefix? tail.reverse s.reverse).map List.reverse

/-- The parts of `s` before and after the first `c`. -/
def splitFirst? (c : Char) : List Char → Option (List Char × List Char)
  | [] => none
  | d :: s => if d = c then some ([], s) else (splitFirst? c s).map fun p => (d :: p.1, p.2)

/-- The parts of `s` before and after the last `c`. -/
def splitLast? (c : Char) (s : List Char) : Option (List Char × List Char) :=
  (splitFirst? c s.reverse).map fun p => (p.2.reverse, p.1.reverse)

theorem trimStart_eq_nil_iff {s : List Char} : trimStart s = [] ↔ ∀ c ∈ s, isBlank c = true := by
  induction s with
  | nil => simp [trimStart]
  | cons c s ih =>
    by_cases h : isBlank c = true
    · have step : trimStart (c :: s) = trimStart s := by simp [trimStart, h]
      rw [step, ih]
      simp [h]
    · simp [trimStart, h]

theorem afterPrefix?_eq_some_iff {lead s t : List Char} :
    afterPrefix? lead s = some t ↔ s = lead ++ t := by
  induction lead generalizing s with
  | nil => simp [afterPrefix?, eq_comm]
  | cons a lead ih =>
    cases s with
    | nil => simp [afterPrefix?]
    | cons c s =>
      by_cases h : a = c
      · simp [afterPrefix?, h, ih]
      · have : ¬ c = a := fun e => h e.symm
        simp [afterPrefix?, h, this]

theorem beforeSuffix?_eq_some_iff {tail s t : List Char} :
    beforeSuffix? tail s = some t ↔ s = t ++ tail := by
  simp only [beforeSuffix?, Option.map_eq_some_iff, afterPrefix?_eq_some_iff]
  constructor
  · rintro ⟨r, h, rfl⟩
    have := congrArg List.reverse h
    simpa using this
  · rintro rfl
    exact ⟨t.reverse, by simp, by simp⟩

theorem splitFirst?_eq_some_iff {c : Char} {s l r : List Char} :
    splitFirst? c s = some (l, r) ↔ s = l ++ c :: r ∧ c ∉ l := by
  induction s generalizing l with
  | nil => simp [splitFirst?]
  | cons d s ih =>
    by_cases h : d = c
    · subst h
      cases l with
      | nil => simp [splitFirst?, eq_comm]
      | cons a l =>
        simp only [splitFirst?, if_true, Option.some.injEq, Prod.mk.injEq]
        constructor
        · rintro ⟨h, -⟩
          cases h
        · rintro ⟨h, hn⟩
          simp_all
    · cases l with
      | nil => simp [splitFirst?, h]
      | cons a l =>
        simp only [splitFirst?, h, if_false, Option.map_eq_some_iff, Prod.exists, Prod.mk.injEq,
          List.cons.injEq, List.cons_append, List.mem_cons, not_or]
        constructor
        · rintro ⟨l', r', hs, ⟨rfl, rfl⟩, rfl⟩
          exact ⟨⟨rfl, (ih.1 hs).1⟩, fun e => h e.symm, (ih.1 hs).2⟩
        · rintro ⟨⟨rfl, hs⟩, -, hn⟩
          exact ⟨l, r, ih.2 ⟨hs, hn⟩, ⟨rfl, rfl⟩, rfl⟩

end Vigil.Text
