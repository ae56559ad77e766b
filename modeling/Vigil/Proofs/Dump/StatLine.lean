import Vigil.Dump.Stat
import Vigil.Proofs.Decimal.Spelling
import Vigil.Proofs.Text.Trimming

/-!
# What a stat line tells

The name in a stat line is whatever stands between the first opening parenthesis and the last closing one, so
a line is read back whatever the name is, as long as nothing behind it closes a parenthesis.  Proved:

* `Stat.Parts` — a line in its three parts; `read?_of_parts` — what is read of it;
* `read?_eq_some_iff` — which lines tell of a thread, and what;
* `isBoundary_place`, `isBoundary_lastPlace` — where a character stands, the line can be cut in front of it
  and behind it;
* `readAtPlaces_eq` — so reading by places never cuts where it cannot, and reads the same;
* `Stat.read?_whatever_the_name` — all of this together.
-/

namespace Vigil

open Text Decimal

namespace Text

/-! ## Places -/

variable {c : Char} {s : List Char} {n : Nat}

theorem isBoundary_place (h : place? c s = some n) : IsBoundary s n ∧ IsBoundary s (n + c.utf8Size) := by
  have hmem : c ∈ s := by
    by_contra hnot
    rw [place?_of_not_mem hnot] at h
    cases h
  obtain ⟨front, behind, rfl, hfront⟩ := List.eq_append_cons_of_mem hmem
  rw [place?_append hfront] at h
  obtain rfl := Option.some.inj h
  exact isBoundary_append front behind c

theorem isBoundary_lastPlace (h : lastPlace? c s = some n) :
    IsBoundary s n ∧ IsBoundary s (n + c.utf8Size) := by
  have hmem : c ∈ s := by
    by_contra hnot
    rw [lastPlace?_of_not_mem hnot] at h
    cases h
  obtain ⟨front, behind, rfl, hbehind⟩ := exists_eq_append_last hmem
  rw [lastPlace?_append front hbehind] at h
  obtain rfl := Option.some.inj h
  exact isBoundary_append front behind c

end Text

namespace Stat

/-! ## The parts of a line -/

/-- The line in its parts: what stands in front of the first opening parenthesis, the name, and what stands
behind the last closing one. -/
structure Parts (s front name rest : List Char) : Prop where
  eq : s = front ++ '(' :: (name ++ ')' :: rest)
  opening : '(' ∉ front
  closing : ')' ∉ rest

variable {s front name rest : List Char}

/-- What a line with these parts tells. -/
def told? (front name rest : List Char) : Option Stat :=
  (readUnsigned? UInt64.size (trim front)).bind fun id =>
    (trimStart rest).head?.bind fun code => some { id := UInt64.ofNat id, code, name := String.ofList name }

theorem read?_of_parts (h : Parts s front name rest) : read? s = told? front name rest := by
  have hfirst : splitFirst? '(' s = some (front, name ++ ')' :: rest) :=
    splitFirst?_eq_some_iff.mpr ⟨h.eq, h.opening⟩
  have hlast : splitLast? ')' (name ++ ')' :: rest) = some (name, rest) :=
    splitLast?_eq_some_iff.mpr ⟨rfl, h.closing⟩
  simp only [read?, told?, hfirst, hlast]
  cases readUnsigned? UInt64.size (trim front) with
  | none => rfl
  | some id =>
    cases hrest : trimStart rest with
    | nil => simp only [hrest]; rfl
    | cons code more => simp only [hrest]; rfl

/-- A line of which anything is read has parts. -/
theorem exists_parts {r : Stat} (h : read? s = some r) : ∃ front name rest, Parts s front name rest := by
  rw [read?] at h
  cases hfirst : splitFirst? '(' s with
  | none =>
    rw [hfirst] at h
    cases h
  | some p =>
    obtain ⟨front, behind⟩ := p
    obtain ⟨heq, hopening⟩ := splitFirst?_eq_some_iff.mp hfirst
    cases hlast : splitLast? ')' behind with
    | none =>
      simp only [hfirst, hlast] at h
      cases h
    | some q =>
      obtain ⟨hbehind, hclosing⟩ := splitLast?_eq_some_iff.mp hlast
      exact ⟨front, q.1, q.2, hbehind ▸ heq, hopening, hclosing⟩

/-- **Which lines tell of a thread, and what.** -/
theorem read?_eq_some_iff {r : Stat} :
    read? s = some r ↔ ∃ front name rest, Parts s front name rest ∧ Spells (trim front) r.id.toNat ∧
      rest.find? (fun c => !isBlank c) = some r.code ∧ r.name = String.ofList name := by
  constructor
  · intro h
    obtain ⟨front, name, rest, hparts⟩ := exists_parts h
    rw [read?_of_parts hparts, told?, Option.bind_eq_some_iff] at h
    obtain ⟨id, hid, h⟩ := h
    obtain ⟨code, hfound, hr⟩ := Option.bind_eq_some_iff.mp h
    obtain rfl := Option.some.inj hr
    obtain ⟨hspells, hlt⟩ := readUnsigned?_eq_some_iff.mp hid
    refine ⟨front, name, rest, hparts, ?_, head?_trimStart rest ▸ hfound, rfl⟩
    rwa [UInt64.toNat_ofNat_of_lt' hlt]
  · intro h
    obtain ⟨front, name, rest, hparts, hspells, hfound, hname⟩ := h
    have hid : readUnsigned? UInt64.size (trim front) = some r.id.toNat :=
      readUnsigned?_eq_some_iff.mpr ⟨hspells, r.id.toNat_lt⟩
    rw [read?_of_parts hparts, told?, hid, Option.bind_some, head?_trimStart, hfound, ← hname, UInt64.ofNat_toNat]
    rfl

/-! ## Reading by places -/

theorem readAtPlaces_of_parts (h : Parts s front name rest) :
    readAtPlaces s = .ok (told? front name rest) := by
  have hfirst : place? '(' s = some (byteSize front) := by
    rw [h.eq]
    exact place?_append h.opening _
  have hlast : lastPlace? ')' s = some (byteSize front + 1 + byteSize name) := by
    have hbehind := lastPlace?_append (front ++ '(' :: name) h.closing
    rw [byteSize_append, byteSize, ← Nat.add_assoc, List.append_assoc] at hbehind
    rw [h.eq]
    exact hbehind
  have hfront : takeTo (byteSize front) s = .ok front := by
    rw [h.eq]
    exact takeTo_append front _
  have hname : slice? (byteSize front + 1) (byteSize front + 1 + byteSize name) s = some name := by
    have hmiddle := slice?_append (front ++ ['(']) name (')' :: rest)
    rw [byteSize_append, List.append_assoc] at hmiddle
    rw [h.eq]
    exact hmiddle
  have hrest : slice? (byteSize front + 1 + byteSize name + 1) (byteSize s) s = some rest := by
    have hsplit : s = (front ++ '(' :: (name ++ [')'])) ++ (rest ++ []) := by simp [h.eq]
    have hsize : byteSize (front ++ '(' :: (name ++ [')'])) = byteSize front + 1 + byteSize name + 1 := by
      rw [byteSize_append, byteSize, byteSize_append, ← Nat.add_assoc, ← Nat.add_assoc]
      rfl
    have hwhole : byteSize s = byteSize front + 1 + byteSize name + 1 + byteSize rest := by
      rw [hsplit, byteSize_append, hsize, List.append_nil]
    rw [hwhole, hsplit, ← hsize]
    exact slice?_append _ rest []
  simp only [readAtPlaces, told?, hfirst, hlast, hfront, hname, hrest, Except.map]
  cases readUnsigned? UInt64.size (trim front) <;> rfl

/-- Without a closing parenthesis behind the first opening one there is no name to cut out. -/
theorem readAtPlaces_of_unclosed {behind : List Char} (hfront : '(' ∉ front) (hbehind : ')' ∉ behind) :
    readAtPlaces (front ++ '(' :: behind) = .ok none := by
  have hfirst : place? '(' (front ++ '(' :: behind) = some (byteSize front) := place?_append hfront _
  have htail : ')' ∉ '(' :: behind := List.not_mem_cons_of_ne_of_not_mem (by decide) hbehind
  by_cases hclosing : ')' ∈ front
  · obtain ⟨a, b, rfl, hb⟩ := exists_eq_append_last hclosing
    have hlast : lastPlace? ')' ((a ++ ')' :: b) ++ '(' :: behind) = some (byteSize a) := by
      rw [List.append_assoc]
      refine lastPlace?_append a fun hmem => ?_
      exact (List.mem_append.mp hmem).elim hb htail
    have hname : slice? (byteSize (a ++ ')' :: b) + 1) (byteSize a) ((a ++ ')' :: b) ++ '(' :: behind) = none := by
      refine slice?_of_lt ?_ _
      rw [byteSize_append]
      exact Nat.lt_succ_of_le (Nat.le_add_right _ _)
    simp only [readAtPlaces, hfirst, hlast, hname, takeTo_append, Except.map]
    cases readUnsigned? UInt64.size (trim (a ++ ')' :: b)) <;> rfl
  · have hlast : lastPlace? ')' (front ++ '(' :: behind) = none := by
      refine lastPlace?_of_not_mem fun hmem => ?_
      exact (List.mem_append.mp hmem).elim hclosing htail
    simp only [readAtPlaces, hfirst, hlast]

/-- **Reading by places never cuts where it cannot**, and it reads what is read from the parts. -/
theorem readAtPlaces_eq (s : List Char) : readAtPlaces s = .ok (read? s) := by
  by_cases hopening : '(' ∈ s
  · obtain ⟨front, behind, rfl, hfront⟩ := List.eq_append_cons_of_mem hopening
    have hfirst : splitFirst? '(' (front ++ '(' :: behind) = some (front, behind) :=
      splitFirst?_eq_some_iff.mpr ⟨rfl, hfront⟩
    by_cases hclosing : ')' ∈ behind
    · obtain ⟨name, rest, rfl, hrest⟩ := exists_eq_append_last hclosing
      have hparts : Parts (front ++ '(' :: (name ++ ')' :: rest)) front name rest := ⟨rfl, hfront, hrest⟩
      rw [readAtPlaces_of_parts hparts, read?_of_parts hparts]
    · rw [readAtPlaces_of_unclosed hfront hclosing]
      simp only [read?, hfirst, splitLast?_eq_none_iff.mpr hclosing]
  · rw [readAtPlaces, read?, place?_of_not_mem hopening, splitFirst?_eq_none_iff.mpr hopening]

/-! ## Lines -/

/-- A stat line with an id, a name, the code of a state and what stands behind it. -/
def line (id : UInt64) (name : String) (code : Char) (rest : List Char) : List Char :=
  digits id.toNat ++ " (".toList ++ name.toList ++ ") ".toList ++ code :: rest

/-- **A line is read back whatever the name is.** -/
theorem read?_line (id : UInt64) (name : String) {code : Char} {rest : List Char}
    (hblank : isBlank code = false) (hcode : code ≠ ')') (hrest : ')' ∉ rest) :
    read? (line id name code rest) = some { id, code, name } := by
  have hspace : isBlank ' ' = true := rfl
  refine read?_eq_some_iff.mpr
    ⟨digits id.toNat ++ [' '], name.toList, ' ' :: code :: rest, ⟨?_, ?_, ?_⟩, ?_, ?_, ?_⟩
  · simp [line]
  · refine fun hmem => (List.mem_append.mp hmem).elim (not_mem_digits _ (by decide)) (by decide)
  · exact List.not_mem_cons_of_ne_of_not_mem (by decide)
      (List.not_mem_cons_of_ne_of_not_mem (Ne.symm hcode) hrest)
  · have hid : ∀ c ∈ digits id.toNat, ¬isBlank c = true :=
      fun c hc => not_isBlank_of_isDigit (isDigit_of_mem_digits hc)
    rw [trim_append_of_blank _ (List.forall_mem_singleton.mpr hspace), trim_eq_self hid]
    exact spells_digits id.toNat
  · rw [List.find?_cons_of_neg (by decide), List.find?_cons_of_pos (by rw [hblank]; rfl)]
  · exact String.ofList_toList.symm

/-- **A stat line is read back whatever the thread is called.**  A line that tells of an id, a name and a state
is read as these, if the code of the state is no blank and no closing parenthesis, and none stands behind it.
Reading any line by places never cuts it where it cannot be cut, and gives what is read from its parts: the
places of the two parentheses, and those behind them, are boundaries.  And anything is read of a line exactly
if it has parts, its front spells a word between blanks, and something behind the last closing parenthesis is
no blank; then it is that word, the name, and the first such character. -/
theorem read?_whatever_the_name :
    (∀ (id : UInt64) (name : String) (code : Char) (rest : List Char), isBlank code = false → code ≠ ')' →
      ')' ∉ rest → read? (line id name code rest) = some { id, code, name }) ∧
    (∀ s, readAtPlaces s = .ok (read? s) ∧
      ∀ n, place? '(' s = some n ∨ lastPlace? ')' s = some n → IsBoundary s n ∧ IsBoundary s (n + 1)) ∧
    ∀ s r, read? s = some r ↔ ∃ front name rest, Parts s front name rest ∧
      Spells (trim front) r.id.toNat ∧ rest.find? (fun c => !isBlank c) = some r.code ∧
      r.name = String.ofList name := by
  refine ⟨fun id name code rest hblank hcode hrest => read?_line id name hblank hcode hrest,
    fun s => ⟨readAtPlaces_eq s, fun n hn => ?_⟩, fun s r => read?_eq_some_iff⟩
  exact hn.elim isBoundary_place isBoundary_lastPlace

/-- The name closes a parenthesis, opens another and breaks the line. -/
theorem read?_whatever_the_name_of_parentheses :
    let name := ") (7\n)"
    read? (line 42 name 'R' " 1 2".toList) = some { id := 42, code := 'R', name } ∧
      readAtPlaces (line 42 name 'R' " 1 2".toList) = .ok (some { id := 42, code := 'R', name }) := by
  intro name
  obtain ⟨hread, hplaces, -⟩ := read?_whatever_the_name
  have h : read? (line 42 name 'R' " 1 2".toList) = some { id := 42, code := 'R', name } :=
    hread 42 name 'R' " 1 2".toList (by decide) (by decide) (by decide)
  exact ⟨h, h ▸ (hplaces _).1⟩

end Stat

end Vigil
