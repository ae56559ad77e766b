import Vigil.Dump.Line
import Vigil.Proofs.Text.Trimming
import Vigil.Proofs.Decimal.Spelling

/-!
# The lines of a dump, said without the reader

What the four kinds of lines are, and what a header and a location have to look like and tell, is laid
down here as predicates on the text of the line.  Proved:

* `Line.ofText` tells the kinds apart as the predicates do (`ofText_of_blank`, …), and every line is of
  a kind (`line_cases`);
* `readHeader_eq_ok_iff`, `exists_readHeader_iff` — a header is read exactly when it is valid, and what
  is read is what it tells;
* `readLocation_eq_ok_iff`, `exists_readLocation_iff` — the same for a location.
-/

namespace Vigil.Dump

open Text Decimal

/-! ## Kinds of lines -/

/-- A line of which nothing is left when it is trimmed. -/
def BlankLine (l : List Char) : Prop := trim l = []

instance (l : List Char) : Decidable (BlankLine l) := inferInstanceAs (Decidable (trim l = []))

/-- A line that starts like a header. -/
def HeaderLine (l : List Char) : Prop := headerLead <+: l

instance (l : List Char) : Decidable (HeaderLine l) := inferInstanceAs (Decidable (headerLead <+: l))

/-- A line that starts with a tab and is not blank. -/
def LocationLine (l : List Char) : Prop := ¬BlankLine l ∧ ['\t'] <+: l

instance (l : List Char) : Decidable (LocationLine l) := inferInstanceAs (Decidable (_ ∧ _))

/-- Any other line. -/
def PlainLine (l : List Char) : Prop := ¬BlankLine l ∧ ¬HeaderLine l ∧ ¬LocationLine l

instance (l : List Char) : Decidable (PlainLine l) := inferInstanceAs (Decidable (_ ∧ _))

theorem HeaderLine.not_blank {l : List Char} (h : HeaderLine l) : ¬BlankLine l := by
  obtain ⟨r, rfl⟩ := h
  intro hblank
  have ht : isBlank 't' = true := trim_eq_nil_iff.mp hblank 't' List.mem_cons_self
  exact absurd ht (by decide)

theorem HeaderLine.not_location {l : List Char} (h : HeaderLine l) : ¬LocationLine l := by
  obtain ⟨r, rfl⟩ := h
  intro h
  obtain ⟨-, s, hs⟩ := h
  exact absurd (List.cons.inj hs).1 (by decide)

theorem LocationLine.exists_eq {l : List Char} (h : LocationLine l) : ∃ r, l = '\t' :: r := by
  obtain ⟨-, r, rfl⟩ := h
  exact ⟨r, rfl⟩

/-- What is plain with blanks behind it is plain without them. -/
theorem PlainLine.of_append {l blanks : List Char} (h : PlainLine (l ++ blanks))
    (hblanks : ∀ c ∈ blanks, isBlank c = true) : PlainLine l := by
  obtain ⟨hb, hh, hl⟩ := h
  have hb' : ¬BlankLine l := by
    rw [BlankLine, trim_append_of_blank l hblanks] at hb
    exact hb
  refine ⟨hb', fun hlead => hh (hlead.trans (List.prefix_append l blanks)), ?_⟩
  intro h
  obtain ⟨-, htab⟩ := h
  exact hl ⟨hb, htab.trans (List.prefix_append l blanks)⟩

/-- Every line is blank, a header, a location or plain. -/
theorem line_cases (l : List Char) :
    BlankLine l ∨ HeaderLine l ∨ LocationLine l ∨ PlainLine l := by
  by_cases hb : BlankLine l
  · exact .inl hb
  by_cases hh : HeaderLine l
  · exact .inr (.inl hh)
  by_cases hl : LocationLine l
  · exact .inr (.inr (.inl hl))
  · exact .inr (.inr (.inr ⟨hb, hh, hl⟩))

theorem ofText_of_blank {l : List Char} (h : BlankLine l) : Line.ofText l = .blank := by
  unfold Line.ofText
  rw [if_pos (List.isEmpty_iff.mpr h)]

theorem ofText_header (r : List Char) : Line.ofText (headerLead ++ r) = .header r := by
  have hblank : ¬(trim (headerLead ++ r)).isEmpty = true := fun h =>
    HeaderLine.not_blank ⟨r, rfl⟩ (List.isEmpty_iff.mp h)
  unfold Line.ofText
  rw [if_neg hblank, afterPrefix?_eq_some_iff.mpr rfl]

theorem ofText_location {r : List Char} (h : LocationLine ('\t' :: r)) :
    Line.ofText ('\t' :: r) = .location r := by
  have hblank : ¬(trim ('\t' :: r)).isEmpty = true := fun hb => h.1 (List.isEmpty_iff.mp hb)
  have hlead : afterPrefix? headerLead ('\t' :: r) = none :=
    afterPrefix?_eq_none_iff.mpr fun hh => HeaderLine.not_location hh h
  unfold Line.ofText
  rw [if_neg hblank, hlead]
  rfl

theorem ofText_of_plain {l : List Char} (h : PlainLine l) : Line.ofText l = .plain l := by
  obtain ⟨hb, hh, hl⟩ := h
  have hblank : ¬(trim l).isEmpty = true := fun hb' => hb (List.isEmpty_iff.mp hb')
  unfold Line.ofText
  rw [if_neg hblank, afterPrefix?_eq_none_iff.mpr hh]
  dsimp only
  split
  · rename_i r
    exact absurd ⟨hb, r, rfl⟩ hl
  · rfl

/-! ## Headers -/

/-- The line is a header that ends in a colon, with `id` up to the first space in front of the colon,
and `rest` behind that space. -/
def HeaderForm (l id rest : List Char) : Prop :=
  ∃ r text, l = headerLead ++ r ∧ trimEnd r = text ++ [':'] ∧ ' ' ∉ id ∧
    (text = id ∧ rest = [] ∨ text = id ++ ' ' :: rest)

/-- Nothing, or a text in brackets. -/
def Bracketed (s : List Char) : Prop := s = [] ∨ ∃ inner, s = '[' :: (inner ++ [']'])

/-- A header that can be read. -/
def ValidHeader (l : List Char) : Prop :=
  ∃ id rest n, HeaderForm l id rest ∧ Spells id n ∧ n < UInt64.size ∧ Bracketed (trim rest)

/-- What stands in a header behind the id tells this state, and whether the thread is bound. -/
def StateTells (s : List Char) (state : String) (locked : Bool) : Prop :=
  s = [] ∧ state = "" ∧ locked = false ∨
    ∃ inner, s = '[' :: (inner ++ [']']) ∧
      (inner = state.toList ++ lockedTail ∧ locked = true ∨
        ¬lockedTail <:+ inner ∧ inner = state.toList ∧ locked = false)

/-- The header tells this id and state, and whether the thread is bound. -/
def HeaderTells (l : List Char) (t : Snapshot) : Prop :=
  ∃ id rest, HeaderForm l id rest ∧ Spells id t.id.toNat ∧ StateTells (trim rest) t.state t.locked

theorem readState_eq_ok_iff {s : List Char} {state : String} {locked : Bool} :
    readState s = .ok (state, locked) ↔ StateTells s state locked := by
  constructor
  · fun_cases readState s with
    | case1 =>
      intro h
      cases h
      exact .inl ⟨rfl, rfl, rfl⟩
    | case2 | case5 => exact (nomatch ·)
    | case3 rest inner hinner text htext =>
      intro h
      cases h
      obtain rfl := beforeSuffix?_eq_some_iff.mp hinner
      refine .inr ⟨inner, rfl, .inl ⟨?_, rfl⟩⟩
      rw [String.toList_ofList]
      exact beforeSuffix?_eq_some_iff.mp htext
    | case4 rest inner hinner htext =>
      intro h
      cases h
      obtain rfl := beforeSuffix?_eq_some_iff.mp hinner
      refine .inr ⟨inner, rfl, .inr ⟨beforeSuffix?_eq_none_iff.mp htext, ?_, rfl⟩⟩
      rw [String.toList_ofList]
  · intro h
    rcases h with ⟨rfl, rfl, rfl⟩ | ⟨inner, rfl, h⟩
    · rfl
    · have hinner : beforeSuffix? [']'] (inner ++ [']']) = some inner :=
        beforeSuffix?_eq_some_iff.mpr rfl
      rcases h with ⟨htext, rfl⟩ | ⟨htail, rfl, rfl⟩
      · have hlocked := beforeSuffix?_eq_some_iff.mpr htext
        simp only [readState, hinner, hlocked, String.ofList_toList]
      · have hfree := beforeSuffix?_eq_none_iff.mpr htail
        simp only [readState, hinner, hfree, String.ofList_toList]

/-- A state is told exactly where there is nothing or something in brackets. -/
theorem exists_stateTells_iff {s : List Char} :
    (∃ state locked, StateTells s state locked) ↔ Bracketed s := by
  constructor
  · intro h
    obtain ⟨state, locked, ⟨rfl, -⟩ | ⟨inner, rfl, -⟩⟩ := h
    · exact .inl rfl
    · exact .inr ⟨inner, rfl⟩
  · intro h
    rcases h with rfl | ⟨inner, rfl⟩
    · exact ⟨"", false, .inl ⟨rfl, rfl, rfl⟩⟩
    · by_cases htail : lockedTail <:+ inner
      · obtain ⟨text, rfl⟩ := htail
        refine ⟨String.ofList text, true, .inr ⟨_, rfl, .inl ⟨?_, rfl⟩⟩⟩
        rw [String.toList_ofList]
      · refine ⟨String.ofList inner, false, .inr ⟨inner, rfl, .inr ⟨htail, ?_, rfl⟩⟩⟩
        rw [String.toList_ofList]

theorem headerForm_iff {r id rest : List Char} :
    HeaderForm (headerLead ++ r) id rest ↔
      ∃ text, beforeSuffix? [':'] (trimEnd r) = some text ∧
        (splitFirst? ' ' text).getD (text, []) = (id, rest) := by
  simp only [beforeSuffix?_eq_some_iff, getD_splitFirst?_eq_iff]
  constructor
  · intro h
    obtain ⟨r', text, hr, htext, hid⟩ := h
    obtain rfl := List.append_cancel_left hr
    exact ⟨text, htext, hid⟩
  · intro h
    obtain ⟨text, htext, hid⟩ := h
    exact ⟨r, text, rfl, htext, hid⟩

/-- What is read of a header is read of its two parts. -/
theorem readHeader_eq_ok_iff_parts {r : List Char} {t : Snapshot} :
    readHeader r = .ok t ↔
      ∃ id rest n state locked, HeaderForm (headerLead ++ r) id rest ∧
        readUnsigned? UInt64.size id = some n ∧ readState (trim rest) = .ok (state, locked) ∧
        t = { id := UInt64.ofNat n, state, locked } := by
  simp only [headerForm_iff]
  constructor
  · fun_cases readHeader r with
    | case1 | case2 | case3 => exact (nomatch ·)
    | case4 text htext id rest hparts n hn state locked hstate =>
      intro h
      cases h
      exact ⟨id, rest, n, state, locked, ⟨text, htext, hparts⟩, hn, hstate, rfl⟩
  · intro h
    obtain ⟨id, rest, n, state, locked, ⟨text, htext, hparts⟩, hn, hstate, rfl⟩ := h
    simp only [readHeader, htext, hparts, hn, hstate]

/-- **A header is read as what it tells.** -/
theorem readHeader_eq_ok_iff {r : List Char} {t : Snapshot} :
    readHeader r = .ok t ↔
      HeaderTells (headerLead ++ r) t ∧ t.name = none ∧ t.stack = [] := by
  rw [readHeader_eq_ok_iff_parts]
  constructor
  · intro h
    obtain ⟨id, rest, n, state, locked, hform, hn, hstate, rfl⟩ := h
    obtain ⟨hspells, hlt⟩ := readUnsigned?_eq_some_iff.mp hn
    refine ⟨⟨id, rest, hform, ?_, readState_eq_ok_iff.mp hstate⟩, rfl, rfl⟩
    show Spells id (UInt64.ofNat n).toNat
    rw [UInt64.toNat_ofNat_of_lt' hlt]
    exact hspells
  · obtain ⟨tid, state, locked, name, stack⟩ := t
    intro h
    obtain ⟨⟨id, rest, hform, hspells, hstate⟩, rfl, rfl⟩ := h
    refine ⟨id, rest, tid.toNat, state, locked, hform, ?_, readState_eq_ok_iff.mpr hstate, ?_⟩
    · exact readUnsigned?_eq_some_iff.mpr ⟨hspells, tid.toNat_lt⟩
    · rw [UInt64.ofNat_toNat]

/-- **A header can be read exactly when it is valid.** -/
theorem exists_readHeader_iff {r : List Char} :
    (∃ t, readHeader r = .ok t) ↔ ValidHeader (headerLead ++ r) := by
  simp only [readHeader_eq_ok_iff_parts, ValidHeader, ← exists_stateTells_iff,
    ← readState_eq_ok_iff]
  constructor
  · intro h
    obtain ⟨t, id, rest, n, state, locked, hform, hn, hstate, -⟩ := h
    obtain ⟨hspells, hlt⟩ := readUnsigned?_eq_some_iff.mp hn
    exact ⟨id, rest, n, hform, hspells, hlt, state, locked, hstate⟩
  · intro h
    obtain ⟨id, rest, n, hform, hspells, hlt, state, locked, hstate⟩ := h
    exact ⟨_, id, rest, n, state, locked, hform,
      readUnsigned?_eq_some_iff.mpr ⟨hspells, hlt⟩, hstate, rfl⟩

/-! ## Locations -/

/-- The line is, trimmed, `file` and `line` with a colon between, the last one there is. -/
def LocationForm (l file line : List Char) : Prop :=
  trim l = file ++ ':' :: line ∧ ':' ∉ line

/-- A location that can be read. -/
def ValidLocation (l : List Char) : Prop :=
  ∃ file line n, LocationForm l file line ∧ Spells line n ∧ n < UInt32.size

/-- The file that a text stands for: none if there is no text or it says that the file is unknown. -/
def fileOf (text : List Char) : Option String :=
  if text = unknownText.toList ∨ text = [] then none else some (String.ofList text)

/-- The location tells this file and this line. -/
def LocationTells (l : List Char) (file? : Option String) (n : UInt32) : Prop :=
  ∃ file line, LocationForm l file line ∧ file? = fileOf file ∧ Spells line n.toNat

theorem isBlank_tab : isBlank '\t' = true := by decide

theorem locationForm_iff {r file line : List Char} :
    LocationForm ('\t' :: r) file line ↔ splitLast? ':' (trim r) = some (file, line) := by
  rw [LocationForm, splitLast?_eq_some_iff, trim_cons_of_blank r isBlank_tab]

/-- What is read of a location is read of its two parts. -/
theorem readLocation_eq_ok_iff_parts {r : List Char} {file? : Option String} {n : UInt32} :
    readLocation r = .ok (file?, n) ↔
      ∃ file line m, LocationForm ('\t' :: r) file line ∧
        readUnsigned? UInt32.size line = some m ∧ file? = fileOf file ∧ n = UInt32.ofNat m := by
  simp only [locationForm_iff]
  constructor
  · fun_cases readLocation r with
    | case1 | case2 => exact (nomatch ·)
    | case3 file line hparts m hm known =>
      intro h
      obtain ⟨hfile, hn⟩ := Prod.mk.inj (Except.ok.inj h)
      exact ⟨file, line, m, hparts, hm, hfile.symm, hn.symm⟩
  · intro h
    obtain ⟨file, line, m, hparts, hm, rfl, rfl⟩ := h
    simp only [readLocation, hparts, hm, fileOf]

/-- **A location is read as what it tells.** -/
theorem readLocation_eq_ok_iff {r : List Char} {file? : Option String} {n : UInt32} :
    readLocation r = .ok (file?, n) ↔ LocationTells ('\t' :: r) file? n := by
  rw [readLocation_eq_ok_iff_parts]
  constructor
  · intro h
    obtain ⟨file, line, m, hform, hm, hfile, rfl⟩ := h
    obtain ⟨hspells, hlt⟩ := readUnsigned?_eq_some_iff.mp hm
    refine ⟨file, line, hform, hfile, ?_⟩
    rw [UInt32.toNat_ofNat_of_lt' hlt]
    exact hspells
  · intro h
    obtain ⟨file, line, hform, hfile, hspells⟩ := h
    refine ⟨file, line, n.toNat, hform, ?_, hfile, ?_⟩
    · exact readUnsigned?_eq_some_iff.mpr ⟨hspells, n.toNat_lt⟩
    · rw [UInt32.ofNat_toNat]

/-- **A location can be read exactly when it is valid.** -/
theorem exists_readLocation_iff {r : List Char} :
    (∃ file? n, readLocation r = .ok (file?, n)) ↔ ValidLocation ('\t' :: r) := by
  simp only [readLocation_eq_ok_iff_parts, ValidLocation]
  constructor
  · intro h
    obtain ⟨file?, n, file, line, m, hform, hm, -, -⟩ := h
    exact ⟨file, line, m, hform, readUnsigned?_eq_some_iff.mp hm⟩
  · intro h
    obtain ⟨file, line, m, hform, hm⟩ := h
    exact ⟨_, _, file, line, m, hform, readUnsigned?_eq_some_iff.mpr hm, rfl, rfl⟩

end Vigil.Dump
