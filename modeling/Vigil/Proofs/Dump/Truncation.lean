import Vigil.Proofs.Dump.Taking
import Vigil.Proofs.Text.Breaking

/-!
# A dump that was cut

A dump is cut back to its budget wherever the budget ends, so what is read may end in the middle of a
line.  The beginning of a dump breaks into the same lines, the last one perhaps cut; whatever the cut line
looks like, it touches only the thread that is open.  Proved:

* `exists_first_readLines` — a thread that is open stays the first one, and only gets more frames;
* `headerTells_id_unique` — a header that was cut gives the same id if it can be read at all;
* `truncated_of_cutLine` — a cut line spoils at most the last frame of the last thread;
* `truncated_readPartial` — so a cut dump tells what the whole one does, but for that frame.
-/

namespace Vigil.Dump

open Text Decimal

/-! ## Cut threads -/

/-- A thread in which the dump was cut: it has its id, and its frames but for the last one, which may be
wrong. -/
def CutThread (t' t : Snapshot) : Prop := t'.id = t.id ∧ t'.stack.dropLast <+: t.stack

/-- Threads that are left of a dump when it is cut: the first ones, and the last of them cut. -/
def Truncated (ts' ts : List Snapshot) : Prop :=
  ts' = [] ∨ ∃ same t' t rest, ts' = same ++ [t'] ∧ ts = same ++ t :: rest ∧ CutThread t' t

/-- The same thread, with more frames perhaps. -/
def Extends (t t' : Snapshot) : Prop := t'.id = t.id ∧ t.stack <+: t'.stack

theorem Extends.refl (t : Snapshot) : Extends t t := ⟨rfl, List.prefix_rfl⟩

theorem Extends.trans {s t u : Snapshot} (h : Extends s t) (h' : Extends t u) : Extends s u :=
  ⟨h'.1.trans h.1, h.2.trans h'.2⟩

theorem extends_addFrame (t : Snapshot) (f : Frame) : Extends t (Draft.addFrame t f) :=
  ⟨rfl, List.prefix_append t.stack [f]⟩

theorem extends_close (d : Draft) : Extends d.thread d.close := by
  unfold Draft.close
  split
  · exact .refl _
  · exact extends_addFrame _ _

theorem CutThread.of_extends {t t' : Snapshot} (h : Extends t t') : CutThread t t' :=
  ⟨h.1.symm, (List.dropLast_prefix _).trans h.2⟩

/-- A thread that is one frame ahead of what the whole dump tells is a cut one. -/
theorem cutThread_addFrame {t t' : Snapshot} (f : Frame) (h : Extends t t') :
    CutThread (Draft.addFrame t f) t' := by
  refine ⟨h.1.symm, ?_⟩
  show (t.stack ++ [f]).dropLast <+: t'.stack
  rw [List.dropLast_concat]
  exact h.2

/-- Closing an open thread adds a frame at most. -/
theorem cutThread_close {d : Draft} {t : Snapshot} (h : Extends d.thread t) : CutThread d.close t := by
  unfold Draft.close
  split
  · exact .of_extends h
  · exact cutThread_addFrame _ h

theorem Truncated.single {t' t : Snapshot} (rest : List Snapshot) (h : CutThread t' t) :
    Truncated [t'] (t :: rest) := .inr ⟨[], t', t, rest, rfl, rfl, h⟩

/-- The same threads in front make no difference. -/
theorem Truncated.append {ts' ts : List Snapshot} (h : Truncated ts' ts) (front : List Snapshot) :
    Truncated (front ++ ts') (front ++ ts) := by
  rcases h with rfl | ⟨same, t', t, rest, rfl, rfl, hcut⟩
  · rw [List.append_nil]
    rcases List.eq_nil_or_concat front with rfl | ⟨same, t, rfl⟩
    · exact .inl rfl
    · rw [List.concat_eq_append]
      refine .inr ⟨same, t, t, ts, rfl, ?_, .of_extends (.refl t)⟩
      rw [List.append_assoc, List.singleton_append]
  · exact .inr ⟨front ++ same, t', t, rest, by rw [List.append_assoc], by rw [List.append_assoc], hcut⟩

/-! ## Reading on -/

/-- A plain line takes no frame away. -/
theorem extends_takePlain (d : Draft) (l : List Char) : Extends d.thread (takePlain d l).thread := by
  unfold takePlain
  split
  · exact ⟨rfl, List.prefix_rfl⟩
  · exact extends_close d

/-- A location takes no frame away. -/
theorem extends_takeLocation {d d' : Draft} {r : List Char} (h : takeLocation d r = .keep d') :
    Extends d.thread d'.thread := by
  unfold takeLocation at h
  split at h
  · cases h
  · split at h
    · cases h
    · cases h
      exact extends_addFrame _ _

/-- A line that belongs to an open thread takes no frame away. -/
theorem extends_takeLine {d d' : Draft} {l : List Char} (h : takeLine (some d) l = .keep d') :
    Extends d.thread d'.thread := by
  rcases line_cases l with hb | ⟨r, rfl⟩ | hl | hl
  · rw [takeLine_of_blank _ hb] at h
    cases h
  · cases hr : readHeader r with
    | error fault =>
      rw [takeLine_header_error _ hr] at h
      cases h
    | ok t =>
      rw [takeLine_header _ hr] at h
      cases h
  · obtain ⟨r, rfl⟩ := hl.exists_eq
    rw [takeLine_location _ hl] at h
    exact extends_takeLocation h
  · rw [takeLine_plain _ hl] at h
    cases h
    exact extends_takePlain d l

/-- **A thread that is open stays the first one**, and gets more frames at most, whatever stands in the
lines after it and whether they can be read or not. -/
theorem exists_first_readLines (n : Nat) (d : Draft) (ls : List (List Char)) :
    ∃ t rest, (readLines n (some d) ls).1 = t :: rest ∧ Extends d.thread t := by
  induction ls generalizing n d with
  | nil => exact ⟨d.close, [], rfl, extends_close d⟩
  | cons l ls ih =>
    cases hs : takeLine (some d) l with
    | keep d' =>
      rw [readLines_of_keep hs]
      obtain ⟨t, rest, hread, ht⟩ := ih (n + 1) d'
      exact ⟨t, rest, hread, (extends_takeLine hs).trans ht⟩
    | close =>
      rw [readLines_of_close hs]
      exact ⟨d.close, _, rfl, extends_close d⟩
    | openNext d' =>
      rw [readLines_of_openNext hs]
      exact ⟨d.close, _, rfl, extends_close d⟩
    | refuse fault left =>
      rw [readLines_of_refuse hs]
      rcases takeLine_refuse_cases hs with ⟨-, rfl⟩ | ⟨-, t, function, hd, rfl⟩
      · exact ⟨d.close, [], rfl, extends_close d⟩
      · cases hd
        exact ⟨t, [], rfl, .refl t⟩

theorem readLines_extends {n : Nat} {d : Draft} {ls : List (List Char)} {ts : List Snapshot}
    (h : readLines n (some d) ls = (ts, none)) : ∃ t rest, ts = t :: rest ∧ Extends d.thread t := by
  have hfirst := exists_first_readLines n d ls
  rw [h] at hfirst
  exact hfirst

/-- In front of a line that is no location, a waiting function has become a frame. -/
theorem readLines_extends_close {n : Nat} {d : Draft} {l : List Char} {ls : List (List Char)}
    {ts : List Snapshot} (hl : ¬LocationLine l) (h : readLines n (some d) (l :: ls) = (ts, none)) :
    ∃ t rest, ts = t :: rest ∧ Extends d.close t := by
  rcases line_cases l with hb | ⟨r, rfl⟩ | hloc | hplain
  · rw [readLines_of_close (takeLine_of_blank _ hb)] at h
    obtain ⟨rfl, -⟩ := Prod.mk.inj h
    exact ⟨d.close, _, rfl, .refl _⟩
  · cases hr : readHeader r with
    | error fault =>
      rw [readLines_of_refuse (takeLine_header_error _ hr)] at h
      cases h
    | ok t =>
      rw [readLines_of_openNext (takeLine_header _ hr)] at h
      obtain ⟨rfl, -⟩ := Prod.mk.inj h
      exact ⟨d.close, _, rfl, .refl _⟩
  · exact absurd hloc hl
  · rw [readLines_of_keep (takeLine_plain d hplain)] at h
    obtain ⟨t, rest, rfl, ht⟩ := readLines_extends h
    refine ⟨t, rest, rfl, ?_⟩
    unfold takePlain at ht
    split at ht
    · -- a name: nothing waits and there are no frames yet
      rename_i hpending hstack _
      have hclose : d.close = d.thread := by rw [Draft.close, hpending]
      rw [hclose]
      exact ⟨ht.1, hstack ▸ List.nil_prefix⟩
    · exact ht

/-- What is closed when the dump ends early is what the whole dump tells, but for a frame. -/
theorem truncated_closed {n : Nat} {current : Option Draft} {ls : List (List Char)}
    {ts : List Snapshot} (h : readLines n current ls = (ts, none)) : Truncated (closed current) ts := by
  cases current with
  | none => exact .inl rfl
  | some d =>
    obtain ⟨t, rest, rfl, ht⟩ := readLines_extends h
    exact .single rest (cutThread_close ht)

/-! ## Kinds of cut lines -/

section

variable {l' l : List Char}

theorem not_blank_of_cut (h : CutLine l' l) (hb : ¬BlankLine l') : ¬BlankLine l := by
  intro hl
  rcases h with h | rfl
  · exact hb (trim_eq_nil_iff.mpr fun c hc => trim_eq_nil_iff.mp hl c (h.subset hc))
  · refine hb ?_
    rw [BlankLine, trim_append_of_blank l isBlank_of_mem_cr]
    exact hl

/-- What is a location when it is cut is one. -/
theorem location_of_cut (h : CutLine l' l) (hl : LocationLine l') : LocationLine l :=
  ⟨not_blank_of_cut h hl.1, h.lead hl.2 (by decide)⟩

/-- A location is no plain line when it is cut. -/
theorem not_location_of_cut (h : CutLine l' l) (hl : PlainLine l') : ¬LocationLine l := by
  intro h
  obtain ⟨-, r, rfl⟩ := h
  refine hl.2.2 ⟨hl.1, ?_⟩
  rcases h with h | rfl
  · cases l' with
    | nil => exact absurd rfl hl.1
    | cons c l' =>
      obtain ⟨rfl, -⟩ := List.cons_prefix_cons.mp h
      exact ⟨l', rfl⟩
  · exact ⟨r ++ ['\r'], rfl⟩

end

/-! ## Cut headers -/

/-- A character that does not end the id in a header. -/
def inId (c : Char) : Bool := c != ' ' && c != ':'

/-- The id in a header is what stands in front of the first space or colon, whatever stands behind the
header. -/
theorem spells_takeWhile_of_headerTells {r : List Char} {t : Snapshot}
    (h : HeaderTells (headerLead ++ r) t) (s : List Char) :
    Spells ((r ++ s).takeWhile inId) t.id.toNat := by
  obtain ⟨id, rest, ⟨r', text, hr, htext, hspace, hparts⟩, hspells, -⟩ := h
  obtain rfl := List.append_cancel_left hr
  obtain ⟨blanks, hblanks, -⟩ := exists_eq_trimEnd_append r
  have hcolon : ':' ∉ id := hspells.not_mem (by decide) (by decide)
  have hid : ∀ a ∈ id, inId a = true := by
    intro a ha
    rw [inId, Bool.and_eq_true, bne_iff_ne, bne_iff_ne]
    exact ⟨fun e => hspace (e ▸ ha), fun e => hcolon (e ▸ ha)⟩
  -- behind the id stands the space, or the colon if there is no space
  have hstop : ∃ c tail, r ++ s = id ++ c :: tail ∧ (c = ' ' ∨ c = ':') := by
    rw [hblanks, htext]
    rcases hparts with ⟨rfl, -⟩ | rfl
    · exact ⟨':', blanks ++ s, by simp, .inr rfl⟩
    · exact ⟨' ', rest ++ ':' :: (blanks ++ s), by simp, .inl rfl⟩
  obtain ⟨c, tail, heq, hc⟩ := hstop
  have hneg : ¬inId c = true := by
    rcases hc with rfl | rfl <;> decide
  rw [heq, List.takeWhile_append_of_pos hid, List.takeWhile_cons_of_neg hneg, List.append_nil]
  exact hspells

/-- **A header gives one id**, however much of it is left. -/
theorem headerTells_id_unique {r' r : List Char} {t' t : Snapshot} (hpre : r' <+: r)
    (h' : HeaderTells (headerLead ++ r') t') (h : HeaderTells (headerLead ++ r) t) : t'.id = t.id := by
  obtain ⟨s, rfl⟩ := hpre
  have hspells' := spells_takeWhile_of_headerTells h' s
  have hspells := spells_takeWhile_of_headerTells h []
  rw [List.append_nil] at hspells
  exact UInt64.toNat_inj.mp (hspells'.unique hspells)

/-- A header that was cut gives the id of the header, if it can be read. -/
theorem id_of_cut {r' r : List Char} {t' t : Snapshot}
    (hcut : CutLine (headerLead ++ r') (headerLead ++ r)) (h' : readHeader r' = .ok t')
    (h : readHeader r = .ok t) : t'.id = t.id := by
  have htells' := (readHeader_eq_ok_iff.mp h').1
  have htells := (readHeader_eq_ok_iff.mp h).1
  rcases hcut with hpre | heq
  · exact headerTells_id_unique ((List.prefix_append_right_inj headerLead).mp hpre) htells' htells
  · rw [List.append_assoc] at heq
    obtain rfl := List.append_cancel_left heq
    exact (headerTells_id_unique (List.prefix_append r _) htells htells').symm

/-! ## Cut lines -/

section

variable {current : Option Draft} {n : Nat} {l' l : List Char} {ls : List (List Char)}
  {ts : List Snapshot}

/-- A header that was cut leaves the open thread as it is, and opens the right one if any. -/
theorem truncated_of_cut_header (hcut : CutLine l' l) (hl' : HeaderLine l')
    (h : readLines n current (l :: ls) = (ts, none)) (n' : Nat) :
    Truncated (readLines n' current [l']).1 ts := by
  obtain ⟨r', rfl⟩ := hl'
  obtain ⟨r, rfl⟩ := hcut.lead (List.prefix_append headerLead r') (by decide)
  cases hr' : readHeader r' with
  | error fault =>
    rw [readLines_of_refuse (takeLine_header_error current hr')]
    exact truncated_closed h
  | ok t' =>
    rw [readLines_of_openNext (takeLine_header current hr')]
    cases hr : readHeader r with
    | error fault =>
      rw [readLines_of_refuse (takeLine_header_error current hr)] at h
      cases h
    | ok t =>
      rw [readLines_of_openNext (takeLine_header current hr)] at h
      obtain ⟨rfl, hnone⟩ := Prod.mk.inj h
      have hrest : readLines (n + 1) (some { thread := t }) ls
          = ((readLines (n + 1) (some { thread := t }) ls).1, none) := Prod.ext rfl hnone
      obtain ⟨u, rest, hu, hext⟩ := readLines_extends hrest
      rw [hu]
      refine Truncated.append (.single rest ⟨?_, ?_⟩) (closed current)
      · exact (id_of_cut hcut hr' hr).trans hext.1.symm
      · show t'.stack.dropLast <+: u.stack
        rw [(readHeader_eq_ok_iff.mp hr').2.2]
        exact List.nil_prefix

/-- A location that was cut spoils the last frame, or leaves it out. -/
theorem truncated_of_cut_location (hcut : CutLine l' l) (hl' : LocationLine l')
    (h : readLines n current (l :: ls) = (ts, none)) (n' : Nat) :
    Truncated (readLines n' current [l']).1 ts := by
  have hl : LocationLine l := location_of_cut hcut hl'
  cases current with
  | none =>
    rw [readLines_of_refuse (takeLine_none hl.1 fun hh => hh.not_location hl)] at h
    cases h
  | some d =>
    obtain ⟨t, rest, rfl, hext⟩ := readLines_extends h
    obtain ⟨r', rfl⟩ := hl'.exists_eq
    have htake := takeLine_location d hl'
    cases hp : d.pending with
    | none =>
      rw [takeLocation_no_function hp] at htake
      rw [readLines_of_refuse htake]
      exact .single rest (cutThread_close hext)
    | some function =>
      cases hr' : readLocation r' with
      | error fault =>
        rw [takeLocation_error hp hr'] at htake
        rw [readLines_of_refuse htake]
        exact .single rest (.of_extends hext)
      | ok p =>
        rw [takeLocation_ok hp hr'] at htake
        rw [readLines_of_keep htake]
        exact .single rest (cutThread_addFrame _ hext)

/-- A plain line that is left of another line is one more function at most. -/
theorem truncated_of_cut_plain (hcut : CutLine l' l) (hl' : PlainLine l')
    (h : readLines n current (l :: ls) = (ts, none)) (n' : Nat) :
    Truncated (readLines n' current [l']).1 ts := by
  cases current with
  | none =>
    rw [readLines_of_refuse (takeLine_none hl'.1 hl'.2.1)]
    exact .inl rfl
  | some d =>
    obtain ⟨t, rest, rfl, hext⟩ := readLines_extends_close (not_location_of_cut hcut hl') h
    rw [readLines_of_keep (takeLine_plain d hl')]
    refine .single rest ?_
    unfold takePlain
    split
    · have hthread : Extends d.thread t := (extends_close d).trans hext
      exact cutThread_close ⟨hthread.1, hthread.2⟩
    · exact cutThread_addFrame _ hext

/-- **A cut line spoils at most the last frame of the last thread.** -/
theorem truncated_of_cutLine (hcut : CutLine l' l) (h : readLines n current (l :: ls) = (ts, none))
    (n' : Nat) : Truncated (readLines n' current [l']).1 ts := by
  rcases line_cases l' with hb | hh | hl | hl
  · rw [readLines_of_close (takeLine_of_blank current hb)]
    show Truncated (closed current ++ []) ts
    rw [List.append_nil]
    exact truncated_closed h
  · exact truncated_of_cut_header hcut hh h n'
  · exact truncated_of_cut_location hcut hl h n'
  · exact truncated_of_cut_plain hcut hl h n'

end

/-! ## Cut dumps -/

/-- **Lines that were cut give what the whole lines give, but for the last frame.** -/
theorem truncated_of_cut {ls' ls : List (List Char)} (hcut : Cut ls' ls) {current : Option Draft}
    {n : Nat} {ts : List Snapshot} (h : readLines n current ls = (ts, none)) (n' : Nat) :
    Truncated (readLines n' current ls').1 ts := by
  induction hcut generalizing current n n' ts with
  | nil => exact truncated_closed h
  | last hline => exact truncated_of_cutLine hline h n'
  | @cons l ls' ls hcut ih =>
    cases hs : takeLine current l with
    | keep d =>
      rw [readLines_of_keep hs] at h ⊢
      exact ih h (n' + 1)
    | close =>
      rw [readLines_of_close hs] at h ⊢
      obtain ⟨rfl, hnone⟩ := Prod.mk.inj h
      exact (ih (Prod.ext rfl hnone) (n' + 1)).append (closed current)
    | openNext d =>
      rw [readLines_of_openNext hs] at h ⊢
      obtain ⟨rfl, hnone⟩ := Prod.mk.inj h
      exact (ih (Prod.ext rfl hnone) (n' + 1)).append (closed current)
    | refuse fault left =>
      rw [readLines_of_refuse hs] at h
      cases h

/-- **Cutting a dump touches only its end.**  Of a dump that is read without a fault, any beginning gives
the first threads, equal in every part but for the last one, which has its id and its frames, but for the
last frame. -/
theorem truncated_readPartial {p s : List Char} {ts : List Snapshot} (hp : p <+: s)
    (h : read s = .ok ts) : Truncated (readPartial p).1 ts := by
  have hs : readLines 1 none (lines s) = (ts, none) := read_eq_ok_iff.mp h
  exact truncated_of_cut (lines_cut hp) hs 1

/-- A dump cut in a line number gives another number. -/
theorem truncated_in_line_number :
    Truncated (readPartial "thread 7 [running]:\nrun\n\tmain:4".toList).1
      [{ id := 7, state := "running", locked := false,
         stack := [{ function := "run", file := some "main", line := 42 }] }] := by
  have hp : "thread 7 [running]:\nrun\n\tmain:4".toList
      <+: "thread 7 [running]:\nrun\n\tmain:42\n".toList := by decide
  exact truncated_readPartial hp rfl

end Vigil.Dump
