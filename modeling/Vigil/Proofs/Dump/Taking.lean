import Vigil.Dump.Reader
import Vigil.Proofs.Dump.Line

/-!
# What one line does

The step of the reader, a kind of line at a time.  Proved:

* `takeLine_of_blank`, `takeLine_header`, `takeLine_location`, `takeLine_plain`, … — the step as the kind
  of the line says;
* `takePlain_name`, `takePlain_function` — a plain line is a name as long as nothing but names came
  before it in its block, and else a function;
* `takeLine_refuse_cases` — what a line that is refused leaves of the open thread;
* `readLines_of_keep`, … — how the reader goes on from each of the four things a line can do.
-/

namespace Vigil.Dump

open Text

/-! ## By the kind of the line -/

theorem takeLine_of_blank (current : Option Draft) {l : List Char} (h : BlankLine l) :
    takeLine current l = .close := by
  rw [takeLine, ofText_of_blank h]

theorem takeLine_header (current : Option Draft) {r : List Char} {t : Snapshot}
    (h : readHeader r = .ok t) : takeLine current (headerLead ++ r) = .openNext { thread := t } := by
  simp only [takeLine, ofText_header, h]

theorem takeLine_header_error (current : Option Draft) {r : List Char} {fault : DumpFault}
    (h : readHeader r = .error fault) :
    takeLine current (headerLead ++ r) = .refuse fault current := by
  simp only [takeLine, ofText_header, h]

theorem takeLine_location (d : Draft) {r : List Char} (h : LocationLine ('\t' :: r)) :
    takeLine (some d) ('\t' :: r) = takeLocation d r := by
  rw [takeLine, ofText_location h]

theorem takeLine_plain (d : Draft) {l : List Char} (h : PlainLine l) :
    takeLine (some d) l = .keep (takePlain d l) := by
  rw [takeLine, ofText_of_plain h]

/-- A line that has to belong to a thread is refused when none is open. -/
theorem takeLine_none {l : List Char} (hb : ¬BlankLine l) (hh : ¬HeaderLine l) :
    takeLine none l = .refuse .noThread none := by
  rcases line_cases l with h | h | h | h
  · exact absurd h hb
  · exact absurd h hh
  · obtain ⟨r, rfl⟩ := h.exists_eq
    rw [takeLine, ofText_location h]
  · rw [takeLine, ofText_of_plain h]

/-! ## Names and functions -/

theorem takePlain_name (t : Snapshot) (h : t.stack = []) (name : List Char) :
    takePlain { thread := t } (nameLead ++ name)
      = { thread := { t with name := some (String.ofList name) } } := by
  have hname : afterPrefix? nameLead (nameLead ++ name) = some name :=
    afterPrefix?_eq_some_iff.mpr rfl
  simp only [takePlain, h, hname]

/-- A plain line is a function when another function came before it, or when it does not look like a
name. -/
theorem takePlain_function {d : Draft} {l : List Char}
    (h : d.pending ≠ none ∨ d.thread.stack ≠ [] ∨ ¬nameLead <+: l) :
    takePlain d l = { thread := d.close, pending := some (trim l) } := by
  rw [takePlain]
  split
  · rename_i name hpending hstack hname
    rcases h with h | h | h
    · exact absurd hpending h
    · exact absurd hstack h
    · exact absurd ⟨name, (afterPrefix?_eq_some_iff.mp hname).symm⟩ h
  · rfl

/-- A function waits for its location behind a thread with nothing waiting; in front of the first frame
it must not look like a name. -/
theorem takeLine_function {t : Snapshot} {l : List Char} (hl : PlainLine l)
    (hname : t.stack = [] → ¬nameLead <+: l) :
    takeLine (some { thread := t }) l = .keep { thread := t, pending := some (trim l) } := by
  have h : t.stack ≠ [] ∨ ¬nameLead <+: l := by
    by_cases hs : t.stack = []
    · exact .inr (hname hs)
    · exact .inl hs
  rw [takeLine_plain _ hl, takePlain_function (.inr h)]
  rfl

/-! ## Locations -/

theorem takeLocation_no_function {d : Draft} (h : d.pending = none) (r : List Char) :
    takeLocation d r = .refuse .noFunction (some d) := by
  rw [takeLocation, h]

theorem takeLocation_ok {d : Draft} {function r : List Char} {file : Option String} {line : UInt32}
    (h : d.pending = some function) (hr : readLocation r = .ok (file, line)) :
    takeLocation d r
      = .keep { thread := Draft.addFrame d.thread { function := String.ofList function, file, line } } := by
  simp only [takeLocation, h, hr]

theorem takeLocation_error {d : Draft} {function r : List Char} {fault : DumpFault}
    (h : d.pending = some function) (hr : readLocation r = .error fault) :
    takeLocation d r = .refuse fault (some { d with pending := none }) := by
  simp only [takeLocation, h, hr]

/-! ## Refusals -/

/-- The fault is in what a location says, not in where it stands. -/
def DumpFault.OfLocation (fault : DumpFault) : Prop :=
  fault = .locationWithoutColon ∨ fault = .badLineNumber

instance (fault : DumpFault) : Decidable fault.OfLocation := inferInstanceAs (Decidable (_ ∨ _))

/-- There is one thing that can be wrong with a state. -/
theorem eq_stateNotBracketed_of_readState {s : List Char} {fault : DumpFault}
    (h : readState s = .error fault) : fault = .stateNotBracketed := by
  revert h
  fun_cases readState s with
  | case1 | case3 | case4 =>
    intro h
    cases h
  | case2 | case5 =>
    intro h
    cases h
    rfl

theorem not_ofLocation_of_readHeader {r : List Char} {fault : DumpFault}
    (h : readHeader r = .error fault) : ¬fault.OfLocation := by
  revert h
  fun_cases readHeader r with
  | case1 | case2 =>
    intro h
    cases h
    decide
  | case3 text htext id rest hparts n hn e hstate =>
    intro h
    cases h
    rw [eq_stateNotBracketed_of_readState hstate]
    decide
  | case4 =>
    intro h
    cases h

theorem ofLocation_of_readLocation {r : List Char} {fault : DumpFault}
    (h : readLocation r = .error fault) : fault.OfLocation := by
  revert h
  fun_cases readLocation r with
  | case1 =>
    intro h
    cases h
    decide
  | case2 =>
    intro h
    cases h
    decide
  | case3 =>
    intro h
    cases h

/-- **What a refused line leaves.**  The open thread stays as it is, but for a location that cannot be
read: that one takes the function in front of it along. -/
theorem takeLine_refuse_cases {current left : Option Draft} {l : List Char} {fault : DumpFault}
    (h : takeLine current l = .refuse fault left) :
    ¬fault.OfLocation ∧ left = current ∨
      fault.OfLocation ∧ ∃ t function,
        current = some { thread := t, pending := some function } ∧ left = some { thread := t } := by
  rcases line_cases l with hb | ⟨r, rfl⟩ | hl | hl
  · rw [takeLine_of_blank current hb] at h
    cases h
  · cases hr : readHeader r with
    | error fault =>
      rw [takeLine_header_error current hr] at h
      cases h
      exact .inl ⟨not_ofLocation_of_readHeader hr, rfl⟩
    | ok t =>
      rw [takeLine_header current hr] at h
      cases h
  · cases current with
    | none =>
      rw [takeLine_none hl.1 fun hh => hh.not_location hl] at h
      cases h
      exact .inl ⟨by decide, rfl⟩
    | some d =>
      obtain ⟨r, rfl⟩ := hl.exists_eq
      rw [takeLine_location d hl] at h
      obtain ⟨t, _ | function⟩ := d
      · rw [takeLocation_no_function rfl] at h
        cases h
        exact .inl ⟨by decide, rfl⟩
      · cases hr : readLocation r with
        | error fault =>
          rw [takeLocation_error rfl hr] at h
          cases h
          exact .inr ⟨ofLocation_of_readLocation hr, t, function, rfl, rfl⟩
        | ok p =>
          rw [takeLocation_ok rfl hr] at h
          cases h
  · cases current with
    | none =>
      rw [takeLine_none hl.1 hl.2.1] at h
      cases h
      exact .inl ⟨by decide, rfl⟩
    | some d =>
      rw [takeLine_plain d hl] at h
      cases h

/-! ## Going on -/

section

variable {current : Option Draft} {l : List Char}

theorem readLines_of_keep {d : Draft} (h : takeLine current l = .keep d) (n : Nat)
    (ls : List (List Char)) : readLines n current (l :: ls) = readLines (n + 1) (some d) ls := by
  rw [readLines, h]

theorem readLines_of_close (h : takeLine current l = .close) (n : Nat) (ls : List (List Char)) :
    readLines n current (l :: ls)
      = (closed current ++ (readLines (n + 1) none ls).1, (readLines (n + 1) none ls).2) := by
  rw [readLines, h]

theorem readLines_of_openNext {d : Draft} (h : takeLine current l = .openNext d) (n : Nat)
    (ls : List (List Char)) :
    readLines n current (l :: ls)
      = (closed current ++ (readLines (n + 1) (some d) ls).1, (readLines (n + 1) (some d) ls).2) := by
  rw [readLines, h]

theorem readLines_of_refuse {fault : DumpFault} {left : Option Draft}
    (h : takeLine current l = .refuse fault left) (n : Nat) (ls : List (List Char)) :
    readLines n current (l :: ls) = (closed left, some ⟨n, fault⟩) := by
  rw [readLines, h]

/-- A line is refused, or it is read, closes some threads and leaves the next line with what is open
then. -/
theorem readLines_cons_cases (current : Option Draft) (l : List Char) :
    (∃ fault left, takeLine current l = .refuse fault left) ∨
      ∃ front next, ∀ n ls, readLines n current (l :: ls)
        = (front ++ (readLines (n + 1) next ls).1, (readLines (n + 1) next ls).2) := by
  cases hs : takeLine current l with
  | keep d => exact .inr ⟨[], some d, fun n ls => readLines_of_keep hs n ls⟩
  | close => exact .inr ⟨closed current, none, readLines_of_close hs⟩
  | openNext d => exact .inr ⟨closed current, some d, readLines_of_openNext hs⟩
  | refuse fault left => exact .inl ⟨fault, left, rfl⟩

end

theorem read_eq_ok_iff {s : List Char} {ts : List Snapshot} :
    read s = .ok ts ↔ readLines 1 none (lines s) = (ts, none) := by
  rw [read, readPartial]
  generalize readLines 1 none (lines s) = p
  obtain ⟨ts', _ | e⟩ := p
  · simp
  · simp

end Vigil.Dump
