import Vigil.Proofs.Dump.RoundTrip
import Vigil.Proofs.Dump.Truncation
import Vigil.Proofs.Text.Clipping

/-!
# The id of a block that was cut

A block is cut back to a budget, and only the id of its thread is wanted.  The header is all that matters:
once it has been read nothing behind it can take the thread away, and what is left of a header that was
cut opens no thread.  So nothing needs to be known of the name and the frames; they may even look like
other headers.  Proved:

* `readPartial_of_cut_header` — a beginning of a header, short of the header, tells of no thread;
* `firstId_of_lines` — a text whose first line is a header gives the id in it;
* `firstId_clip_addBlock` — so the id of a block that was cut is there exactly when the header fits.
-/

namespace Vigil.Dump

open Text Decimal

variable {t : ThreadInfo}

/-! ## Headers that were cut -/

/-- A header has one colon, and ends in it. -/
theorem exists_headerRest_eq (t : ThreadInfo) : ∃ text, headerRest t = text ++ [':'] ∧ ':' ∉ text := by
  refine ⟨digits t.id.toNat ++ ' ' :: ('[' :: (t.state.label.toList ++ lockedTail ++ [']'])), rfl, ?_⟩
  have hlabel : ':' ∉ t.state.label.toList := by cases t.state <;> decide
  have hdigits : ':' ∉ digits t.id.toNat := not_mem_digits _ (by decide)
  have htail : ':' ∉ lockedTail := by decide
  simp [hlabel, hdigits, htail]

/-- A header cannot be read without its colon. -/
theorem not_readHeader_of_colon_not_mem {r : List Char} (h : ':' ∉ r) (u : Snapshot) :
    readHeader r ≠ .ok u := by
  intro hread
  obtain ⟨-, -, ⟨r', text, hr, htext, -⟩, -⟩ := (readHeader_eq_ok_iff.mp hread).1
  obtain rfl := List.append_cancel_left hr
  obtain ⟨blanks, hblanks, -⟩ := exists_eq_trimEnd_append r
  apply h
  rw [hblanks, htext]
  simp

/-- **A header that was cut opens no thread.** -/
theorem readPartial_of_cut_header {p : List Char} (hp : p <+: header t) (hne : p ≠ header t) :
    (readPartial p).1 = [] := by
  by_cases hnil : p = []
  · rw [hnil, readPartial, lines_nil]
    rfl
  have hline : '\n' ∉ p := fun hmem => newline_not_mem_header t (hp.subset hmem)
  rw [readPartial, lines_of_newline_not_mem hline hnil]
  by_cases hb : BlankLine p
  · rw [readLines_of_close (takeLine_of_blank none hb)]
    rfl
  by_cases hh : HeaderLine p
  · obtain ⟨r, rfl⟩ := hh
    rw [header_eq] at hp hne
    have hr : r <+: headerRest t := (List.prefix_append_right_inj headerLead).mp hp
    obtain ⟨text, htext, hcolon⟩ := exists_headerRest_eq t
    have hpre : r <+: text := by
      rw [htext] at hr hne
      rcases List.prefix_concat_iff.mp hr with rfl | hr
      · exact absurd rfl hne
      · exact hr
    cases hread : readHeader r with
    | error fault =>
      rw [readLines_of_refuse (takeLine_header_error none hread)]
      rfl
    | ok u => exact absurd hread (not_readHeader_of_colon_not_mem (fun hmem => hcolon (hpre.subset hmem)) u)
  · rw [readLines_of_refuse (takeLine_none hb hh)]
    rfl

/-! ## Headers that are whole -/

/-- A whole header stands on a line of its own, wherever the block is cut behind it. -/
theorem exists_lines_header_append {u rest : List Char} (hu : u <+: '\n' :: rest) :
    ∃ ls, lines (header t ++ u) = header t :: ls := by
  cases u with
  | nil =>
    refine ⟨[], ?_⟩
    rw [List.append_nil]
    exact lines_of_newline_not_mem (newline_not_mem_header t) (by simp [header])
  | cons c u =>
    obtain ⟨rfl, -⟩ := List.cons_prefix_cons.mp hu
    refine ⟨lines u, ?_⟩
    have hline := lines_headerLine t u
    rwa [headerLine, List.append_assoc] at hline

/-- **A text that starts with a header gives the id in it**, whatever stands in the other lines. -/
theorem firstId_of_lines {s : List Char} {ls : List (List Char)} (h : lines s = header t :: ls) :
    firstId s = t.id := by
  obtain ⟨u, rest, hu, hext⟩ := exists_first_readLines 2 { thread := opened t } ls
  have hread : (readPartial s).1 = u :: rest := by
    rw [readPartial, h, readLines_of_openNext (takeLine_writtenHeader none t)]
    exact hu
  rw [firstId, hread]
  exact hext.1

/-! ## Blocks that were cut -/

/-- Behind a header line nothing matters. -/
theorem firstId_clip_headerLine (t : ThreadInfo) (rest : List Char) (capacity : Nat) :
    firstId (clip capacity (headerLine t ++ rest))
      = if byteSize (header t) ≤ capacity then t.id else 0 := by
  have hsplit : headerLine t ++ rest = header t ++ '\n' :: rest := by simp [headerLine]
  rw [hsplit]
  split
  · next hfits =>
    rw [clip_append_of_le _ hfits]
    have hpre := clip_prefix (capacity - byteSize (header t)) ('\n' :: rest)
    obtain ⟨ls, hlines⟩ := exists_lines_header_append (t := t) hpre
    exact firstId_of_lines hlines
  · next hover =>
    have hlt : capacity < byteSize (header t) := Nat.lt_of_not_le hover
    have hpre := clip_prefix capacity (header t)
    rw [clip_append_of_lt _ hlt, firstId, readPartial_of_cut_header hpre (clip_ne_self hlt)]

/-- **The id survives every budget that the header fits in.**  Of a block that is cut back to `capacity`
bytes, whatever its name and its frames are, the first id that is read is that of its thread if the whole
header is left, and otherwise there is none. -/
theorem firstId_clip_addBlock (t : ThreadInfo) (frames : List Frame) (capacity : Nat) :
    firstId (clip capacity (addBlock [] t frames))
      = if byteSize (header t) ≤ capacity then t.id else 0 := by
  have hblock : addBlock [] t frames
      = headerLine t ++ (nameLine t.name ++ frames.flatMap frameLines) := by
    simp [addBlock, block]
  rw [hblock]
  exact firstId_clip_headerLine t _ capacity

/-- The header that has to fit. -/
example : header ⟨4711, .diskSleep, none⟩ = "thread 4711 [disk sleep, locked to thread]:".toList := by
  decide

end Vigil.Dump
