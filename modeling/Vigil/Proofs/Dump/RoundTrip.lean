import Vigil.Proofs.Dump.Taking
import Vigil.Proofs.Text.Breaking

/-!
# What is written is read back

A dump of blocks whose frames are readable is read without a fault, and gives back the blocks.  The
writer works on texts and the reader on lines; they meet in the lines of a written part with any text
behind it.  Proved:

* `readHeader_header` — a written header is read as the thread it is of;
* `readLines_frame`, `readLines_frames` — written frames are read onto the stack of the open thread;
* `readLines_block` — a written block is read as one thread;
* `read_writeBlocks` — a written dump is read as its blocks.
-/

namespace Vigil.Dump

open Text Decimal

/-! ## What can be read back, and as what -/

/-- The frame can be told apart in a dump: its function, if it has one, is on one line and plain, and its
file is on one line. -/
structure ReadableFrame (f : Frame) : Prop where
  function_oneLine : '\n' ∉ f.function.toList
  function_plain : f.function ≠ "" → PlainLine f.function.toList
  file_oneLine : ∀ file, f.file = some file → '\n' ∉ file.toList

/-- The block can be told apart: its frames can, and its first function does not look like a name. -/
structure ReadableBlock (b : ThreadInfo × List Frame) : Prop where
  frames : ∀ f ∈ b.2, ReadableFrame f
  first : ∀ f, b.2.head? = some f → ¬nameLead <+: f.function.toList

/-- What is read of a frame that was written: its address is lost, its function is trimmed, and the blanks
in front of its file are. -/
def readBackFrame (f : Frame) : Frame where
  address := 0
  function := if f.function = "" then unknownText else String.ofList (trim f.function.toList)
  file := f.file.bind fun file => fileOf (trimStart file.toList)
  line := f.line

/-- What is read of a block that was written. -/
def readBack (b : ThreadInfo × List Frame) : Snapshot where
  id := b.1.id
  state := b.1.state.label
  locked := true
  name := b.1.name.map fun name => String.ofList (oneLine name.toList)
  stack := b.2.map readBackFrame

/-! ## Digits among other characters -/

theorem exists_digits_eq_concat (n : Nat) : ∃ ds c, digits n = ds ++ [c] ∧ c.isDigit = true := by
  obtain ⟨ds, c, h⟩ := (List.eq_nil_or_concat (digits n)).resolve_left (digits_ne_nil n)
  rw [List.concat_eq_append] at h
  exact ⟨ds, c, h, isDigit_of_mem_digits (n := n) (by rw [h]; simp)⟩

/-! ## Headers -/

/-- What stands in a header behind its lead. -/
def headerRest (t : ThreadInfo) : List Char :=
  digits t.id.toNat ++ ' ' :: ('[' :: (t.state.label.toList ++ lockedTail ++ [']'])) ++ [':']

theorem header_eq (t : ThreadInfo) : header t = headerLead ++ headerRest t := by
  simp [header, headerRest]

/-- The thread that a header opens. -/
def opened (t : ThreadInfo) : Snapshot := { id := t.id, state := t.state.label, locked := true }

/-- **A written header is read as the thread it is of.** -/
theorem readHeader_header (t : ThreadInfo) : readHeader (headerRest t) = .ok (opened t) := by
  rw [readHeader_eq_ok_iff]
  refine ⟨⟨digits t.id.toNat, '[' :: (t.state.label.toList ++ lockedTail ++ [']']), ?_,
    spells_digits _, ?_⟩, rfl, rfl⟩
  · refine ⟨headerRest t, _, rfl, ?_, not_mem_digits _ (by decide), .inr rfl⟩
    exact trimEnd_concat_of_not_blank _ (by decide)
  · refine .inr ⟨t.state.label.toList ++ lockedTail, ?_, .inl ⟨rfl, rfl⟩⟩
    rw [trim, trimStart_cons_of_not_blank _ (by decide), ← List.cons_append]
    exact trimEnd_concat_of_not_blank _ (by decide)

theorem takeLine_writtenHeader (current : Option Draft) (t : ThreadInfo) :
    takeLine current (header t) = .openNext { thread := opened t } := by
  rw [header_eq]
  exact takeLine_header current (readHeader_header t)

theorem newline_not_mem_header (t : ThreadInfo) : '\n' ∉ header t := by
  have hlabel : '\n' ∉ t.state.label.toList := by
    cases t.state <;> decide
  have hdigits : '\n' ∉ digits t.id.toNat := not_mem_digits _ (by decide)
  have hlead : '\n' ∉ headerLead := by decide
  have htail : '\n' ∉ lockedTail := by decide
  simp [header, hlabel, hdigits, hlead, htail]

/-- A written header breaks off as a line. -/
theorem lines_headerLine (t : ThreadInfo) (rest : List Char) :
    lines (headerLine t ++ rest) = header t :: lines rest := by
  rw [headerLine, List.append_assoc, List.singleton_append]
  refine lines_append_newline_of_not_cr (newline_not_mem_header t) ?_ rest
  rw [header_eq, headerRest, ← List.append_assoc, List.getLast?_concat]
  decide

/-! ## Names -/

theorem plainLine_name (name : List Char) : PlainLine (nameLead ++ name) := by
  have hmem : 'n' ∈ nameLead ++ name := List.mem_append_left name (by decide)
  refine ⟨fun hb => ?_, ?_, ?_⟩
  · exact absurd (trim_eq_nil_iff.mp hb 'n' hmem) (by decide)
  · intro h
    obtain ⟨r, hr⟩ := h
    exact absurd (List.cons.inj hr).1 (by decide)
  · intro h
    obtain ⟨-, r, hr⟩ := h
    exact absurd (List.cons.inj hr).1 (by decide)

/-- A name is taken as long as there are no frames. -/
theorem takeLine_name {t : Snapshot} (ht : t.stack = []) (name : List Char) :
    takeLine (some { thread := t }) (nameLead ++ name)
      = .keep { thread := { t with name := some (String.ofList name) } } := by
  rw [takeLine_plain _ (plainLine_name name), takePlain_name t ht]

theorem mem_oneLine {c : Char} {s : List Char} (h : c ∈ oneLine s) : c ≠ '\r' ∧ c ≠ '\n' := by
  obtain ⟨a, -, rfl⟩ := List.mem_map.mp h
  by_cases ha : a = '\r' ∨ a = '\n'
  · rw [if_pos ha]
    decide
  · rw [if_neg ha]
    exact not_or.mp ha

/-- A written name breaks off as a line. -/
theorem lines_nameLine (name : String) (rest : List Char) :
    lines (nameLine (some name) ++ rest) = (nameLead ++ oneLine name.toList) :: lines rest := by
  rw [nameLine, List.append_assoc, List.singleton_append]
  have hmem : ∀ c ∈ nameLead ++ oneLine name.toList, c ≠ '\r' ∧ c ≠ '\n' := by
    intro c hc
    rcases List.mem_append.mp hc with hc | hc
    · have hcr : '\r' ∉ nameLead := by decide
      have hlf : '\n' ∉ nameLead := by decide
      exact ⟨fun e => hcr (e ▸ hc), fun e => hlf (e ▸ hc)⟩
    · exact mem_oneLine hc
  refine lines_append_newline_of_not_cr (fun h => (hmem _ h).2 rfl) ?_ rest
  exact fun hlast => (hmem '\r' (List.mem_of_getLast? hlast)).1 rfl

/-! ## Frames -/

/-- The second line of a frame. -/
def locationLine (f : Frame) : List Char :=
  '\t' :: (f.fileText.toList ++ ':' :: digits f.line.toNat)

theorem frameLines_append (f : Frame) (rest : List Char) :
    frameLines f ++ rest = f.functionText.toList ++ '\n' :: (locationLine f ++ '\n' :: rest) := by
  simp [frameLines, locationLine]

theorem locationLine_location (f : Frame) : LocationLine (locationLine f) := by
  refine ⟨fun hb => ?_, _, rfl⟩
  have hcolon : isBlank ':' = true := trim_eq_nil_iff.mp hb ':' (by simp [locationLine])
  exact absurd hcolon (by decide)

theorem exists_locationLine_eq_concat (f : Frame) :
    ∃ front c, locationLine f = front ++ [c] ∧ c.isDigit = true := by
  obtain ⟨ds, c, hds, hc⟩ := exists_digits_eq_concat f.line.toNat
  refine ⟨'\t' :: (f.fileText.toList ++ ':' :: ds), c, ?_, hc⟩
  rw [locationLine, hds, List.cons_append, List.append_assoc, List.cons_append]

/-- A written location tells the line of its frame, and its file without the blanks in front. -/
theorem locationTells_locationLine (f : Frame) :
    LocationTells (locationLine f) (readBackFrame f).file f.line := by
  obtain ⟨ds, c, hds, hc⟩ := exists_digits_eq_concat f.line.toNat
  refine ⟨trimStart f.fileText.toList, digits f.line.toNat, ⟨?_, not_mem_digits _ (by decide)⟩, ?_,
    spells_digits _⟩
  · rw [locationLine, trim_cons_of_blank _ isBlank_tab, trim,
      trimStart_append_of_not_blank _ _ (by decide), hds, ← List.cons_append, ← List.append_assoc]
    exact trimEnd_concat_of_not_blank _ (not_isBlank_of_isDigit hc)
  · show f.file.bind (fun file => fileOf (trimStart file.toList)) = _
    unfold Frame.fileText
    cases f.file with
    | none => decide
    | some file => rfl

/-- The function line of a readable frame is plain. -/
theorem ReadableFrame.plainLine {f : Frame} (hf : ReadableFrame f) :
    PlainLine f.functionText.toList := by
  unfold Frame.functionText
  by_cases he : f.function = ""
  · rw [he]
    refine ⟨by decide, by decide, ?_⟩
    intro h
    obtain ⟨-, r, hr⟩ := h
    exact absurd (List.cons.inj hr).1 (by decide)
  · rw [if_neg (by simpa using he)]
    exact hf.function_plain he

theorem ReadableFrame.newline_not_mem_function {f : Frame} (hf : ReadableFrame f) :
    '\n' ∉ f.functionText.toList := by
  unfold Frame.functionText
  split
  · decide
  · exact hf.function_oneLine

theorem ReadableFrame.newline_not_mem_location {f : Frame} (hf : ReadableFrame f) :
    '\n' ∉ locationLine f := by
  have hfile : '\n' ∉ f.fileText.toList := by
    unfold Frame.fileText
    cases h : f.file with
    | none => decide
    | some file => exact hf.file_oneLine file h
  have hdigits : '\n' ∉ digits f.line.toNat := not_mem_digits _ (by decide)
  simp [locationLine, hfile, hdigits]

theorem trim_functionText (f : Frame) :
    String.ofList (trim f.functionText.toList) = (readBackFrame f).function := by
  show _ = if f.function = "" then unknownText else String.ofList (trim f.function.toList)
  unfold Frame.functionText
  by_cases he : f.function = ""
  · rw [he]
    decide
  · rw [if_neg he, if_neg (by simpa using he)]

/-- A written function breaks off as a plain line.  The reader may take a carriage return off it, which is
trimmed off anyhow. -/
theorem ReadableFrame.lines_function {f : Frame} (hf : ReadableFrame f) (rest : List Char) :
    ∃ l, lines (f.functionText.toList ++ '\n' :: rest) = l :: lines rest ∧
      PlainLine l ∧ trim l = trim f.functionText.toList ∧ l <+: f.functionText.toList := by
  obtain ⟨l, hl, hlines⟩ := lines_append_newline hf.newline_not_mem_function rest
  refine ⟨l, hlines, ?_⟩
  rcases hl with rfl | hl
  · exact ⟨hf.plainLine, rfl, List.prefix_rfl⟩
  · have hplain : PlainLine (l ++ ['\r']) := hl ▸ hf.plainLine
    rw [hl, trim_append_of_blank l isBlank_of_mem_cr]
    exact ⟨hplain.of_append isBlank_of_mem_cr, rfl, List.prefix_append l _⟩

/-- A written location breaks off as a line. -/
theorem ReadableFrame.lines_location {f : Frame} (hf : ReadableFrame f) (rest : List Char) :
    lines (locationLine f ++ '\n' :: rest) = locationLine f :: lines rest := by
  refine lines_append_newline_of_not_cr hf.newline_not_mem_location ?_ rest
  obtain ⟨front, c, hl, hc⟩ := exists_locationLine_eq_concat f
  rw [hl, List.getLast?_concat, ne_eq, Option.some.injEq]
  intro hcr
  rw [hcr] at hc
  exact absurd hc (by decide)

/-- A written location makes a frame of the function that waits for it. -/
theorem takeLine_locationLine (f : Frame) (t : Snapshot) :
    takeLine (some { thread := t, pending := some (trim f.functionText.toList) }) (locationLine f)
      = .keep { thread := Draft.addFrame t (readBackFrame f) } := by
  have hread := readLocation_eq_ok_iff.mpr (locationTells_locationLine f)
  rw [locationLine, takeLine_location _ (locationLine_location f), takeLocation_ok rfl hread,
    trim_functionText f]
  rfl

/-- **A written frame is read onto the stack.**  On an empty stack its function must not look like a
name. -/
theorem readLines_frame {f : Frame} {t : Snapshot} (hf : ReadableFrame f)
    (hname : t.stack = [] → ¬nameLead <+: f.functionText.toList) (n : Nat) (rest : List Char) :
    readLines n (some { thread := t }) (lines (frameLines f ++ rest))
      = readLines (n + 2) (some { thread := Draft.addFrame t (readBackFrame f) }) (lines rest) := by
  obtain ⟨l, hlines, hplain, htrim, hpre⟩ := hf.lines_function (locationLine f ++ '\n' :: rest)
  have hfunction := takeLine_function hplain fun hs hlead => hname hs (hlead.trans hpre)
  rw [htrim] at hfunction
  rw [frameLines_append, hlines, readLines_of_keep hfunction, hf.lines_location,
    readLines_of_keep (takeLine_locationLine f t)]

/-- Written frames are read onto the stack, one behind another. -/
theorem readLines_frames (frames : List Frame) {t : Snapshot}
    (hframes : ∀ f ∈ frames, ReadableFrame f)
    (hname : t.stack = [] → ∀ f, frames.head? = some f → ¬nameLead <+: f.function.toList)
    (n : Nat) (rest : List Char) :
    readLines n (some { thread := t }) (lines (frames.flatMap frameLines ++ rest))
      = readLines (n + 2 * frames.length)
        (some { thread := { t with stack := t.stack ++ frames.map readBackFrame } }) (lines rest) := by
  induction frames generalizing t n with
  | nil =>
    rw [List.map_nil, List.append_nil]
    rfl
  | cons f frames ih =>
    have hf : t.stack = [] → ¬nameLead <+: f.functionText.toList := by
      intro hs
      unfold Frame.functionText
      split
      · decide
      · exact hname hs f rfl
    rw [List.flatMap_cons, List.append_assoc,
      readLines_frame (hframes f List.mem_cons_self) hf,
      ih (fun g hg => hframes g (List.mem_cons_of_mem f hg))
        (fun hs => absurd hs (by simp [Draft.addFrame]))]
    rw [List.length_cons, Nat.mul_succ, Nat.add_right_comm, ← Nat.add_assoc]
    simp only [Draft.addFrame, List.append_assoc, List.singleton_append, List.map_cons]

/-! ## Blocks -/

/-- **A written block is read as one thread**, and what was open before it is closed. -/
theorem readLines_block {b : ThreadInfo × List Frame} (hb : ReadableBlock b) (n : Nat)
    (current : Option Draft) (rest : List Char) :
    ∃ m, readLines n current (lines (block b.1 b.2 ++ rest))
      = (closed current ++ (readLines m (some { thread := readBack b }) (lines rest)).1,
        (readLines m (some { thread := readBack b }) (lines rest)).2) := by
  obtain ⟨t, frames⟩ := b
  rw [block, List.append_assoc, List.append_assoc, lines_headerLine,
    readLines_of_openNext (takeLine_writtenHeader current t)]
  cases hname : t.name with
  | none =>
    rw [nameLine, List.nil_append, readLines_frames frames hb.frames fun _ => hb.first]
    refine ⟨n + 1 + 2 * frames.length, ?_⟩
    rw [readBack, hname]
    rfl
  | some name =>
    rw [lines_nameLine, readLines_of_keep (takeLine_name rfl _),
      readLines_frames frames hb.frames fun _ => hb.first]
    refine ⟨n + 1 + 1 + 2 * frames.length, ?_⟩
    rw [readBack, hname]
    rfl

theorem block_ne_nil (t : ThreadInfo) (frames : List Frame) : block t frames ≠ [] := by
  simp [block, headerLine, header]

/-- Behind a text that is not empty, each further block stands behind an empty line. -/
theorem foldl_addBlock (blocks : List (ThreadInfo × List Frame)) {out : List Char} (h : out ≠ []) :
    blocks.foldl (fun out b => addBlock out b.1 b.2) out
      = out ++ blocks.flatMap fun b => '\n' :: block b.1 b.2 := by
  induction blocks generalizing out with
  | nil => simp
  | cons b blocks ih =>
    have hadd : addBlock out b.1 b.2 = out ++ '\n' :: block b.1 b.2 := by
      rw [addBlock, if_neg (by simpa using h), List.append_assoc, List.singleton_append]
    rw [List.foldl_cons, hadd, ih (by simp), List.append_assoc, List.flatMap_cons]

theorem writeBlocks_cons (b : ThreadInfo × List Frame) (blocks : List (ThreadInfo × List Frame)) :
    writeBlocks (b :: blocks)
      = block b.1 b.2 ++ blocks.flatMap fun b => '\n' :: block b.1 b.2 := by
  have hfirst : addBlock [] b.1 b.2 = block b.1 b.2 := rfl
  rw [writeBlocks, List.foldl_cons, hfirst, foldl_addBlock blocks (block_ne_nil b.1 b.2)]

/-- Blocks behind an open thread close it, and are read as one thread each. -/
theorem readLines_blocks (blocks : List (ThreadInfo × List Frame))
    (h : ∀ b ∈ blocks, ReadableBlock b) (n : Nat) (t : Snapshot) :
    readLines n (some { thread := t }) (lines (blocks.flatMap fun b => '\n' :: block b.1 b.2))
      = (t :: blocks.map readBack, none) := by
  induction blocks generalizing n t with
  | nil =>
    rw [List.flatMap_nil, lines_nil]
    rfl
  | cons b blocks ih =>
    have hblank : takeLine (some { thread := t }) [] = .close := takeLine_of_blank _ rfl
    rw [List.flatMap_cons, List.cons_append, lines_newline, readLines_of_close hblank]
    obtain ⟨m, hm⟩ := readLines_block (h b List.mem_cons_self) (n + 1) none
      (blocks.flatMap fun b => '\n' :: block b.1 b.2)
    rw [hm, ih (fun c hc => h c (List.mem_cons_of_mem b hc))]
    rfl

/-- **What is written is read back.**  A dump of readable blocks is read without a fault, as one thread for
each block, in order. -/
theorem read_writeBlocks (blocks : List (ThreadInfo × List Frame))
    (h : ∀ b ∈ blocks, ReadableBlock b) :
    read (writeBlocks blocks) = .ok (blocks.map readBack) := by
  have hlines : readPartial (writeBlocks blocks) = (blocks.map readBack, none) := by
    cases blocks with
    | nil => rfl
    | cons b blocks =>
      obtain ⟨m, hm⟩ := readLines_block (h b List.mem_cons_self) 1 none
        (blocks.flatMap fun b => '\n' :: block b.1 b.2)
      rw [readPartial, writeBlocks_cons, hm,
        readLines_blocks blocks (fun c hc => h c (List.mem_cons_of_mem b hc))]
      rfl
  rw [read, hlines]

/-- Two blocks with all that is lost on the way: a line break in a name, blanks around a function and in
front of a file, and a frame of which nothing is known. -/
theorem read_writeBlocks_two_threads :
    read (writeBlocks
      [(⟨10, .running, some "main\nloop"⟩,
          [{ address := 4096, function := " app::run ", file := some " run.rs", line := 42 }, {}]),
        (⟨11, .sleeping, none⟩, [])])
      = .ok
        [{ id := 10, state := "running", locked := true, name := some "main loop",
           stack := [{ function := "app::run", file := some "run.rs", line := 42 },
             { function := "<unknown>" }] },
          { id := 11, state := "sleeping", locked := true }] := by
  have hknown : ReadableFrame
      { address := 4096, function := " app::run ", file := some " run.rs", line := 42 } := by
    refine ⟨by decide, fun _ => by decide, fun file h => ?_⟩
    cases h
    decide
  have hunknown : ReadableFrame {} := ⟨by decide, fun h => absurd rfl h, fun _ h => (nomatch h)⟩
  refine (read_writeBlocks _ ?_).trans (congrArg Except.ok (by decide))
  refine List.forall_mem_cons.mpr ⟨⟨?_, ?_⟩, List.forall_mem_singleton.mpr ⟨?_, ?_⟩⟩
  · exact List.forall_mem_cons.mpr ⟨hknown, List.forall_mem_singleton.mpr hunknown⟩
  · intro f h
    cases h
    decide
  · exact List.forall_mem_nil _
  · exact fun _ h => (nomatch h)

end Vigil.Dump
