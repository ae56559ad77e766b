import Vigil.Proofs.Dump.RoundTrip

/-!
# Frames that were cut

A frame is written on two lines.  Where a dump is cut in them, the line that was cut may still be read: as a
shorter function, or as a location with a shorter number or with a colon of the file taken for the last one.
Proved for frames whose texts carry no blanks at their ends:

* `TidyFrame.same_readBackFrame` — a frame that is not cut is read back as it is;
* `readLines_cut_location`, `readLines_cut_function` — what is read where the second line is cut, and where
  the first one is (`CutFrame`);
* `readLines_cut_frames` — what is left of frames that were cut: whole ones, and then perhaps a cut one
  (`Remnant`).
-/

namespace Vigil.Dump

open Text Decimal

/-! ## Tidy blocks -/

/-- The texts of the frame are known, stand on one line without blanks at their ends, and are not taken for
anything else. -/
structure TidyFrame (f : Frame) : Prop where
  function_known : f.function ≠ ""
  function_trimmed : trim f.function.toList = f.function.toList
  function_oneLine : '\n' ∉ f.function.toList
  function_no_header : ¬headerLead <+: f.function.toList
  file_known : ∀ file, f.file = some file → file ≠ "" ∧ file ≠ unknownText
  file_trimmed : ∀ file, f.file = some file → trim file.toList = file.toList
  file_oneLine : ∀ file, f.file = some file → '\n' ∉ file.toList

/-- The frames of the block are tidy, and the first function does not look like a name. -/
structure TidyBlock (b : ThreadInfo × List Frame) : Prop where
  frames : ∀ f ∈ b.2, TidyFrame f
  first : ∀ f, b.2.head? = some f → ¬nameLead <+: f.function.toList

instance (f : Frame) : Decidable (TidyFrame f) :=
  decidable_of_iff
    ((f.function ≠ "" ∧ trim f.function.toList = f.function.toList ∧ '\n' ∉ f.function.toList ∧
        ¬headerLead <+: f.function.toList) ∧
      ∀ file ∈ f.file, (file ≠ "" ∧ file ≠ unknownText) ∧ trim file.toList = file.toList ∧ '\n' ∉ file.toList)
    ⟨fun ⟨⟨hknown, htrimmed, hline, hheader⟩, hfile⟩ => ⟨hknown, htrimmed, hline, hheader,
      fun file h => (hfile file h).1, fun file h => (hfile file h).2.1, fun file h => (hfile file h).2.2⟩,
    fun h => ⟨⟨h.function_known, h.function_trimmed, h.function_oneLine, h.function_no_header⟩,
      fun file hf => ⟨h.file_known file hf, h.file_trimmed file hf, h.file_oneLine file hf⟩⟩⟩

instance (b : ThreadInfo × List Frame) : Decidable (TidyBlock b) :=
  decidable_of_iff ((∀ f ∈ b.2, TidyFrame f) ∧ ∀ f ∈ b.2.head?, ¬nameLead <+: f.function.toList)
    ⟨fun h => ⟨h.1, h.2⟩, fun h => ⟨h.frames, h.first⟩⟩

namespace TidyFrame

variable {g : Frame} (hg : TidyFrame g)

include hg

theorem functionText_eq : g.functionText = g.function := by
  rw [Frame.functionText, if_neg (by simpa using hg.function_known)]

/-- Any beginning of the function is a plain line. -/
theorem plainLine_beginning {p : List Char} (hp : p <+: g.function.toList) (hne : p ≠ []) : PlainLine p := by
  have hstart := trimStart_eq_self hg.function_trimmed
  refine ⟨(trim_beginning hstart hp hne).2, fun hlead => ?_, ?_⟩
  · exact hg.function_no_header (hlead.trans hp)
  · rintro ⟨-, htab⟩
    obtain ⟨rest, hrest⟩ := htab.trans hp
    rw [← hrest] at hstart
    exact not_isBlank_head hstart isBlank_tab

theorem readable : ReadableFrame g where
  function_oneLine := hg.function_oneLine
  function_plain hne := hg.plainLine_beginning List.prefix_rfl (by simpa using hne)
  file_oneLine := hg.file_oneLine

theorem trimStart_fileText : trimStart g.fileText.toList = g.fileText.toList := by
  unfold Frame.fileText
  cases h : g.file with
  | none => decide
  | some file => exact trimStart_eq_self (hg.file_trimmed file h)

end TidyFrame

theorem TidyBlock.readable {b : ThreadInfo × List Frame} (hb : TidyBlock b) : ReadableBlock b :=
  ⟨fun f hf => (hb.frames f hf).readable, hb.first⟩

/-- The frames are the same, but for the address. -/
def SameFrame (f g : Frame) : Prop := f.function = g.function ∧ f.file = g.file ∧ f.line = g.line

theorem TidyFrame.same_readBackFrame {g : Frame} (hg : TidyFrame g) : SameFrame (readBackFrame g) g := by
  refine ⟨?_, ?_, rfl⟩
  · show (if g.function = "" then unknownText else String.ofList (trim g.function.toList)) = g.function
    rw [if_neg hg.function_known, hg.function_trimmed, String.ofList_toList]
  · show g.file.bind (fun file => fileOf (trimStart file.toList)) = g.file
    cases h : g.file with
    | none => rfl
    | some file =>
      have hne : ¬(file.toList = unknownText.toList ∨ file.toList = []) := by
        obtain ⟨hempty, hunknown⟩ := hg.file_known file h
        rintro (htext | htext)
        · exact hunknown (String.toList_injective htext)
        · exact hempty (String.toList_injective htext)
      show fileOf (trimStart file.toList) = some file
      rw [trimStart_eq_self (hg.file_trimmed file h), fileOf, if_neg hne, String.ofList_toList]

/-! ## What is left of a list -/

/-- The first list is what is left of the second one: whole items, and then perhaps a cut one. -/
inductive Remnant {α β : Type} (whole cut : α → β → Prop) : List α → List β → Prop
  | nil {ys : List β} : Remnant whole cut [] ys
  | last {x : α} {y : β} {ys : List β} : cut x y → Remnant whole cut [x] (y :: ys)
  | cons {x : α} {y : β} {xs : List α} {ys : List β} :
      whole x y → Remnant whole cut xs ys → Remnant whole cut (x :: xs) (y :: ys)

/-- What is left stands at its place, and only the last item can be a cut one. -/
theorem Remnant.getElem? {α β : Type} {whole cut : α → β → Prop} {xs : List α} {ys : List β}
    (h : Remnant whole cut xs ys) {i : Nat} {x : α} (hx : xs[i]? = some x) :
    ∃ y, ys[i]? = some y ∧ (whole x y ∨ i + 1 = xs.length ∧ cut x y) := by
  induction h generalizing i with
  | nil => cases hx
  | @last x y ys hcut =>
    cases i with
    | zero =>
      cases hx
      exact ⟨y, rfl, .inr ⟨rfl, hcut⟩⟩
    | succ i => cases hx
  | @cons x y xs ys hwhole _ ih =>
    cases i with
    | zero =>
      cases hx
      exact ⟨y, rfl, .inl hwhole⟩
    | succ i =>
      obtain ⟨z, hz, h⟩ := ih hx
      exact ⟨z, hz, h.imp_right fun h => ⟨congrArg (· + 1) h.1, h.2⟩⟩

/-! ## Cut frames -/

/-- The frame `f` is read where the lines of `g` are cut: its function is a beginning of that of `g`, and if
it has a file, the function is whole, and the file and the line are what a beginning of the location says
that is cut at a colon. -/
def CutFrame (f g : Frame) : Prop :=
  f.function ≠ "" ∧ f.function.toList <+: g.function.toList ∧
    ∀ file, f.file = some file →
      f.function = g.function ∧ ∃ written line, g.file = some written ∧ Spells line f.line.toNat ∧
        file.toList ++ ':' :: line <+: written.toList ++ ':' :: digits g.line.toNat

section Frames

variable {g : Frame} (hg : TidyFrame g)

include hg

/-- What is read of a cut location is a beginning of it. -/
theorem beginning_of_cut_location {r : List Char} (hr : r <+: g.fileText.toList ++ ':' :: digits g.line.toNat)
    (hne : r ≠ []) : trim ('\t' :: r) <+: g.fileText.toList ++ ':' :: digits g.line.toNat := by
  have hstart : trimStart (g.fileText.toList ++ ':' :: digits g.line.toNat)
      = g.fileText.toList ++ ':' :: digits g.line.toNat := by
    rw [trimStart_append_of_not_blank _ _ (by decide), hg.trimStart_fileText]
  rw [trim_cons_of_blank r isBlank_tab]
  exact (trim_beginning hstart hr hne).1.trans hr

/-- A cut location that can be read is a cut frame. -/
theorem cutFrame_of_readLocation {r : List Char} {file? : Option String} {line : UInt32}
    (hr : r <+: g.fileText.toList ++ ':' :: digits g.line.toNat) (h : readLocation r = .ok (file?, line)) :
    CutFrame { function := g.function, file := file?, line } g := by
  refine ⟨hg.function_known, List.prefix_rfl, fun file hfile => ⟨rfl, ?_⟩⟩
  obtain ⟨text, number, ⟨hparts, -⟩, hknown, hspells⟩ := readLocation_eq_ok_iff.mp h
  have hne : r ≠ [] := by
    rintro rfl
    exact absurd hparts.symm (by simp [trim, trimStart, trimEnd, isBlank_tab])
  have hfront := hparts ▸ beginning_of_cut_location hg hr hne
  have htext : text ≠ unknownText.toList ∧ file.toList = text := by
    have hnamed : file? = some file := hfile
    rw [hknown, fileOf] at hnamed
    split at hnamed
    · cases hnamed
    · next hnot =>
      cases hnamed
      exact ⟨fun h => hnot (.inl h), String.toList_ofList⟩
  unfold Frame.fileText at hfront
  cases hwritten : g.file with
  | none =>
    -- in front of the only colon stands that the file is unknown
    rw [hwritten] at hfront
    exact absurd (eq_of_beginning_split (by decide) (not_mem_digits _ (by decide)) hfront) htext.1
  | some written =>
    rw [hwritten] at hfront
    exact ⟨written, number, rfl, hspells, htext.2 ▸ hfront⟩

/-- **A cut location** leaves the function without one, makes a cut frame, or takes the function along. -/
theorem readLines_cut_location (t : Snapshot) {q : List Char} (hq : q <+: locationLine g) (n : Nat) :
    (readLines n (some { thread := t, pending := some g.function.toList }) (lines q)).1 = [t] ∨
      ∃ f, CutFrame f g ∧
        (readLines n (some { thread := t, pending := some g.function.toList }) (lines q)).1
          = [Draft.addFrame t f] := by
  have hfunction : CutFrame { function := String.ofList g.function.toList } g := by
    rw [String.ofList_toList]
    exact ⟨hg.function_known, List.prefix_rfl, fun _ h => nomatch h⟩
  rcases List.prefix_cons_iff.mp hq with rfl | ⟨r, rfl, hr⟩
  · rw [lines_nil]
    exact .inr ⟨_, hfunction, rfl⟩
  · have hoffset : '\n' ∉ '\t' :: r := fun h => hg.readable.newline_not_mem_location (hq.subset h)
    rw [lines_of_newline_not_mem hoffset (List.cons_ne_nil _ r)]
    by_cases hblank : BlankLine ('\t' :: r)
    · rw [readLines_of_close (takeLine_of_blank _ hblank)]
      exact .inr ⟨_, hfunction, rfl⟩
    · have htake := takeLine_location { thread := t, pending := some g.function.toList } ⟨hblank, r, rfl⟩
      cases hread : readLocation r with
      | error fault =>
        rw [takeLocation_error rfl hread] at htake
        rw [readLines_of_refuse htake]
        exact .inl rfl
      | ok p =>
        obtain ⟨file?, line⟩ := p
        rw [takeLocation_ok rfl hread, String.ofList_toList] at htake
        rw [readLines_of_keep htake]
        exact .inr ⟨_, cutFrame_of_readLocation hg hr hread, rfl⟩

variable {t : Snapshot} (hname : t.stack = [] → ¬nameLead <+: g.function.toList)

include hname

/-- **A cut function** is a shorter one, or none. -/
theorem readLines_cut_function {p : List Char} (hp : p <+: g.function.toList) (n : Nat) :
    (readLines n (some { thread := t }) (lines p)).1 = [t] ∨
      ∃ f, CutFrame f g ∧ (readLines n (some { thread := t }) (lines p)).1 = [Draft.addFrame t f] := by
  by_cases hne : p = []
  · rw [hne, lines_nil]
    exact .inl rfl
  · have htake := takeLine_function (hg.plainLine_beginning hp hne) fun hs hlead => hname hs (hlead.trans hp)
    rw [lines_of_newline_not_mem (fun h => hg.function_oneLine (hp.subset h)) hne, readLines_of_keep htake]
    obtain ⟨hpre, hkept⟩ := trim_beginning (trimStart_eq_self hg.function_trimmed) hp hne
    refine .inr ⟨{ function := String.ofList (trim p) }, ⟨?_, ?_, fun _ h => nomatch h⟩, rfl⟩
    · exact fun h => hkept (by simpa using h)
    · rw [String.toList_ofList]
      exact hpre.trans hp

/-- A frame whose lines are cut is left out or is a cut frame. -/
theorem readLines_cut_frame {p : List Char} (hp : p <+: g.functionText.toList ++ '\n' :: locationLine g)
    (n : Nat) :
    (readLines n (some { thread := t }) (lines p)).1 = [t] ∨
      ∃ f, CutFrame f g ∧ (readLines n (some { thread := t }) (lines p)).1 = [Draft.addFrame t f] := by
  rw [hg.functionText_eq] at hp
  rcases prefix_cons_cases hp with hp | ⟨q, rfl, hq⟩
  · exact readLines_cut_function hg hname hp n
  · have hplain : PlainLine g.function.toList :=
      hg.readable.function_plain hg.function_known
    have htake := takeLine_function hplain hname
    rw [hg.function_trimmed] at htake
    rw [lines_append_newline_of_not_cr hg.function_oneLine (getLast?_ne_cr hg.function_trimmed),
      readLines_of_keep htake]
    exact readLines_cut_location hg t hq (n + 1)

end Frames

/-- **Frames that were cut** are read onto the stack up to the cut one. -/
theorem readLines_cut_frames (frames : List Frame) {t : Snapshot} (hframes : ∀ f ∈ frames, TidyFrame f)
    (hname : t.stack = [] → ∀ f, frames.head? = some f → ¬nameLead <+: f.function.toList) {p : List Char}
    (hp : p <+: frames.flatMap frameLines) (n : Nat) :
    ∃ fs, Remnant SameFrame CutFrame fs frames ∧
      (readLines n (some { thread := t }) (lines p)).1 = [{ t with stack := t.stack ++ fs }] := by
  induction frames generalizing t n p with
  | nil =>
    obtain rfl : p = [] := List.prefix_nil.mp hp
    refine ⟨[], .nil, ?_⟩
    rw [lines_nil, List.append_nil]
    rfl
  | cons g frames ih =>
    have hg := hframes g List.mem_cons_self
    have hfirst : t.stack = [] → ¬nameLead <+: g.function.toList := fun hs => hname hs g rfl
    have hlines : (g :: frames).flatMap frameLines
        = (g.functionText.toList ++ '\n' :: locationLine g) ++ '\n' :: frames.flatMap frameLines := by
      rw [List.flatMap_cons, frameLines_append, List.append_assoc, List.cons_append]
    rw [hlines] at hp
    rcases prefix_cons_cases hp with hp | ⟨q, rfl, hq⟩
    · rcases readLines_cut_frame hg hfirst hp n with h | ⟨f, hf, h⟩
      · exact ⟨[], .nil, by rw [h, List.append_nil]⟩
      · exact ⟨[f], .last hf, h⟩
    · have hfirst' : t.stack = [] → ¬nameLead <+: g.functionText.toList := by
        rw [hg.functionText_eq]
        exact hfirst
      obtain ⟨fs, hfs, hread⟩ := ih (t := Draft.addFrame t (readBackFrame g))
        (fun f hf => hframes f (List.mem_cons_of_mem g hf)) (fun hs => absurd hs (by simp [Draft.addFrame]))
        hq (n + 2)
      refine ⟨readBackFrame g :: fs, .cons hg.same_readBackFrame hfs, ?_⟩
      rw [List.append_assoc, List.cons_append, ← frameLines_append, readLines_frame hg.readable hfirst',
        hread]
      simp only [Draft.addFrame, List.append_assoc, List.singleton_append]

end Vigil.Dump
