import Vigil.Proofs.Dump.CutFrames
import Vigil.Proofs.Text.Clipping
import Mathlib.Data.List.Infix

/-!
# What a cut dump tells of the frames

A dump that is cut back to its budget ends anywhere, in a frame or in front of the frames: a label of a name
that was cut may be read as a function that nobody wrote.  Whatever is read otherwise than it was written is
the last frame of the last thread.  Proved for dumps whose texts carry no blanks at their ends:

* `readLines_cut_name`, `readLines_cut_inner` — what is read where the name is cut, and where anything behind
  the header is;
* `readLines_cut_block`, `readLines_cut_blocks` — what is left of a block and of blocks that were cut
  (`FromCutBlock`, `Remaining`);
* `cut_frames_in_place` — every frame that is read of a cut dump is the one that was written at its place,
  but for the last frame of the last thread, which may be cut or stem from a label;
* `cut_frames_not_all_true` — and for that one it can be otherwise.
-/

namespace Vigil.Dump

open Text

/-! ## Cut blocks -/

/-- The frame stems from a cut label in front of a name. -/
def LabelFrame (f : Frame) : Prop := f.file = none ∧ f.function ≠ "" ∧ f.function.toList <+: "name:".toList

/-- The thread is read where the block is cut. -/
def FromCutBlock (t : Snapshot) (b : ThreadInfo × List Frame) : Prop :=
  Remnant SameFrame CutFrame t.stack b.2 ∨ b.1.name ≠ none ∧ ∃ f, LabelFrame f ∧ t.stack = [f]

/-- A line alone opens a thread without frames at most. -/
theorem readLines_single (l : List Char) (n : Nat) :
    (readLines n none [l]).1 = [] ∨ ∃ t : Snapshot, t.stack = [] ∧ (readLines n none [l]).1 = [t] := by
  rcases line_cases l with hb | ⟨r, rfl⟩ | hl | hl
  · rw [readLines_of_close (takeLine_of_blank none hb)]
    exact .inl rfl
  · cases hr : readHeader r with
    | error fault =>
      rw [readLines_of_refuse (takeLine_header_error none hr)]
      exact .inl rfl
    | ok t =>
      rw [readLines_of_openNext (takeLine_header none hr)]
      exact .inr ⟨t, (readHeader_eq_ok_iff.mp hr).2.2, rfl⟩
  · rw [readLines_of_refuse (takeLine_none hl.1 fun hh => hh.not_location hl)]
    exact .inl rfl
  · rw [readLines_of_refuse (takeLine_none hl.1 hl.2.1)]
    exact .inl rfl

/-- A cut label is read as a function. -/
theorem readLines_cut_label {t : Snapshot} (ht : t.stack = []) {q : List Char} (hq : q <+: "name:".toList)
    (hne : q ≠ []) (n : Nat) :
    ∃ f, LabelFrame f ∧ (readLines n (some { thread := t }) (lines q)).1 = [{ t with stack := [f] }] := by
  have hlooks : ∀ q ∈ "name:".toList.inits, q ≠ [] →
      PlainLine q ∧ trim q = q ∧ '\n' ∉ q ∧ ¬nameLead <+: q := by decide
  obtain ⟨hplain, htrim, hline, hlead⟩ := hlooks q ((List.mem_inits q _).mpr hq) hne
  have htake := takeLine_function hplain (t := t) fun _ => hlead
  rw [htrim] at htake
  refine ⟨{ function := String.ofList q }, ⟨rfl, fun h => hne (by simpa using h), ?_⟩, ?_⟩
  · rw [String.toList_ofList]
    exact hq
  · rw [lines_of_newline_not_mem hline hne, readLines_of_keep htake]
    show [{ t with stack := t.stack ++ [_] }] = _
    rw [ht]
    rfl

/-- **A cut name** is a shorter one, or its label is read as a function. -/
theorem readLines_cut_name {t : Snapshot} (ht : t.stack = []) (name : String) {q : List Char}
    (hq : q <+: nameLead ++ oneLine name.toList) (n : Nat) :
    ∃ t' : Snapshot, (readLines n (some { thread := t }) (lines q)).1 = [t'] ∧
      (t'.stack = [] ∨ ∃ f, LabelFrame f ∧ t'.stack = [f]) := by
  by_cases hne : q = []
  · rw [hne, lines_nil]
    exact ⟨t, rfl, .inl ht⟩
  · have hline : '\n' ∉ q := by
      intro h
      rcases List.mem_append.mp (hq.subset h) with h | h
      · exact absurd h (by decide)
      · exact (mem_oneLine h).2 rfl
    have hlead : ∀ r, nameLead ++ r = "name:".toList ++ ' ' :: r := fun _ => rfl
    rw [hlead] at hq
    rcases prefix_cons_cases hq with hlabel | ⟨r, rfl, -⟩
    · obtain ⟨f, hf, hread⟩ := readLines_cut_label ht hlabel hne n
      exact ⟨_, hread, .inr ⟨f, hf, rfl⟩⟩
    · rw [lines_of_newline_not_mem hline hne, ← hlead, readLines_of_keep (takeLine_name ht r)]
      exact ⟨_, rfl, .inl ht⟩

/-- What is left of a block whose header is whole: its thread, which was cut. -/
theorem readLines_cut_inner {info : ThreadInfo} {frames : List Frame} (hb : TidyBlock (info, frames))
    {q : List Char} (hq : q <+: nameLine info.name ++ frames.flatMap frameLines) (n : Nat) :
    ∃ t, FromCutBlock t (info, frames) ∧
      (readLines n (some { thread := opened info }) (lines q)).1 = [t] := by
  cases hname : info.name with
  | none =>
    rw [hname] at hq
    obtain ⟨fs, hfs, hread⟩ := readLines_cut_frames frames hb.frames (fun _ => hb.first) hq n
    exact ⟨_, .inl hfs, hread⟩
  | some name =>
    have hlines : nameLine (some name) ++ frames.flatMap frameLines
        = (nameLead ++ oneLine name.toList) ++ '\n' :: frames.flatMap frameLines := by
      simp only [nameLine, List.append_assoc, List.singleton_append]
    rw [hname, hlines] at hq
    rcases prefix_cons_cases hq with hq | ⟨r, rfl, hr⟩
    · obtain ⟨t, hread, ht⟩ := readLines_cut_name (t := opened info) rfl name hq n
      refine ⟨t, ?_, hread⟩
      rcases ht with ht | hlabel
      · exact .inl (ht ▸ .nil)
      · exact .inr ⟨by simp [hname], hlabel⟩
    · have hnamed : lines ((nameLead ++ oneLine name.toList) ++ '\n' :: r)
          = (nameLead ++ oneLine name.toList) :: lines r := by
        rw [← lines_nameLine, nameLine, List.append_assoc _ ['\n'], List.singleton_append]
      rw [hnamed, readLines_of_keep (takeLine_name rfl _)]
      obtain ⟨fs, hfs, hread⟩ := readLines_cut_frames frames hb.frames (fun _ => hb.first) hr (n + 1)
      exact ⟨_, .inl hfs, hread⟩

/-- **A block that was cut** is read as a thread that was cut, or not at all. -/
theorem readLines_cut_block {b : ThreadInfo × List Frame} (hb : TidyBlock b) {p : List Char}
    (hp : p <+: block b.1 b.2) (n : Nat) :
    (readLines n none (lines p)).1 = [] ∨
      ∃ t, FromCutBlock t b ∧ (readLines n none (lines p)).1 = [t] := by
  obtain ⟨info, frames⟩ := b
  have hblock : block info frames
      = header info ++ '\n' :: (nameLine info.name ++ frames.flatMap frameLines) := by
    simp only [block, headerLine, List.append_assoc, List.cons_append, List.nil_append]
  rw [hblock] at hp
  rcases prefix_cons_cases hp with hp | ⟨q, rfl, hq⟩
  · by_cases hne : p = []
    · rw [hne, lines_nil]
      exact .inl rfl
    · rw [lines_of_newline_not_mem (fun h => newline_not_mem_header info (hp.subset h)) hne]
      refine (readLines_single p n).imp_right ?_
      rintro ⟨t, ht, hread⟩
      exact ⟨t, .inl (ht ▸ .nil), hread⟩
  · have hlines : lines (header info ++ '\n' :: q) = header info :: lines q := by
      rw [← lines_headerLine, headerLine, List.append_assoc, List.singleton_append]
    rw [hlines, readLines_of_openNext (takeLine_writtenHeader none info)]
    exact .inr (readLines_cut_inner hb hq (n + 1))

/-- What is left of blocks: threads that were read back, and then perhaps a cut one. -/
abbrev Remaining : List Snapshot → List (ThreadInfo × List Frame) → Prop :=
  Remnant (fun t b => t = readBack b) FromCutBlock

section Blocks

variable {b : ThreadInfo × List Frame} {blocks : List (ThreadInfo × List Frame)}

/-- What is left of a block and others behind it, when it is known what is left of the others. -/
theorem readLines_cut_cons (hb : TidyBlock b)
    (hrest : ∀ p, p <+: (blocks.flatMap fun b => '\n' :: block b.1 b.2) → ∀ n t,
      ∃ ts, Remaining ts blocks ∧ (readLines n (some { thread := t }) (lines p)).1 = t :: ts)
    {p : List Char} (hp : p <+: block b.1 b.2 ++ blocks.flatMap fun b => '\n' :: block b.1 b.2) (n : Nat) :
    Remaining (readLines n none (lines p)).1 (b :: blocks) := by
  rcases List.prefix_or_prefix_of_prefix hp (List.prefix_append _ _) with hcut | ⟨q, rfl⟩
  · rcases readLines_cut_block hb hcut n with hread | ⟨t, ht, hread⟩
    · rw [hread]
      exact .nil
    · rw [hread]
      exact .last ht
  · have hq := (List.prefix_append_right_inj _).mp hp
    obtain ⟨m, hm⟩ := readLines_block hb.readable n none q
    obtain ⟨ts, hts, hread⟩ := hrest q hq m (readBack b)
    rw [hm, hread]
    exact .cons rfl hts

/-- Blocks behind an open thread: it is closed, and then what is left of them follows. -/
theorem readLines_cut_tail (hblocks : ∀ b ∈ blocks, TidyBlock b) (p : List Char)
    (hp : p <+: blocks.flatMap fun b => '\n' :: block b.1 b.2) (n : Nat) (t : Snapshot) :
    ∃ ts, Remaining ts blocks ∧ (readLines n (some { thread := t }) (lines p)).1 = t :: ts := by
  induction blocks generalizing p n t with
  | nil =>
    obtain rfl : p = [] := List.prefix_nil.mp hp
    rw [lines_nil]
    exact ⟨[], .nil, rfl⟩
  | cons b blocks ih =>
    rw [List.flatMap_cons, List.cons_append] at hp
    rcases List.prefix_cons_iff.mp hp with rfl | ⟨q, rfl, hq⟩
    · rw [lines_nil]
      exact ⟨[], .nil, rfl⟩
    · have hclose : takeLine (some { thread := t }) [] = .close := takeLine_of_blank _ rfl
      have hleft := readLines_cut_cons (hblocks b List.mem_cons_self)
        (ih fun c hc => hblocks c (List.mem_cons_of_mem b hc)) hq (n + 1)
      rw [lines_newline, readLines_of_close hclose]
      exact ⟨_, hleft, rfl⟩

/-- **Blocks that were cut**: the first threads are read back, and the last one may be cut. -/
theorem readLines_cut_blocks (hblocks : ∀ b ∈ blocks, TidyBlock b) {p : List Char}
    (hp : p <+: writeBlocks blocks) : Remaining (readPartial p).1 blocks := by
  cases blocks with
  | nil =>
    obtain rfl : p = [] := List.prefix_nil.mp hp
    exact .nil
  | cons b blocks =>
    rw [writeBlocks_cons] at hp
    exact readLines_cut_cons (hblocks b List.mem_cons_self)
      (readLines_cut_tail fun c hc => hblocks c (List.mem_cons_of_mem b hc)) hp 1

end Blocks

/-! ## Cut dumps -/

/-- The frames of a thread that was read back are the ones that were written. -/
theorem sameFrame_of_readBack {b : ThreadInfo × List Frame} (hb : TidyBlock b) {j : Nat} {f : Frame}
    (hf : (readBack b).stack[j]? = some f) : ∃ g, b.2[j]? = some g ∧ SameFrame f g := by
  have hmap : (b.2.map readBackFrame)[j]? = some f := hf
  rw [List.getElem?_map, Option.map_eq_some_iff] at hmap
  obtain ⟨g, hg, rfl⟩ := hmap
  exact ⟨g, hg, (hb.frames g (List.mem_of_getElem? hg)).same_readBackFrame⟩

/-- **Every frame of a cut dump stands at its place.**  Of a dump of tidy blocks that is cut back to any
number of bytes, each thread that is read stands at the place of its block, and each of its frames is the
one at its place in the block, with the same function, file and line.  Only the last frame of the last
thread can be otherwise: it is a frame whose lines were cut, or it stems from the label of a name. -/
theorem cut_frames_in_place (blocks : List (ThreadInfo × List Frame)) (hblocks : ∀ b ∈ blocks, TidyBlock b)
    (capacity : Nat) :
    let ts := (readPartial (clip capacity (writeBlocks blocks))).1
    ∀ k t, ts[k]? = some t → ∃ b, blocks[k]? = some b ∧
      ∀ j f, t.stack[j]? = some f →
        (∃ g, b.2[j]? = some g ∧ SameFrame f g) ∨
          k + 1 = ts.length ∧ j + 1 = t.stack.length ∧
            ((∃ g, b.2[j]? = some g ∧ CutFrame f g) ∨ j = 0 ∧ b.1.name ≠ none ∧ LabelFrame f) := by
  intro ts k t hk
  have hpart := clip_prefix capacity (writeBlocks blocks)
  have hleft : Remaining ts blocks := readLines_cut_blocks hblocks hpart
  obtain ⟨b, hb, hthread⟩ := hleft.getElem? hk
  have htidy : TidyBlock b := hblocks b (List.mem_of_getElem? hb)
  refine ⟨b, hb, fun j f hf => ?_⟩
  rcases hthread with rfl | ⟨hlast, hframes | ⟨hname, label, hlabel, hstack⟩⟩
  · exact .inl (sameFrame_of_readBack htidy hf)
  · obtain ⟨g, hg, hsame | ⟨hend, hcut⟩⟩ := hframes.getElem? hf
    · exact .inl ⟨g, hg, hsame⟩
    · exact .inr ⟨hlast, hend, .inl ⟨g, hg, hcut⟩⟩
  · rw [hstack] at hf ⊢
    obtain ⟨rfl, rfl⟩ : j = 0 ∧ label = f := by
      cases j with
      | zero => exact ⟨rfl, Option.some.inj hf⟩
      | succ j => cases hf
    exact .inr ⟨hlast, rfl, .inr ⟨rfl, hname, hlabel⟩⟩

/-- Two threads, and a file with colons behind which the dump is cut: what stands in front of the first of
them is taken for the file. -/
theorem cut_frames_in_place_of_two :
    let waiting : Frame := { function := "wait", file := some "C:12:x", line := 42 }
    let blocks : List (ThreadInfo × List Frame) :=
      [(⟨7, .running, some "main"⟩, [{ function := "run", file := some "run.rs", line := 9 }]),
        (⟨8, .sleeping, none⟩, [waiting])]
    let ts := (readPartial (clip 112 (writeBlocks blocks))).1
    let cut : Frame := { function := "wait", file := some "C", line := 1 }
    (∀ b ∈ blocks, TidyBlock b) ∧
      ts[1]? = some { id := 8, state := "sleeping", locked := true, stack := [cut] } ∧
      CutFrame cut waiting := by
  intro waiting blocks ts cut
  have htidy : ∀ b ∈ blocks, TidyBlock b := by decide
  have hthread : ts[1]? = some { id := 8, state := "sleeping", locked := true, stack := [cut] } := by decide
  refine ⟨htidy, hthread, ?_⟩
  obtain ⟨b, hb, hframes⟩ := cut_frames_in_place blocks htidy 112 1 _ hthread
  cases hb
  rcases hframes 0 cut rfl with ⟨g, hg, hsame⟩ | ⟨-, -, ⟨g, hg, hcut⟩ | ⟨-, hname, -⟩⟩
  · cases hg
    exact absurd hsame.2.1 (by decide)
  · cases hg
    exact hcut
  · exact absurd rfl hname

/-- Every frame is a beginning of the frame at its place, and all of it if it has a file. -/
def FramesTrue (blocks : List (ThreadInfo × List Frame)) (ts : List Snapshot) : Prop :=
  ∀ (k : Nat) (t : Snapshot), ts[k]? = some t → ∃ b : ThreadInfo × List Frame, blocks[k]? = some b ∧
    ∀ (j : Nat) (f : Frame), t.stack[j]? = some f → ∃ g : Frame, b.2[j]? = some g ∧
      f.function ≠ "" ∧ f.function.toList <+: g.function.toList ∧ (f.file ≠ none → SameFrame f g)

theorem FramesTrue.head {b : ThreadInfo × List Frame} {blocks : List (ThreadInfo × List Frame)} {t : Snapshot}
    {f : Frame} {ts : List Snapshot} {fs : List Frame} (h : FramesTrue (b :: blocks) (t :: ts))
    (ht : t.stack = f :: fs) :
    ∃ g, b.2.head? = some g ∧ f.function.toList <+: g.function.toList ∧ (f.file ≠ none → SameFrame f g) := by
  obtain ⟨b', hb, hframes⟩ := h 0 t rfl
  cases hb
  obtain ⟨g, hg, -, hfunction, hfile⟩ := hframes 0 f (by rw [ht]; rfl)
  exact ⟨g, by rw [List.head?_eq_getElem?, hg], hfunction, hfile⟩

/-- A label that is cut, a line number that is cut, and a file with colons that is cut: in each case the frame
that is read is not what was written. -/
theorem cut_frames_not_all_true :
    let label : List (ThreadInfo × List Frame) := [(⟨7, .running, some "main"⟩, [])]
    let number : List (ThreadInfo × List Frame) :=
      [(⟨7, .running, none⟩, [{ function := "run", file := some "main.rs", line := 42 }])]
    let colons : List (ThreadInfo × List Frame) :=
      [(⟨7, .running, none⟩, [{ function := "run", file := some "C:12:x", line := 42 }])]
    (∀ blocks ∈ [label, number, colons], ∀ b ∈ blocks, TidyBlock b) ∧
      ¬FramesTrue label (readPartial (clip 41 (writeBlocks label))).1 ∧
      ¬FramesTrue number (readPartial (clip 52 (writeBlocks number))).1 ∧
      ¬FramesTrue colons (readPartial (clip 46 (writeBlocks colons))).1 := by
  intro label number colons
  have hlabel : (readPartial (clip 41 (writeBlocks label))).1
      = [{ id := 7, state := "running", locked := true, stack := [{ function := "nam" }] }] := by decide
  have hnumber : (readPartial (clip 52 (writeBlocks number))).1
      = [{ id := 7, state := "running", locked := true,
           stack := [{ function := "run", file := some "main.rs", line := 4 }] }] := by decide
  have hcolons : (readPartial (clip 46 (writeBlocks colons))).1
      = [{ id := 7, state := "running", locked := true,
           stack := [{ function := "run", file := some "C", line := 1 }] }] := by decide
  rw [hlabel, hnumber, hcolons]
  refine ⟨by decide, fun h => ?_, fun h => ?_, fun h => ?_⟩
  · obtain ⟨g, hg, -⟩ := h.head rfl
    cases hg
  · obtain ⟨g, hg, -, hsame⟩ := h.head rfl
    cases hg
    exact absurd (hsame (by decide)).2.2 (by decide)
  · obtain ⟨g, hg, -, hsame⟩ := h.head rfl
    cases hg
    exact absurd (hsame (by decide)).2.1 (by decide)

end Vigil.Dump
