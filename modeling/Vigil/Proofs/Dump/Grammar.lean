import Vigil.Proofs.Dump.Layout
import Vigil.Proofs.Dump.Taking
import Mathlib.Data.List.Forall2

/-!
# The reader accepts its grammar

The reader goes line by line with an open thread; the layout speaks of lines and the blocks they lie in.
The two are held together by an invariant: the thread that is open tells what its block holds so far
(`Drafted`, `Reads`).  Proved:

* `Reads.taken` — one line keeps the invariant if the line fits, and is refused if it does not;
* `readLines_eq_none_iff` — so lines are read without a fault exactly when each of them fits;
* `readLines_tells` — and then the threads are those that the blocks tell of;
* `read_iff_grammatical` — both, for a whole text.
-/

namespace Vigil.Dump

open Text

/-! ## What a body tells, a line at a time -/

theorem Contents.hasFunction_iff {body names : List (List Char)} {entries : List Entry}
    (h : Contents body names entries) : HasFunction body ↔ entries ≠ [] := by
  induction h with
  | nil => exact ⟨False.elim, fun h => absurd rfl h⟩
  | name hc hn ih =>
    refine Iff.trans ⟨fun h => ?_, .inl⟩ ih
    exact absurd h (hasFunction_of_name hn)
  | function hc hf ih => exact ⟨fun _ => by simp, fun _ => hf.hasFunction⟩
  | location hc hf hl ih => exact ⟨fun _ => by simp, fun _ => .inl hf.hasFunction⟩

section

variable {h : List Char} {body : List (List Char)} {t : Snapshot}

theorem Tells.opened (hh : HeaderTells h t) (hname : t.name = none) (hstack : t.stack = []) :
    Tells h [] t := by
  refine ⟨hh, [], [], .nil, hname, ?_⟩
  rw [hstack]
  exact .nil

theorem Tells.stack_eq_nil_iff (ht : Tells h body t) : t.stack = [] ↔ ¬HasFunction body := by
  obtain ⟨-, names, entries, hc, -, hframes⟩ := ht
  have hlength := hframes.length_eq
  rw [hc.hasFunction_iff, not_not, ← List.length_eq_zero_iff, ← List.length_eq_zero_iff, hlength]

theorem Tells.name {name : List Char} (ht : Tells h body t) (hn : NameLine body (nameLead ++ name)) :
    Tells h ((nameLead ++ name) :: body) { t with name := some (String.ofList name) } := by
  obtain ⟨hh, names, entries, hc, hname, hframes⟩ := ht
  refine ⟨hh, names ++ [name], entries, hc.name hn, ?_, hframes⟩
  rw [List.getLast?_concat]
  rfl

/-- One more frame tells of one more entry. -/
theorem forall₂_addFrame {entries : List Entry} {e : Entry} {f : Frame}
    (hframes : List.Forall₂ FrameTells entries t.stack) (hf : FrameTells e f) :
    List.Forall₂ FrameTells (entries ++ [e]) (Draft.addFrame t f).stack :=
  List.rel_append hframes (.cons hf .nil)

theorem Tells.function {f : List Char} (ht : Tells h body t) (hf : FunctionLine body f) :
    Tells h (f :: body) (Draft.addFrame t { function := String.ofList (trim f) }) := by
  obtain ⟨hh, names, entries, hc, hname, hframes⟩ := ht
  exact ⟨hh, names, _, hc.function hf, hname, forall₂_addFrame hframes ⟨rfl, rfl, rfl, rfl⟩⟩

theorem Tells.location {f l : List Char} {file : Option String} {line : UInt32}
    (ht : Tells h body t) (hf : FunctionLine body f) (hl : LocationLine l)
    (hloc : LocationTells l file line) :
    Tells h (l :: f :: body)
      (Draft.addFrame t { function := String.ofList (trim f), file, line }) := by
  obtain ⟨hh, names, entries, hc, hname, hframes⟩ := ht
  exact ⟨hh, names, _, hc.location hf hl, hname, forall₂_addFrame hframes ⟨rfl, rfl, hloc⟩⟩

end

/-! ## The invariant -/

/-- An open thread tells what its block holds so far.  A function waits exactly when it is the last
line. -/
inductive Drafted (h : List Char) : List (List Char) → Draft → Prop
  | resting {body : List (List Char)} {t : Snapshot} :
      Tells h body t → (∀ f front, body = f :: front → ¬FunctionLine front f) →
      Drafted h body { thread := t }
  | waiting {body : List (List Char)} {f : List Char} {t : Snapshot} :
      Tells h body t → FunctionLine body f →
      Drafted h (f :: body) { thread := t, pending := some (trim f) }

/-- Behind the lines `before`, a thread is open exactly when a block is, and tells what the block holds
so far. -/
inductive Reads (before : List (List Char)) :
    Option (List Char × List (List Char)) → Option Draft → Prop
  | outside : (∀ h body, ¬OpenBlock before h body) → Reads before none none
  | inside {h : List Char} {body : List (List Char)} {d : Draft} :
      OpenBlock before h body → Drafted h body d → Reads before (some (h, body)) (some d)

section

variable {h : List Char} {body : List (List Char)} {d : Draft}

theorem Drafted.opened {t : Snapshot} (hh : HeaderTells h t) (hname : t.name = none)
    (hstack : t.stack = []) : Drafted h [] { thread := t } :=
  .resting (.opened hh hname hstack) fun _ _ => (nomatch ·)

/-- A thread that is closed tells all that its block holds. -/
theorem Drafted.close (hd : Drafted h body d) : Tells h body d.close := by
  cases hd with
  | resting ht _ => exact ht
  | waiting ht hf => exact ht.function hf

/-- A plain line is a name to the reader where it is one in the block, and else a function. -/
theorem Drafted.plain {l : List Char} (hd : Drafted h body d) (hl : PlainLine l) :
    Drafted h (l :: body) (takePlain d l) := by
  cases hd with
  | @resting _ t ht _ =>
    by_cases hn : nameLead <+: l ∧ ¬HasFunction body
    · obtain ⟨⟨name, rfl⟩, hnone⟩ := hn
      have hname : NameLine body (nameLead ++ name) := ⟨hl, ⟨name, rfl⟩, hnone⟩
      rw [takePlain_name t (ht.stack_eq_nil_iff.mpr hnone)]
      refine .resting (ht.name hname) ?_
      intro f front heq hf
      obtain ⟨rfl, rfl⟩ := List.cons.inj heq
      exact hf.2 hname.2
    · have hf : FunctionLine body l := ⟨hl, hn⟩
      have hnot : t.stack ≠ [] ∨ ¬nameLead <+: l := by
        by_cases hlead : nameLead <+: l
        · exact .inl fun hs => hn ⟨hlead, ht.stack_eq_nil_iff.mp hs⟩
        · exact .inr hlead
      rw [takePlain_function (.inr hnot)]
      exact .waiting ht hf
  | @waiting body f t ht hf =>
    have hl' : FunctionLine (f :: body) l := ⟨hl, fun hn => hn.2 hf.hasFunction⟩
    rw [takePlain_function (.inl (by simp))]
    exact .waiting (ht.function hf) hl'

/-- A location is read exactly when the line before it is a function line and it is valid. -/
theorem Drafted.location {r : List Char} (hd : Drafted h body d) (hl : LocationLine ('\t' :: r)) :
    (∃ d', takeLocation d r = .keep d' ∧ Drafted h (('\t' :: r) :: body) d' ∧
      ValidLocation ('\t' :: r) ∧ ∃ f front, body = f :: front ∧ FunctionLine front f) ∨
    (∃ fault left, takeLocation d r = .refuse fault left) ∧
      ¬(ValidLocation ('\t' :: r) ∧ ∃ f front, body = f :: front ∧ FunctionLine front f) := by
  cases hd with
  | resting ht hrest =>
    refine .inr ⟨⟨_, _, takeLocation_no_function rfl r⟩, ?_⟩
    intro h
    obtain ⟨-, f, front, heq, hf⟩ := h
    exact hrest f front heq hf
  | @waiting body f t ht hf =>
    cases hr : readLocation r with
    | error fault =>
      refine .inr ⟨⟨_, _, takeLocation_error rfl hr⟩, ?_⟩
      intro h
      obtain ⟨hvalid, -⟩ := h
      obtain ⟨file, line, hok⟩ := exists_readLocation_iff.mpr hvalid
      rw [hr] at hok
      cases hok
    | ok p =>
      obtain ⟨file, line⟩ := p
      refine .inl ⟨_, takeLocation_ok rfl hr, ?_, exists_readLocation_iff.mp ⟨file, line, hr⟩,
        f, body, rfl, hf⟩
      refine .resting (ht.location hf hl (readLocation_eq_ok_iff.mp hr)) ?_
      intro f' front heq hf'
      obtain ⟨rfl, rfl⟩ := List.cons.inj heq
      exact hf'.not_location hl

end

/-! ## One line -/

/-- What a line may do behind the lines `before`, when the given block is open: it is refused if it does
not fit there, and else does what its kind says. -/
inductive Taken (before : List (List Char)) (block : Option (List Char × List (List Char)))
    (l : List Char) : Step → Prop
  | refused {fault : DumpFault} {left : Option Draft} :
      ¬Fits before l → Taken before block l (.refuse fault left)
  | closed : Fits before l → BlankLine l → Taken before block l .close
  | opened {d : Draft} :
      Fits before l → HeaderLine l → Drafted l [] d → Taken before block l (.openNext d)
  | kept {h : List Char} {body : List (List Char)} {d : Draft} :
      Fits before l → InnerLine l → block = some (h, body) → OpenBlock before h body →
      Drafted h (l :: body) d → Taken before block l (.keep d)

section

variable {before : List (List Char)} {l : List Char}

theorem fits_of_blank (hb : BlankLine l) : Fits before l where
  header hh := absurd hb hh.not_blank
  inner hl := by
    rcases hl with hl | hl
    · exact absurd hb hl.1
    · exact absurd hb hl.1
  location hl := absurd hb hl.1

theorem fits_header_iff (hh : HeaderLine l) : Fits before l ↔ ValidHeader l := by
  refine ⟨fun hfits => hfits.header hh, fun hvalid => ⟨fun _ => hvalid, ?_, ?_⟩⟩
  · intro h
    rcases h with hl | hl
    · exact absurd hh hl.2.1
    · exact absurd hl hh.not_location
  · intro hl
    exact absurd hl hh.not_location

theorem fits_plain_iff (hl : PlainLine l) : Fits before l ↔ ∃ h body, OpenBlock before h body := by
  refine ⟨fun hfits => hfits.inner (.inl hl), fun ho => ⟨?_, fun _ => ho, ?_⟩⟩
  · intro hh
    exact absurd hh hl.2.1
  · intro hloc
    exact absurd hloc hl.2.2

/-- In an open block a location fits exactly when it is valid and directly behind a function line. -/
theorem fits_location_iff {h : List Char} {body : List (List Char)} (ho : OpenBlock before h body)
    (hl : LocationLine l) :
    Fits before l ↔
      ValidLocation l ∧ ∃ f front, body = f :: front ∧ FunctionLine front f := by
  constructor
  · intro hfits
    obtain ⟨hvalid, f, front, h', body', rfl, ho', hf⟩ := hfits.location hl
    have hinner : InnerLine f := innerLine_iff.mpr (.inl hf.1)
    exact ⟨hvalid, f, body', (ho.unique (ho'.cons hinner)).2, hf⟩
  · intro h
    obtain ⟨hvalid, f, body', rfl, hf⟩ := h
    refine ⟨fun hh => absurd hl hh.not_location, fun _ => ⟨h, _, ho⟩, fun _ => ⟨hvalid, ?_⟩⟩
    obtain ⟨front, rfl, hh, hbody⟩ := ho
    refine ⟨f, body' ++ h :: front, h, body', rfl, ⟨front, rfl, hh, ?_⟩, hf⟩
    exact fun x hx => hbody x (List.mem_cons_of_mem _ hx)

/-- **One line: it is refused if it does not fit, and else the open thread stays in step with the
block.** -/
theorem Reads.taken {block : Option (List Char × List (List Char))} {current : Option Draft}
    (hr : Reads before block current) (l : List Char) :
    Taken before block l (takeLine current l) := by
  rcases line_cases l with hb | hh | hl | hl
  · rw [takeLine_of_blank current hb]
    exact .closed (fits_of_blank hb) hb
  · obtain ⟨r, rfl⟩ := hh
    have hh : HeaderLine (headerLead ++ r) := ⟨r, rfl⟩
    cases hread : readHeader r with
    | error fault =>
      rw [takeLine_header_error current hread]
      refine .refused fun hfits => ?_
      obtain ⟨t, ht⟩ := exists_readHeader_iff.mpr ((fits_header_iff hh).mp hfits)
      rw [hread] at ht
      cases ht
    | ok t =>
      rw [takeLine_header current hread]
      obtain ⟨htells, hname, hstack⟩ := readHeader_eq_ok_iff.mp hread
      exact .opened ((fits_header_iff hh).mpr (exists_readHeader_iff.mp ⟨t, hread⟩)) hh
        (.opened htells hname hstack)
  · have hin : InnerLine l := innerLine_iff.mpr (.inr hl)
    cases hr with
    | outside hno =>
      rw [takeLine_none hin.2 hin.1]
      refine .refused fun hfits => ?_
      obtain ⟨h, body, ho⟩ := hfits.inner (.inr hl)
      exact hno h body ho
    | inside ho hd =>
      obtain ⟨r, rfl⟩ := hl.exists_eq
      rw [takeLine_location _ hl]
      rcases hd.location hl with ⟨d', hkeep, hd', hfits⟩ | ⟨⟨fault, left, hrefuse⟩, hnot⟩
      · rw [hkeep]
        exact .kept ((fits_location_iff ho hl).mpr hfits) hin rfl ho hd'
      · rw [hrefuse]
        exact .refused fun hfits => hnot ((fits_location_iff ho hl).mp hfits)
  · have hin : InnerLine l := innerLine_iff.mpr (.inl hl)
    cases hr with
    | outside hno =>
      rw [takeLine_none hin.2 hin.1]
      refine .refused fun hfits => ?_
      obtain ⟨h, body, ho⟩ := hfits.inner (.inl hl)
      exact hno h body ho
    | inside ho hd =>
      rw [takeLine_plain _ hl]
      exact .kept ((fits_plain_iff hl).mpr ⟨_, _, ho⟩) hin rfl ho (hd.plain hl)

theorem Reads.of_blank (hb : BlankLine l) : Reads (l :: before) none none :=
  .outside fun _ _ => not_openBlock_of_blank hb

theorem Reads.of_header {d : Draft} (hh : HeaderLine l) (hd : Drafted l [] d) :
    Reads (l :: before) (some (l, [])) (some d) :=
  .inside (.opened hh) hd

end

/-! ## All lines -/

/-- To hold of every line with the lines before it is to hold of the first and of the others. -/
theorem forall_split_cons {before : List (List Char)} {l : List Char} {ls : List (List Char)} :
    (∀ front x rest, l :: ls = front ++ x :: rest → Fits (front.reverse ++ before) x) ↔
      Fits before l ∧
        ∀ front x rest, ls = front ++ x :: rest → Fits (front.reverse ++ l :: before) x := by
  constructor
  · intro h
    refine ⟨h [] l ls rfl, ?_⟩
    intro front x rest hls
    subst hls
    have hx := h (l :: front) x rest rfl
    rwa [List.reverse_cons, List.append_assoc, List.singleton_append] at hx
  · intro h front x rest heq
    obtain ⟨hl, hls⟩ := h
    cases front with
    | nil =>
      obtain ⟨rfl, -⟩ := List.cons.inj heq
      exact hl
    | cons y front =>
      obtain ⟨rfl, rfl⟩ := List.cons.inj heq
      rw [List.reverse_cons, List.append_assoc, List.singleton_append]
      exact hls front x rest rfl

/-- **Lines are read without a fault exactly when each of them fits where it stands.** -/
theorem readLines_eq_none_iff {before : List (List Char)}
    {block : Option (List Char × List (List Char))} {current : Option Draft}
    (hr : Reads before block current) (n : Nat) (ls : List (List Char)) :
    (readLines n current ls).2 = none ↔
      ∀ front l rest, ls = front ++ l :: rest → Fits (front.reverse ++ before) l := by
  induction ls generalizing before block current n with
  | nil => exact ⟨fun _ front l rest h => absurd h (by simp), fun _ => rfl⟩
  | cons l ls ih =>
    rw [forall_split_cons]
    have htaken := hr.taken l
    generalize hs : takeLine current l = step at htaken
    cases htaken with
    | refused hno =>
      rw [readLines_of_refuse hs]
      exact ⟨(nomatch ·), fun h => absurd h.1 hno⟩
    | closed hfits hb =>
      rw [readLines_of_close hs, ih (Reads.of_blank hb)]
      exact ⟨fun h => ⟨hfits, h⟩, fun h => h.2⟩
    | opened hfits hh hd =>
      rw [readLines_of_openNext hs, ih (Reads.of_header hh hd)]
      exact ⟨fun h => ⟨hfits, h⟩, fun h => h.2⟩
    | kept hfits hin hblock ho hd =>
      rw [readLines_of_keep hs, ih (.inside (ho.cons hin) hd)]
      exact ⟨fun h => ⟨hfits, h⟩, fun h => h.2⟩

/-! ## What the threads are -/

/-- The blocks of some lines when a block is open in front of them. -/
def blocksBehind (block : Option (List Char × List (List Char))) (ls : List (List Char)) :
    List (List Char × List (List Char)) :=
  (block.toList.map fun b => (b.1, b.2.reverse ++ ls.takeWhile fun x => InnerLine x)) ++ blocks ls

section

variable {l : List Char} {ls : List (List Char)}

/-- A line that ends the open block leaves it as it is. -/
theorem blocksBehind_of_not_inner (block : Option (List Char × List (List Char)))
    (hl : ¬InnerLine l) :
    blocksBehind block (l :: ls)
      = (block.toList.map fun b => (b.1, b.2.reverse)) ++ blocks (l :: ls) := by
  unfold blocksBehind
  simp only [List.takeWhile_cons, decide_eq_false hl, Bool.false_eq_true, if_false, List.append_nil]

theorem blocks_of_header (hh : HeaderLine l) :
    blocks (l :: ls) = blocksBehind (some (l, [])) ls := by
  rw [blocks, if_pos hh]
  rfl

theorem blocks_of_not_header (hh : ¬HeaderLine l) : blocks (l :: ls) = blocks ls := by
  rw [blocks, if_neg hh]

/-- An inner line becomes part of the open block. -/
theorem blocksBehind_of_inner (h : List Char) (body : List (List Char)) (hl : InnerLine l) :
    blocksBehind (some (h, body)) (l :: ls) = blocksBehind (some (h, l :: body)) ls := by
  unfold blocksBehind
  rw [blocks_of_not_header hl.1]
  simp only [List.takeWhile_cons, decide_eq_true hl, if_true, Option.toList_some, List.map_cons,
    List.map_nil, List.reverse_cons, List.append_assoc, List.singleton_append]

end

/-- The threads that are closed are those that the open block tells of. -/
theorem Reads.closed_tells {before : List (List Char)}
    {block : Option (List Char × List (List Char))} {current : Option Draft}
    (hr : Reads before block current) :
    List.Forall₂ BlockTells (block.toList.map fun b => (b.1, b.2.reverse)) (closed current) := by
  cases hr with
  | outside _ => exact .nil
  | inside _ hd =>
    refine .cons ?_ .nil
    show Tells _ (List.reverse (List.reverse _)) _
    rw [List.reverse_reverse]
    exact hd.close

/-- **What is read of lines without a fault is what their blocks tell.** -/
theorem readLines_tells {before : List (List Char)}
    {block : Option (List Char × List (List Char))} {current : Option Draft}
    (hr : Reads before block current) (n : Nat) (ls : List (List Char))
    (hok : (readLines n current ls).2 = none) :
    List.Forall₂ BlockTells (blocksBehind block ls) (readLines n current ls).1 := by
  induction ls generalizing before block current n with
  | nil =>
    show List.Forall₂ BlockTells ((block.toList.map fun b => (b.1, b.2.reverse ++ [])) ++ []) _
    simp only [List.append_nil]
    exact hr.closed_tells
  | cons l ls ih =>
    have htaken := hr.taken l
    generalize hs : takeLine current l = step at htaken
    cases htaken with
    | refused hno =>
      rw [readLines_of_refuse hs] at hok
      cases hok
    | closed hfits hb =>
      rw [readLines_of_close hs] at hok ⊢
      rw [blocksBehind_of_not_inner block fun hin => hin.2 hb,
        blocks_of_not_header fun hh => hh.not_blank hb]
      have hnext : Reads (l :: before) none none := .of_blank hb
      exact List.rel_append hr.closed_tells (ih hnext _ hok)
    | opened hfits hh hd =>
      rw [readLines_of_openNext hs] at hok ⊢
      rw [blocksBehind_of_not_inner block fun hin => hin.1 hh, blocks_of_header hh]
      have hnext : Reads (l :: before) (some (l, [])) (some _) := .of_header hh hd
      exact List.rel_append hr.closed_tells (ih hnext _ hok)
    | kept hfits hin hblock ho hd =>
      rw [readLines_of_keep hs] at hok ⊢
      rw [hblock, blocksBehind_of_inner _ _ hin]
      exact ih (.inside (ho.cons hin) hd) _ hok

/-- **The reader accepts its grammar, and reads what the blocks tell.**  A text is read exactly when each
of its lines can stand where it stands, and then there is one thread for each header, in order, which is
what the block of that header tells. -/
theorem read_iff_grammatical (s : List Char) :
    ((∃ ts, read s = .ok ts) ↔ Grammatical (lines s)) ∧
      ∀ ts, read s = .ok ts → List.Forall₂ BlockTells (blocks (lines s)) ts := by
  have hstart : Reads [] none none := .outside not_openBlock_nil
  simp only [read_eq_ok_iff]
  constructor
  · have hiff := readLines_eq_none_iff hstart 1 (lines s)
    simp only [List.append_nil] at hiff
    refine Iff.trans ⟨?_, fun h => ⟨_, Prod.ext rfl h⟩⟩ hiff
    intro h
    obtain ⟨ts, h⟩ := h
    rw [h]
  · intro ts h
    have htells := readLines_tells hstart 1 (lines s) (by rw [h])
    rw [h] at htells
    exact htells

/-- A dump with a name, a function without a location and one with a location. -/
theorem read_iff_grammatical_one_thread :
    Grammatical (lines "thread 7 []:\nname: a\nf\ng\n\tx:3".toList) ∧
      List.Forall₂ BlockTells
        [("thread 7 []:".toList,
          ["name: a".toList, "f".toList, "g".toList, "\tx:3".toList])]
        [{ id := 7, state := "", locked := false, name := some "a",
           stack := [{ function := "f" }, { function := "g", file := some "x", line := 3 }] }] := by
  obtain ⟨haccept, htell⟩ := read_iff_grammatical "thread 7 []:\nname: a\nf\ng\n\tx:3".toList
  exact ⟨haccept.mp ⟨_, rfl⟩, htell _ rfl⟩

end Vigil.Dump
