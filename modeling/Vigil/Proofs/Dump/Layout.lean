import Vigil.Proofs.Dump.Line
import Vigil.Dump.Reader

/-!
# The layout of a dump

What makes a text a dump, and what a dump tells, is laid down here without the reader: as conditions on
each line and the lines before it, and as a relation between the blocks of the text and the threads.
The lines before a line are always given with the nearest first.

* `blocks` — the blocks: each header with the lines that belong to it;
* `OpenBlock` — the block that the next line would belong to;
* `NameLine`, `FunctionLine` — what the plain lines of a block are;
* `Fits`, `Grammatical` — the lines of a dump: headers and locations are valid, and no line is out of
  place;
* `Contents` — the names and the frames of a block;
* `BlockTells` — what a block tells of its thread.
-/

namespace Vigil.Dump

open Text

/-! ## Blocks -/

/-- A line that neither opens a block nor closes one. -/
def InnerLine (l : List Char) : Prop := ¬HeaderLine l ∧ ¬BlankLine l

instance (l : List Char) : Decidable (InnerLine l) := inferInstanceAs (Decidable (_ ∧ _))

/-- The blocks: each header with the lines up to the next header or blank line. -/
def blocks : List (List Char) → List (List Char × List (List Char))
  | [] => []
  | l :: ls =>
    if HeaderLine l then (l, ls.takeWhile fun x => InnerLine x) :: blocks ls else blocks ls

/-- Behind the lines `before` the block of the header `h` is open, and `body` is what came of it. -/
def OpenBlock (before : List (List Char)) (h : List Char) (body : List (List Char)) : Prop :=
  ∃ front, before = body ++ h :: front ∧ HeaderLine h ∧ ∀ x ∈ body, InnerLine x

/-! ## Plain lines -/

/-- There is a function line in a body. -/
def HasFunction : List (List Char) → Prop
  | [] => False
  | l :: body => HasFunction body ∨ PlainLine l ∧ ¬(nameLead <+: l ∧ ¬HasFunction body)

/-- The line is a name line behind `body`: a plain line that looks like a name, with no function line
before it. -/
def NameLine (body : List (List Char)) (l : List Char) : Prop :=
  PlainLine l ∧ nameLead <+: l ∧ ¬HasFunction body

/-- The line is a function line behind `body`: a plain line that is no name line. -/
def FunctionLine (body : List (List Char)) (l : List Char) : Prop :=
  PlainLine l ∧ ¬(nameLead <+: l ∧ ¬HasFunction body)

/-! ## Grammar -/

/-- The line can stand behind the lines `before`. -/
structure Fits (before : List (List Char)) (l : List Char) : Prop where
  /-- If it is a header, it is a valid one. -/
  header : HeaderLine l → ValidHeader l
  /-- If it is plain or a location, it lies in a block. -/
  inner : PlainLine l ∨ LocationLine l → ∃ h body, OpenBlock before h body
  /-- If it is a location, it directly follows a function line of its block, and is valid. -/
  location : LocationLine l → ValidLocation l ∧
    ∃ f front h body, before = f :: front ∧ OpenBlock front h body ∧ FunctionLine body f

/-- Every line can stand where it stands. -/
def Grammatical (ls : List (List Char)) : Prop :=
  ∀ front l rest, ls = front ++ l :: rest → Fits front.reverse l

/-! ## What blocks tell -/

/-- A function line, with the location line behind it if there is one. -/
structure Entry where
  function : List Char
  location : Option (List Char) := none

/-- A body holds these names and these entries, and nothing else. -/
inductive Contents : List (List Char) → List (List Char) → List Entry → Prop
  | nil : Contents [] [] []
  | name {body names : List (List Char)} {entries : List Entry} {name : List Char} :
      Contents body names entries → NameLine body (nameLead ++ name) →
      Contents ((nameLead ++ name) :: body) (names ++ [name]) entries
  | function {body names : List (List Char)} {entries : List Entry} {f : List Char} :
      Contents body names entries → FunctionLine body f →
      Contents (f :: body) names (entries ++ [{ function := f }])
  | location {body names : List (List Char)} {entries : List Entry} {f l : List Char} :
      Contents body names entries → FunctionLine body f → LocationLine l →
      Contents (l :: f :: body) names (entries ++ [{ function := f, location := some l }])

/-- The frame is what the entry tells: its function without the blanks around it, and the file and the
line of its location if it has one. -/
def FrameTells (e : Entry) (f : Frame) : Prop :=
  f.address = 0 ∧ f.function = String.ofList (trim e.function) ∧
    match e.location with
    | none => f.file = none ∧ f.line = 0
    | some l => LocationTells l f.file f.line

/-- The thread is what a header and a body tell: the last name counts, and every function line makes a
frame. -/
def Tells (h : List Char) (body : List (List Char)) (t : Snapshot) : Prop :=
  HeaderTells h t ∧ ∃ names entries, Contents body names entries ∧
    t.name = names.getLast?.map String.ofList ∧ List.Forall₂ FrameTells entries t.stack

/-- The thread is what the block tells. -/
def BlockTells (b : List Char × List (List Char)) (t : Snapshot) : Prop := Tells b.1 b.2.reverse t

/-! ## Lines and open blocks -/

theorem innerLine_iff {l : List Char} : InnerLine l ↔ PlainLine l ∨ LocationLine l := by
  constructor
  · intro h
    obtain ⟨hh, hb⟩ := h
    rcases line_cases l with h | h | h | h
    · exact absurd h hb
    · exact absurd h hh
    · exact .inr h
    · exact .inl h
  · intro h
    rcases h with h | h
    · exact ⟨h.2.1, h.1⟩
    · exact ⟨fun hh => hh.not_location h, h.1⟩

theorem FunctionLine.hasFunction {body : List (List Char)} {l : List Char} (h : FunctionLine body l) :
    HasFunction (l :: body) := .inr h

theorem hasFunction_of_name {body : List (List Char)} {l : List Char} (h : NameLine body l) :
    ¬HasFunction (l :: body) := by
  intro h
  rcases h with hbody | hl
  · exact h.2.2 hbody
  · exact hl.2 h.2

theorem FunctionLine.not_location {body : List (List Char)} {l : List Char}
    (h : FunctionLine body l) : ¬LocationLine l := h.1.2.2

theorem OpenBlock.opened {before : List (List Char)} {l : List Char} (h : HeaderLine l) :
    OpenBlock (l :: before) l [] :=
  ⟨before, rfl, h, fun _ hx => absurd hx List.not_mem_nil⟩

theorem OpenBlock.cons {before body : List (List Char)} {h l : List Char}
    (ho : OpenBlock before h body) (hl : InnerLine l) : OpenBlock (l :: before) h (l :: body) := by
  obtain ⟨front, rfl, hh, hbody⟩ := ho
  exact ⟨front, rfl, hh, List.forall_mem_cons.mpr ⟨hl, hbody⟩⟩

theorem not_openBlock_nil (h : List Char) (body : List (List Char)) : ¬OpenBlock [] h body := by
  intro h
  obtain ⟨front, heq, -⟩ := h
  exact absurd heq.symm (by simp)

theorem not_openBlock_of_blank {before body : List (List Char)} {h l : List Char}
    (hl : BlankLine l) : ¬OpenBlock (l :: before) h body := by
  intro h
  obtain ⟨front, heq, hh, hbody⟩ := h
  cases body with
  | nil =>
    obtain ⟨rfl, -⟩ := List.cons.inj heq
    exact hh.not_blank hl
  | cons x body =>
    obtain ⟨rfl, -⟩ := List.cons.inj heq
    exact (hbody l List.mem_cons_self).2 hl

/-- Only one block is open at a time. -/
theorem OpenBlock.unique {before body body' : List (List Char)} {h h' : List Char}
    (ho : OpenBlock before h body) (ho' : OpenBlock before h' body') : h = h' ∧ body = body' := by
  induction body generalizing before body' with
  | nil =>
    obtain ⟨front, rfl, hh, -⟩ := ho
    obtain ⟨front', heq, -, hbody'⟩ := ho'
    cases body' with
    | nil => exact ⟨(List.cons.inj heq).1, rfl⟩
    | cons x body' =>
      obtain ⟨rfl, -⟩ := List.cons.inj heq
      exact absurd hh (hbody' h List.mem_cons_self).1
  | cons x body ih =>
    obtain ⟨front, rfl, hh, hbody⟩ := ho
    obtain ⟨front', heq, hh', hbody'⟩ := ho'
    cases body' with
    | nil =>
      obtain ⟨rfl, -⟩ := List.cons.inj heq
      exact absurd hh' (hbody x List.mem_cons_self).1
    | cons y body' =>
      obtain ⟨rfl, htail⟩ := List.cons.inj heq
      have hrest := ih ⟨front, rfl, hh, fun z hz => hbody z (List.mem_cons_of_mem _ hz)⟩
        ⟨front', htail, hh', fun z hz => hbody' z (List.mem_cons_of_mem _ hz)⟩
      exact ⟨hrest.1, by rw [hrest.2]⟩

end Vigil.Dump
