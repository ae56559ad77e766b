import Vigil.Proofs.Dump.Taking
import Vigil.Proofs.Text.Breaking

/-!
# Dumps one behind another

A blank line closes the thread that is open and leaves nothing of it, neither a function that waits nor a
name that may still come.  So what stands behind a blank line is read as if nothing stood in front of it,
but for the numbers of its lines.  Proved:

* `readLines_add` — lines that stand further down are read alike, and a fault in them stands further down;
* `readLines_append_blank` — lines without a fault, a blank line, and any other lines;
* `readPartial_append_newline` — so a dump without a fault and any text with an empty line between tell
  what the one tells and then what the other tells, and its fault.
-/

namespace Vigil.Dump

open Text

/-- **Where lines stand decides only where a fault in them is reported.** -/
theorem readLines_add (n k : Nat) (current : Option Draft) (ls : List (List Char)) :
    readLines (n + k) current ls
      = ((readLines n current ls).1, (readLines n current ls).2.map fun e => ⟨e.line + k, e.fault⟩) := by
  induction ls generalizing n current with
  | nil => rfl
  | cons l ls ih =>
    rcases readLines_cons_cases current l with ⟨fault, left, hs⟩ | ⟨front, next, hs⟩
    · rw [readLines_of_refuse hs, readLines_of_refuse hs]
      rfl
    · rw [hs, hs, Nat.add_right_comm, ih]

/-- **A blank line leaves nothing of what stands in front of it.** -/
theorem readLines_append_blank {n : Nat} {current : Option Draft} {ls : List (List Char)}
    {blank : List Char} (hblank : BlankLine blank) (h : (readLines n current ls).2 = none)
    (ms : List (List Char)) :
    readLines n current (ls ++ blank :: ms)
      = ((readLines n current ls).1 ++ (readLines (n + (ls.length + 1)) none ms).1,
        (readLines (n + (ls.length + 1)) none ms).2) := by
  induction ls generalizing n current with
  | nil => exact readLines_of_close (takeLine_of_blank current hblank) n ms
  | cons l ls ih =>
    rcases readLines_cons_cases current l with ⟨fault, left, hs⟩ | ⟨front, next, hs⟩
    · rw [readLines_of_refuse hs] at h
      cases h
    · have hplace : n + 1 + (ls.length + 1) = n + ((l :: ls).length + 1) := by
        rw [List.length_cons]
        omega
      rw [hs] at h
      rw [List.cons_append, hs, hs, ih h, hplace, List.append_assoc]

/-- **Dumps compose.**  Behind a text whose lines are all ended and hold no fault, and an empty line, any text
is read as it is alone: the threads of both follow one another, and the fault is that of the second text, in
the same line of it. -/
theorem readPartial_append_newline {a : List Char} (hends : a = [] ∨ a.getLast? = some '\n')
    (hread : (readPartial a).2 = none) (b : List Char) :
    readPartial (a ++ '\n' :: b)
      = ((readPartial a).1 ++ (readPartial b).1,
        (readPartial b).2.map fun e => ⟨e.line + ((lines a).length + 1), e.fault⟩) := by
  have hempty : BlankLine [] := rfl
  rw [readPartial, lines_append hends, lines_newline, readLines_append_blank hempty hread, readLines_add]
  rfl

/-- A function still waits for its location at the end of the first text, and a location of the second text
cannot be read. -/
theorem readPartial_append_newline_with_fault :
    let a := "thread 7 [running]:\nrun\n".toList
    let b := "thread 8 [idle]:\nname: x\nstop\n\tmain.rs".toList
    readPartial (a ++ '\n' :: b)
      = ([{ id := 7, state := "running", locked := false, stack := [{ function := "run" }] },
          { id := 8, state := "idle", locked := false, name := some "x" }],
        some ⟨7, .locationWithoutColon⟩) := by
  intro a b
  have hends : a = [] ∨ a.getLast? = some '\n' := by decide
  have hread : (readPartial a).2 = none := by decide
  rw [readPartial_append_newline hends hread b]
  decide

end Vigil.Dump
