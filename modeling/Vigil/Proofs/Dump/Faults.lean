import Vigil.Proofs.Dump.Taking
import Vigil.Proofs.Text.Breaking

/-!
# What is kept at a fault

Reading stops at the first line that cannot be read.  The text in front of that line is a dump without
a fault, and what it tells is what is kept, with one exception: a location that cannot be read takes
along the function in front of it, which the shorter dump would keep as a frame without a location.
Proved:

* `exists_stop_of_readLines` — where reading stops, and what is open there;
* `read_firstLines_of_fault` — what is kept, against what the text in front of the fault tells;
* `not_kept_of_unreadable_location` — a function that is lost.
-/

namespace Vigil.Dump

open Text

/-- Lines with a fault are read up to the line that is refused; the threads that were closed by then are
kept, and what that line leaves of the open one. -/
theorem exists_stop_of_readLines {n : Nat} {current : Option Draft} {ls : List (List Char)}
    {ts : List Snapshot} {e : DumpError} (h : readLines n current ls = (ts, some e)) :
    ∃ before l after front last left, ls = before ++ l :: after ∧ e.line = n + before.length ∧
      takeLine last l = .refuse e.fault left ∧
      readLines n current before = (front ++ closed last, none) ∧ ts = front ++ closed left := by
  induction ls generalizing n current ts with
  | nil => cases h
  | cons l ls ih =>
    rcases readLines_cons_cases current l with ⟨fault, left, hs⟩ | ⟨done, next, hs⟩
    · rw [readLines_of_refuse hs] at h
      obtain ⟨rfl, he⟩ := Prod.mk.inj h
      obtain rfl := Option.some.inj he
      exact ⟨[], l, ls, [], current, left, rfl, rfl, hs, rfl, rfl⟩
    · -- a line that is read stands in front of what is read before the fault
      obtain ⟨hts, he⟩ := Prod.mk.inj ((hs n ls).symm.trans h)
      obtain ⟨before, l', after, front, last, left, rfl, hline, hstop, hread, hkept⟩ :=
        ih (Prod.ext rfl he)
      refine ⟨l :: before, l', after, done ++ front, last, left, rfl, ?_, hstop, ?_, ?_⟩
      · rw [hline, List.length_cons]
        omega
      · rw [hs n before, hread, List.append_assoc]
      · rw [← hts, List.append_assoc]
        exact congrArg (done ++ ·) hkept

/-- **What is kept at a fault.**  The lines in front of a fault are read without one, and what they tell
is kept, unless the fault is in a location: then the last thread lacks the function that the location
belongs to, which the lines in front of it tell as a frame without a location. -/
theorem read_firstLines_of_fault {s : List Char} {ts : List Snapshot} {e : DumpError}
    (h : readPartial s = (ts, some e)) :
    1 ≤ e.line ∧ e.line ≤ (lines s).length ∧
      ∃ us, read (firstLines (e.line - 1) s) = .ok us ∧ (ts = us ↔ ¬e.fault.OfLocation) ∧
        (e.fault.OfLocation → ∃ front t function, ts = front ++ [t] ∧
          us = front ++ [Draft.addFrame t { function }]) := by
  obtain ⟨before, l, after, front, last, left, hlines, hline, hstop, hread, rfl⟩ :=
    exists_stop_of_readLines h
  have hfirst : read (firstLines (e.line - 1) s) = .ok (front ++ closed last) := by
    rw [read_eq_ok_iff, lines_firstLines, hlines, hline, Nat.add_sub_cancel_left, List.take_left]
    exact hread
  refine ⟨by omega, ?_, front ++ closed last, hfirst, ?_⟩
  · rw [hlines, List.length_append, List.length_cons]
    omega
  rcases takeLine_refuse_cases hstop with ⟨hfault, rfl⟩ | ⟨hfault, t, function, rfl, rfl⟩
  · exact ⟨iff_of_true rfl hfault, fun h => absurd h hfault⟩
  · have hlost : closed (some { thread := t })
        ≠ closed (some { thread := t, pending := some function }) := by
      intro heq
      have hstack := congrArg Snapshot.stack (List.cons.inj heq).1
      simp [Draft.close, Draft.addFrame] at hstack
    refine ⟨iff_of_false (fun heq => hlost (List.append_cancel_left heq)) (not_not_intro hfault), ?_⟩
    exact fun _ => ⟨front, t, String.ofList function, rfl, rfl⟩

/-- At a header that cannot be read, the function in front of it is kept. -/
theorem read_firstLines_of_fault_in_header :
    ∃ us, read (firstLines 2 "thread 7 [running]:\nrun\nthread 8".toList) = .ok us ∧
      us = [{ id := 7, state := "running", locked := false, stack := [{ function := "run" }] }] := by
  have h : readPartial "thread 7 [running]:\nrun\nthread 8".toList
      = ([{ id := 7, state := "running", locked := false, stack := [{ function := "run" }] }],
        some ⟨3, .headerWithoutColon⟩) := by decide
  obtain ⟨-, -, us, hread, hkept, -⟩ := read_firstLines_of_fault h
  exact ⟨us, hread, (hkept.mpr (by decide)).symm⟩

/-- A location that cannot be read takes along the function in front of it: the lines before it tell of
that function, and what is kept does not. -/
theorem not_kept_of_unreadable_location :
    ¬∀ (s : List Char) (ts : List Snapshot) (e : DumpError), readPartial s = (ts, some e) →
      read (firstLines (e.line - 1) s) = .ok ts := by
  intro h
  have hfault : readPartial "thread 7 [running]:\nrun\n\tmain.rs".toList
      = ([{ id := 7, state := "running", locked := false }], some ⟨3, .locationWithoutColon⟩) := by
    decide
  have hread : read (firstLines 2 "thread 7 [running]:\nrun\n\tmain.rs".toList)
      = .ok [{ id := 7, state := "running", locked := false, stack := [{ function := "run" }] }] := by
    decide
  have heq := Except.ok.inj (hread.symm.trans (h _ _ _ hfault))
  exact absurd heq (by decide)

end Vigil.Dump
