import Vigil.Dump.Capture
import Vigil.Report
import Vigil.Proofs.Dump.Filling
import Vigil.Proofs.Dump.FirstId
import Vigil.Proofs.Settings.Capacity

/-!
# The calling thread in its own capture

The id of the calling thread and the list of threads come from two dumps, with budgets and stacks of their
own, and each is cut and read on its own.  Both start with the header of the calling thread, and the second
one has at least the budget of the first; so where the header survives in the first dump it survives in the
second one too, and the thread that it opens stays the first of the list.  Proved:

* `exists_writeAll_eq` — a dump of all threads is a cut text that starts with the header of the calling
  thread;
* `firstId_writeAll` — its first id is that of the calling thread exactly when the header fits;
* `captureThreads_current_first` — so a capture that knows its calling thread lists it first, and a report
  finds it there.
-/

namespace Vigil.Dump

open Text

/-! ## The two dumps -/

theorem exists_writeAll_eq (budget : DumpBudget) (census : Census) :
    ∃ rest, writeAll budget census
      = clip (capacityOf budget census) (headerLine census.current ++ rest) := by
  obtain ⟨rest, h⟩ := exists_addBlocks_eq (block census.current census.stack) census.others
  refine ⟨nameLine census.current.name ++ census.stack.flatMap frameLines ++ rest, ?_⟩
  rw [writeAll, clip_addUntilFull, h, block]
  simp only [List.append_assoc]

/-- **A dump of all threads gives the id of the calling one first**, exactly when its header fits. -/
theorem firstId_writeAll (budget : DumpBudget) (census : Census) :
    firstId (writeAll budget census)
      = if byteSize (header census.current) ≤ capacityOf budget census then census.current.id
        else 0 := by
  obtain ⟨rest, h⟩ := exists_writeAll_eq budget census
  rw [h]
  exact firstId_clip_headerLine census.current rest (capacityOf budget census)

/-- A dump of the calling thread alone gives its id exactly when its header fits. -/
theorem currentId_eq (budget : DumpBudget) (current : ThreadInfo) (stack : List Frame) :
    currentId budget current stack
      = if byteSize (header current) ≤ (budget.capacityFor 1).toNat then current.id else 0 := by
  rw [currentId, writeCurrent, block, List.append_assoc]
  exact firstId_clip_headerLine current _ (budget.capacityFor 1).toNat

/-! ## The capture -/

/-- An id that is not zero is that of the first thread. -/
theorem exists_first_of_firstId_ne_zero {s : List Char} (h : firstId s ≠ 0) :
    ∃ t rest, (readPartial s).1 = t :: rest ∧ t.id = firstId s := by
  unfold firstId at h ⊢
  cases hread : (readPartial s).1 with
  | nil =>
    rw [hread] at h
    exact absurd rfl h
  | cons t rest => exact ⟨t, rest, rfl, rfl⟩

/-- **The calling thread is found in its own capture.**  Whatever the threads are called, whatever their
stacks say and whether the stack has changed between the two dumps: if a capture gives an id, it is that of
the calling thread, the first thread of the list has it, and a report with this capture takes that thread
for the one it happened on. -/
theorem captureThreads_current_first (budget : DumpBudget) (stack : List Frame) (census : Census)
    (h : (captureThreads budget stack census).currentId ≠ 0) :
    (captureThreads budget stack census).currentId = census.current.id ∧
      ∃ t rest, (captureThreads budget stack census).threads = t :: rest ∧ t.id = census.current.id ∧
        ∀ r : Report,
          { r with
            currentThreadId := (captureThreads budget stack census).currentId
            threads := (captureThreads budget stack census).threads }.currentThread? = some t := by
  have hcurrent : (captureThreads budget stack census).currentId
      = if byteSize (header census.current) ≤ (budget.capacityFor 1).toNat then census.current.id
        else 0 := currentId_eq budget census.current stack
  -- an id was read, so the header fits the first budget, and the second one too
  have hfits : byteSize (header census.current) ≤ (budget.capacityFor 1).toNat := by
    by_contra hover
    rw [if_neg hover] at hcurrent
    exact h hcurrent
  rw [if_pos hfits] at hcurrent
  have hfits' : byteSize (header census.current) ≤ capacityOf budget census :=
    Nat.le_trans hfits (budget.capacityFor_one_le _)
  have hfirst : firstId (writeAll budget census) = census.current.id := by
    rw [firstId_writeAll, if_pos hfits']
  have hne : firstId (writeAll budget census) ≠ 0 := by
    rw [hfirst, ← hcurrent]
    exact h
  obtain ⟨t, rest, hthreads, hid⟩ := exists_first_of_firstId_ne_zero hne
  rw [hfirst] at hid
  refine ⟨hcurrent, t, rest, hthreads, hid, fun r => ?_⟩
  rw [Report.currentThread?, hcurrent, show (captureThreads budget stack census).threads = _ from hthreads]
  exact List.find?_cons_of_pos (beq_iff_eq.mpr hid)

/-- A function at the second dump that looks like another header, and a budget that ends behind it: two threads
are listed, and the calling one is the first. -/
theorem captureThreads_current_first_of_two :
    let budget : DumpBudget := { bytesPerThread := 40, maxBytes := 70 }
    let census : Census := ⟨⟨7, .running, none⟩, [{ function := "thread 9 [idle]:" }], [⟨8, .sleeping, none⟩]⟩
    let capture := captureThreads budget [{ function := "run" }] census
    capture.threads.length = 2 ∧ capture.currentId = 7 ∧
      ∃ t rest, capture.threads = t :: rest ∧ t.id = 7 ∧
        ∀ r : Report,
          { r with currentThreadId := capture.currentId, threads := capture.threads }.currentThread?
            = some t := by
  intro budget census capture
  have hknown : capture.currentId ≠ 0 := by decide
  exact ⟨by decide, captureThreads_current_first budget _ census hknown⟩

end Vigil.Dump
