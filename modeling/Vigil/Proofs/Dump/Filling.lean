import Vigil.Dump.Writer
import Vigil.Proofs.Text.Clipping

/-!
# Writing no more than the budget

A dump of all threads is written block by block, and once the text has reached the budget no more blocks are
added.  What would have come behind is cut off anyway, so that the dump is the one that all blocks would
have given.  Proved:

* `exists_addBlocks_eq` — adding blocks leaves what is there in front;
* `clip_addUntilFull` — stopping early is not seen once the text is clipped;
* `writeAll_eq_clip` — a dump of all threads is all blocks, clipped to the budget, and the budget is kept.
-/

namespace Vigil.Dump

open Text

/-- The text with the blocks of further threads, which have no frames. -/
def addBlocks (out : List Char) (others : List ThreadInfo) : List Char :=
  others.foldl (fun out t => addBlock out t []) out

theorem exists_addBlocks_eq (out : List Char) (others : List ThreadInfo) :
    ∃ rest, addBlocks out others = out ++ rest := by
  induction others generalizing out with
  | nil => exact ⟨[], (List.append_nil out).symm⟩
  | cons t others ih =>
    obtain ⟨rest, h⟩ := ih (addBlock out t [])
    refine ⟨(if out.isEmpty then [] else ['\n']) ++ block t [] ++ rest, ?_⟩
    show addBlocks (addBlock out t []) others = _
    rw [h, addBlock]
    simp only [List.append_assoc]

/-- **Stopping at the budget is not seen**: the blocks that are left out stand behind it. -/
theorem clip_addUntilFull (capacity : Nat) (out : List Char) (others : List ThreadInfo) :
    clip capacity (addUntilFull capacity out others) = clip capacity (addBlocks out others) := by
  induction others generalizing out with
  | nil => rfl
  | cons t others ih =>
    rw [addUntilFull]
    split
    · next hspent =>
      obtain ⟨rest, h⟩ := exists_addBlocks_eq out (t :: others)
      rw [h, clip_append_of_spent rest hspent]
    · exact ih (addBlock out t [])

/-- **A dump of all threads is what the blocks of all threads give**, one behind another and then clipped to
the bytes for so many threads.  It takes no more bytes than these; and where something was cut off, it takes
at most three bytes less. -/
theorem writeAll_eq_clip (budget : DumpBudget) (census : Census) :
    let capacity := (budget.capacityFor (UInt64.ofNat (census.others.length + 1))).toNat
    let whole := writeBlocks ((census.current, census.stack) :: census.others.map fun t => (t, []))
    writeAll budget census = clip capacity whole ∧
      byteSize (writeAll budget census) ≤ capacity ∧
      (writeAll budget census = whole ∨ capacity ≤ byteSize (writeAll budget census) + 3) := by
  intro capacity whole
  have hwhole : whole = addBlocks (block census.current census.stack) census.others := by
    rw [addBlocks]
    show (census.others.map fun t => (t, [])).foldl _ (block census.current census.stack) = _
    rw [List.foldl_map]
  have hclip : writeAll budget census = clip capacity whole := by
    rw [hwhole]
    exact clip_addUntilFull capacity _ census.others
  rw [hclip]
  exact ⟨rfl, byteSize_clip_le capacity whole, clip_eq_self_or_le capacity whole⟩

end Vigil.Dump
