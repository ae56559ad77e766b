import Vigil.Stack.Trace

/-!
# Reading the frames of a trace

A reader of frames keeps its place as a number, can go on in two ways, and can ask in between how many frames
are left.  The frames are looked up apart from the addresses that the length of a trace counts.  Proved:

* `StackTrace.Made` — traces as they are made, and what looking up their frames makes of them;
  `Made.map_address_frames` — the frames stand at the addresses;
* `Cursor.behind` — the place behind the first so many frames; `ask_behind` — where each call leaves it, and
  what comes out;
* `run_behind` — so any calls, in any order, leave the place behind as many frames as were asked for;
* `StackTrace.Made.read_in_place` — what a reader is told at any time.
-/

namespace Vigil

/-! ## The frames of a trace -/

namespace StackTrace

/-- A trace made from addresses or from frames, whose frames somebody may have looked up since.  A clone of a
trace has the same addresses and shares the frames that are looked up, so this is what a clone can be, too. -/
inductive Made : StackTrace → Prop
  | ofAddresses (addresses : List Address) : Made (.ofAddresses addresses)
  | ofFrames (frames : List Frame) : Made (.ofFrames frames)
  | resolve {t : StackTrace} (table : SymbolTable) : Made t → Made (t.resolve table)

/-- Frames that were looked up once are the frames from then on. -/
theorem frames_resolve (t : StackTrace) (table table' : SymbolTable) :
    (t.resolve table).frames table' = t.frames table := rfl

/-- **The frames stand at the addresses**, one at each and in the same order. -/
theorem Made.map_address_frames {t : StackTrace} (h : t.Made) (table : SymbolTable) :
    (t.frames table).map Frame.address = t.addresses := by
  induction h generalizing table with
  | ofAddresses addresses =>
    show (addresses.map table.frame).map Frame.address = addresses
    rw [List.map_map]
    conv => rhs; rw [← List.map_id addresses]
    exact List.map_congr_left fun a _ => table.address_frame a
  | ofFrames frames => rfl
  | resolve looked _ ih => exact ih looked

end StackTrace

namespace Cursor

/-! ## The place of a reader -/

variable {frames : List Frame}

/-- The place behind the first `k` frames, or behind all of them if there are fewer. -/
def behind (frames : List Frame) (k : Nat) : Cursor := ⟨frames, min k frames.length⟩

theorem start_eq_behind (table : SymbolTable) (t : StackTrace) : start table t = behind (t.frames table) 0 := by
  rw [behind, Nat.zero_min]
  rfl

/-- **Going on** gives the frame behind the place, if there is one, and leaves the place behind it. -/
theorem nextFrame_behind (frames : List Frame) (k : Nat) :
    (behind frames k).nextFrame
      = (frames[k]?.map fun f => (f, decide (k + 1 < frames.length)), behind frames (k + 1)) := by
  rcases Nat.lt_or_ge k frames.length with hk | hk
  · have hmin : min k frames.length = k := by omega
    have hmin' : min (k + 1) frames.length = k + 1 := by omega
    simp only [nextFrame, behind, hmin, hmin', List.getElem?_eq_getElem hk, Option.map_some]
  · have hmin : min k frames.length = frames.length := by omega
    have hmin' : min (k + 1) frames.length = frames.length := by omega
    have hnone : frames[frames.length]? = none := List.getElem?_eq_none (Nat.le_refl _)
    simp only [nextFrame, behind, hmin, hmin', hnone, List.getElem?_eq_none hk, Option.map_none]

theorem next_behind (frames : List Frame) (k : Nat) :
    (behind frames k).next = (frames[k]?, behind frames (k + 1)) := by
  rw [next, nextFrame_behind, Option.map_map]
  cases frames[k]? <;> rfl

/-- The place is never behind more frames than there are, so what is left is a number. -/
theorem bounds?_behind (frames : List Frame) (k : Nat) :
    (behind frames k).bounds? = some ((frames.drop k).length, some (frames.drop k).length) := by
  have hle : min k frames.length ≤ frames.length := Nat.min_le_right _ _
  have hleft : frames.length - min k frames.length = (frames.drop k).length := by
    rw [List.length_drop]
    omega
  rw [bounds?, behind, if_pos hle, hleft]

theorem remaining?_behind (frames : List Frame) (k : Nat) :
    (behind frames k).remaining? = some (frames.drop k).length := by
  rw [remaining?, bounds?_behind]
  exact if_pos rfl

/-- The frame behind a place is the first of those still to come. -/
theorem toList_getElem?_append_take (frames : List Frame) (k m : Nat) :
    frames[k]?.toList ++ (frames.drop (k + 1)).take m = (frames.drop k).take (m + 1) := by
  rcases Nat.lt_or_ge k frames.length with hk | hk
  · rw [List.getElem?_eq_getElem hk, List.drop_eq_getElem_cons hk, List.take_succ_cons]
    rfl
  · rw [List.getElem?_eq_none hk, List.drop_eq_nil_of_le hk, List.drop_eq_nil_of_le (Nat.le_succ_of_le hk),
      List.take_nil, List.take_nil]
    rfl

/-! ## Calls -/

/-- What a reader can ask: to go on, in two ways, and how many frames are left, in two ways. -/
inductive Call where
  | nextFrame
  | next
  | bounds
  | remaining
deriving DecidableEq, Repr

/-- The call goes on to the next frame. -/
def Call.advances : Call → Bool
  | .nextFrame | .next => true
  | .bounds | .remaining => false

/-- What a call is answered. -/
inductive Answer where
  | nextFrame (found : Option (Frame × Bool))
  | next (found : Option Frame)
  | bounds (left : Option (Nat × Option Nat))
  | remaining (left : Option Nat)
deriving DecidableEq, Repr

/-- The frame that comes out with an answer. -/
def Answer.frame? : Answer → Option Frame
  | .nextFrame found => found.map (·.1)
  | .next found => found
  | .bounds _ | .remaining _ => none

/-- One call. -/
def ask (c : Cursor) : Call → Answer × Cursor
  | .nextFrame => (.nextFrame c.nextFrame.1, c.nextFrame.2)
  | .next => (.next c.next.1, c.next.2)
  | .bounds => (.bounds c.bounds?, c)
  | .remaining => (.remaining c.remaining?, c)

/-- Calls one after another. -/
def run (c : Cursor) : List Call → List Answer × Cursor
  | [] => ([], c)
  | call :: calls => ((c.ask call).1 :: ((c.ask call).2.run calls).1, ((c.ask call).2.run calls).2)

/-- The frames that come out of calls, in the order in which they come. -/
def yielded (c : Cursor) (calls : List Call) : List Frame := (c.run calls).1.filterMap Answer.frame?

/-- **One call**: to go on gives the frame behind the place, whichever way it is done, and other calls leave
the place where it is. -/
theorem ask_behind (frames : List Frame) (k : Nat) (call : Call) :
    ((behind frames k).ask call).1.frame? = (if call.advances then frames[k]? else none) ∧
      ((behind frames k).ask call).2 = behind frames (if call.advances then k + 1 else k) := by
  cases call with
  | nextFrame =>
    show (behind frames k).next.1 = frames[k]? ∧ (behind frames k).nextFrame.2 = behind frames (k + 1)
    rw [next_behind, nextFrame_behind]
    exact ⟨rfl, rfl⟩
  | next =>
    show (behind frames k).next.1 = frames[k]? ∧ (behind frames k).next.2 = behind frames (k + 1)
    rw [next_behind]
    exact ⟨rfl, rfl⟩
  | bounds => exact ⟨rfl, rfl⟩
  | remaining => exact ⟨rfl, rfl⟩

/-- **Any calls**: as many frames come out as are asked for and still to come, in order, and the place is
behind them. -/
theorem run_behind (frames : List Frame) (k : Nat) (calls : List Call) :
    yielded (behind frames k) calls = (frames.drop k).take (calls.countP Call.advances) ∧
      ((behind frames k).run calls).2 = behind frames (k + calls.countP Call.advances) := by
  induction calls generalizing k with
  | nil => exact ⟨rfl, rfl⟩
  | cons call calls ih =>
    obtain ⟨hframe, hplace⟩ := ask_behind frames k call
    have hyield : yielded (behind frames k) (call :: calls)
        = ((behind frames k).ask call).1.frame?.toList ++ yielded ((behind frames k).ask call).2 calls := by
      show (_ :: _).filterMap Answer.frame? = _
      rw [List.filterMap_cons]
      cases ((behind frames k).ask call).1.frame? <;> rfl
    have hrun : ((behind frames k).run (call :: calls)).2 = (((behind frames k).ask call).2.run calls).2 := rfl
    rw [hyield, hrun, hframe, hplace]
    cases hcall : call.advances with
    | false =>
      rw [List.countP_cons_of_neg (by simp [hcall])]
      exact ih k
    | true =>
      rw [List.countP_cons_of_pos hcall]
      obtain ⟨hrest, hend⟩ := ih (k + 1)
      refine ⟨?_, ?_⟩
      · rw [if_pos rfl, if_pos rfl, hrest]
        exact toList_getElem?_append_take frames k _
      · rw [if_pos rfl, hend, Nat.add_right_comm, Nat.add_assoc]

end Cursor

namespace StackTrace

open Cursor

/-- **A reader of frames never loses its place.**  Take a trace that was made from addresses or from frames, or
a clone of it, whatever was looked up since, and any calls on a cursor in front of its frames.  The frames stand
at the addresses of the trace, one at each; where frames or addresses were given, these are the frames or the
addresses; and through a clone they are the same frames, whenever they are asked for.  As many of them have come
out as were asked for, in order, whichever way they were asked for, so that they stand at the first addresses
and no more than the length of the trace come out, which so many calls reach.  At that point the number of
frames that is told is there, and is that of the frames that come out of any further calls that ask for enough;
and the next frame comes with a flag that is true exactly if going on behind it, in either way, gives another
one. -/
theorem Made.read_in_place {t : StackTrace} (h : t.Made) (table : SymbolTable) (calls : List Call) :
    let frames := t.frames table
    let asked := calls.countP Call.advances
    let c := ((start table t).run calls).2
    frames.map Frame.address = t.addresses ∧
    (∀ given, (StackTrace.ofFrames given).frames table = given ∧
      (StackTrace.ofFrames given).addresses = given.map Frame.address) ∧
    (∀ given, (StackTrace.ofAddresses given).frames table = given.map table.frame ∧
      (StackTrace.ofAddresses given).addresses = given) ∧
    (∀ table', start table' (t.resolve table) = start table t) ∧
    yielded (start table t) calls = frames.take asked ∧
    (yielded (start table t) calls).map Frame.address = t.addresses.take asked ∧
    (yielded (start table t) calls).length = min asked t.length ∧
    (∃ left, c.remaining? = some left ∧ c.bounds? = some (left, some left) ∧ left = t.length - asked ∧
      ∀ further, yielded c further = (frames.drop asked).take (further.countP Call.advances) ∧
        (yielded c further).length = min (further.countP Call.advances) left) ∧
    ∀ f more, c.nextFrame.1 = some (f, more) →
      (more = true ↔ c.nextFrame.2.next.1.isSome) ∧ (more = true ↔ c.nextFrame.2.nextFrame.1.isSome) := by
  intro frames asked c
  have haddresses : frames.map Frame.address = t.addresses := h.map_address_frames table
  have hlength : frames.length = t.length := by
    show frames.length = t.addresses.length
    rw [← haddresses, List.length_map]
  obtain ⟨hyield, hplace⟩ := run_behind frames 0 calls
  rw [← start_eq_behind, List.drop_zero] at hyield
  have hc : c = behind frames asked := by
    rw [← start_eq_behind, Nat.zero_add] at hplace
    exact hplace
  have hclone (table' : SymbolTable) : start table' (t.resolve table) = start table t := by
    rw [start, start, frames_resolve]
  refine ⟨haddresses, fun _ => ⟨rfl, rfl⟩, fun _ => ⟨rfl, rfl⟩, hclone, hyield, ?_, ?_,
    ⟨(frames.drop asked).length, ?_, ?_, ?_, ?_⟩, ?_⟩
  · rw [hyield, List.map_take, haddresses]
  · rw [hyield, List.length_take, hlength]
  · rw [hc, remaining?_behind]
  · rw [hc, bounds?_behind]
  · rw [List.length_drop, hlength]
  · intro further
    have hfurther : yielded c further = (frames.drop asked).take (further.countP Call.advances) := by
      rw [hc]
      exact (run_behind frames asked further).1
    exact ⟨hfurther, by rw [hfurther, List.length_take]⟩
  · intro f more hnext
    rw [hc, nextFrame_behind] at hnext ⊢
    obtain ⟨f', hf', heq⟩ := Option.map_eq_some_iff.mp hnext
    obtain ⟨rfl, rfl⟩ := Prod.mk.inj heq
    have hsome : asked + 1 < frames.length ↔ frames[asked + 1]?.isSome = true := by simp
    rw [next_behind, nextFrame_behind, Option.isSome_map, decide_eq_true_iff]
    exact ⟨hsome, hsome⟩

/-- Frames are looked up at three addresses, one of them no place and two the same, where the function `f` is
known by the symbol `_ZN1fE`, and a reader who asks in both ways goes on past the end. -/
theorem Made.read_in_place_past_end :
    let entry : SymbolEntry := ⟨some [95, 90, 78, 49, 102, 69], some "main.rs", some 3⟩
    let table : SymbolTable := { entryAt? := fun a => if a = 5 then some entry else none }
    let t := (StackTrace.ofAddresses [5, 0, 5]).resolve table
    let calls : List Call := [.remaining, .nextFrame, .next, .bounds, .next, .next, .nextFrame]
    let c := ((start .empty t).run calls).2
    t.Made ∧ start .empty t = start table t ∧
      yielded (start .empty t) calls
        = [⟨5, "f", some "main.rs", 3⟩, ⟨0, "", none, 0⟩, ⟨5, "f", some "main.rs", 3⟩] ∧
      (yielded (start .empty t) calls).length = 3 ∧ c.remaining? = some 0 ∧ c.bounds? = some (0, some 0) := by
  intro entry table t calls c
  have h : t.Made := .resolve table (.ofAddresses [5, 0, 5])
  obtain ⟨-, -, -, -, hyield, -, hlength, ⟨left, hleft, hbounds, hzero, -⟩, -⟩ := h.read_in_place .empty calls
  obtain rfl : left = 0 := hzero
  exact ⟨h, rfl, hyield.trans (by decide +kernel), hlength, hleft, hbounds⟩

end StackTrace

end Vigil
