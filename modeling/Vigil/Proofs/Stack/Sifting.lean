import Vigil.Proofs.Chain.Visits
import Vigil.Proofs.Stack.Lending

/-!
# Putting a filter to a stack

A stack is shown to a recorder, innermost address first, until its buffer is full, and then a filter is asked
about the recorded addresses, one after another, until it accepts one.  A filter may remember what it was
asked.  The innermost place that counts is searched for in one way and the trace from there on in another, and
both ways ask the filter the same.  Proved:

* `run_visitList_jot`, `record_eq` — what is recorded, and that no more of the stack is looked at;
* `Sifted` — what a filter makes of a list of addresses, told without a search;
* `run_fromFirstAccepted`, `run_firstAccepted` — both searches come to that;
* `Pool.Reached.sifts_recorded` — so the innermost place that counts is where the trace begins.
-/

namespace Vigil

/-! ## Recording a stack -/

/-- What is done with an address that is shown: it is written into the buffer, and unless this is full by
then, the next one can be shown. -/
def jot (limit : Nat) (a : Address) : StateM (List Address) Bool := do
  modify (· ++ [a])
  return (← get).length < limit

theorem run_jot (limit : Nat) (a : Address) (content : List Address) :
    (jot limit a).run content = (decide (content.length + 1 < limit), content ++ [a]) := by
  show (decide ((content ++ [a]).length < limit), content ++ [a]) = _
  rw [List.length_append, List.length_singleton]

/-- **Recording is a walk through the stack**, which is looked at no further. -/
theorem run_visitList_jot (limit : Nat) (content stack : List Address) :
    ((visitList (jot limit) stack).run content).2 = record limit content stack := by
  induction stack generalizing content with
  | nil => rfl
  | cons a stack ih =>
    have hjot := run_jot limit a content
    rw [record, visitList]
    by_cases hroom : content.length + 1 < limit
    · rw [decide_eq_true hroom] at hjot
      rw [if_pos hroom, run_andThen_of_true hjot, ih]
    · rw [decide_eq_false hroom] at hjot
      rw [if_neg hroom, run_andThen_of_false hjot]

/-- As much of the stack is recorded as there is room for, and one address in any case. -/
theorem record_eq (limit : Nat) (content stack : List Address) :
    record limit content stack = content ++ stack.take (max (limit - content.length) 1) := by
  induction stack generalizing content with
  | nil => rw [record, List.take_nil, List.append_nil]
  | cons a stack ih =>
    rw [record]
    split
    · next hroom =>
      have hleft : max (limit - content.length) 1 = max (limit - (content ++ [a]).length) 1 + 1 := by
        rw [List.length_append, List.length_singleton]
        omega
      rw [ih, hleft, List.take_succ_cons, List.append_assoc, List.singleton_append]
    · next hfull =>
      have hleft : max (limit - content.length) 1 = 0 + 1 := by omega
      rw [hleft, List.take_succ_cons, List.take_zero]

/-! ## Searching with a filter -/

variable {ρ : Type}

/-- The filter as a visitor: it goes on at what it refuses. -/
def refusing (accept : Address → StateM ρ Bool) (a : Address) : StateM ρ Bool := do
  return !(← accept a)

/-- The filter is asked about `asked`, in order, and `kept` are the addresses from the first accepted one on:
it refuses all, and none is kept; or it refuses some and accepts the next one. -/
inductive Sifted (accept : Address → StateM ρ Bool) (m : ρ) (as : List Address) :
    (asked kept : List Address) → Prop
  | nothing : GoesOn (refusing accept) m as → Sifted accept m as as []
  | upward {before after : List Address} {a : Address} : as = before ++ a :: after →
      GoesOn (refusing accept) m before →
      ((accept a).run (memoryAfter accept m before)).1 = true →
      Sifted accept m as (before ++ [a]) (a :: after)

section

variable {accept : Address → StateM ρ Bool} {m m' : ρ} {a : Address} {as asked kept : List Address}

theorem run_refusing {ok : Bool} (ha : (accept a).run m = (ok, m')) :
    (refusing accept a).run m = (!ok, m') := by
  show (!((accept a).run m).1, ((accept a).run m).2) = _
  rw [ha]

/-- Behind an address that is refused the filter makes of the others what it makes of them alone. -/
theorem Sifted.cons (ha : (accept a).run m = (false, m')) (h : Sifted accept m' as asked kept) :
    Sifted accept m (a :: as) (a :: asked) kept := by
  have hrefuse : (refusing accept a).run m = (true, m') := run_refusing ha
  cases h with
  | nothing hall => exact .nothing (hall.cons hrefuse)
  | upward hsplit hbefore hstop =>
    refine .upward (congrArg (a :: ·) hsplit) (hbefore.cons hrefuse) ?_
    rw [memoryAfter_cons ha]
    exact hstop

theorem run_acceptedPlace?_of_accepted (ha : (accept a).run m = (true, m')) (as : List Address) :
    (acceptedPlace? accept (a :: as)).run m = (some 0, m') := by
  simp only [acceptedPlace?, StateT.run_bind, ha]
  rfl

theorem run_acceptedPlace?_of_refused (ha : (accept a).run m = (false, m')) (as : List Address) :
    (acceptedPlace? accept (a :: as)).run m
      = (((acceptedPlace? accept as).run m').1.map (· + 1), ((acceptedPlace? accept as).run m').2) := by
  simp only [acceptedPlace?, StateT.run_bind, ha]
  rfl

/-- What is kept is what is left when the addresses in front of the place are dropped. -/
theorem run_fromFirstAccepted_eq (accept : Address → StateM ρ Bool) (as : List Address) (m : ρ) :
    (fromFirstAccepted accept as).run m
      = (as.drop (((acceptedPlace? accept as).run m).1.getD as.length), ((acceptedPlace? accept as).run m).2) :=
  rfl

theorem run_fromFirstAccepted_of_accepted (ha : (accept a).run m = (true, m')) (as : List Address) :
    (fromFirstAccepted accept (a :: as)).run m = (a :: as, m') := by
  rw [run_fromFirstAccepted_eq, run_acceptedPlace?_of_accepted ha, Option.getD_some, List.drop_zero]

theorem run_fromFirstAccepted_of_refused (ha : (accept a).run m = (false, m')) (as : List Address) :
    (fromFirstAccepted accept (a :: as)).run m = (fromFirstAccepted accept as).run m' := by
  rw [run_fromFirstAccepted_eq, run_acceptedPlace?_of_refused ha, run_fromFirstAccepted_eq]
  cases ((acceptedPlace? accept as).run m').1 with
  | none => rw [Option.map_none, Option.getD_none, Option.getD_none, List.length_cons, List.drop_succ_cons]
  | some place => rw [Option.map_some, Option.getD_some, Option.getD_some, List.drop_succ_cons]

theorem run_firstAccepted_of_accepted (ha : (accept a).run m = (true, m')) (as : List Address) :
    (firstAccepted accept (a :: as)).run m = (some a, m') := by
  simp only [firstAccepted, StateT.run_bind, ha]
  rfl

theorem run_firstAccepted_of_refused (ha : (accept a).run m = (false, m')) (as : List Address) :
    (firstAccepted accept (a :: as)).run m = (firstAccepted accept as).run m' := by
  simp only [firstAccepted, StateT.run_bind, ha]
  rfl

end

section

variable (accept : Address → StateM ρ Bool)

/-- **The trace is what is kept**, and the filter is asked about no more than that takes. -/
theorem run_fromFirstAccepted (as : List Address) (m : ρ) (notes : List Address) :
    ∃ asked kept, Sifted accept m as asked kept ∧
      (fromFirstAccepted accept as).run m = (kept, memoryAfter accept m asked) ∧
      (fromFirstAccepted (noted accept) as).run (m, notes)
        = (kept, memoryAfter accept m asked, notes ++ asked) := by
  induction as generalizing m notes with
  | nil =>
    refine ⟨[], [], .nothing (.nil _ m), rfl, ?_⟩
    rw [List.append_nil]
    rfl
  | cons a as ih =>
    obtain ⟨ok, m', ha⟩ : ∃ ok m', (accept a).run m = (ok, m') := ⟨_, _, rfl⟩
    have hnoted := run_noted_of_run ha notes
    cases ok with
    | true =>
      have hsifted : Sifted accept m (a :: as) ([] ++ [a]) (a :: as) :=
        .upward rfl (.nil _ m) (congrArg Prod.fst ha)
      have hmemory : memoryAfter accept m [a] = m' := memoryAfter_cons ha []
      refine ⟨[a], a :: as, hsifted, ?_, ?_⟩
      · rw [hmemory, run_fromFirstAccepted_of_accepted ha]
      · rw [hmemory, run_fromFirstAccepted_of_accepted hnoted]
    | false =>
      obtain ⟨asked, kept, hsifted, hrun, hrunNoted⟩ := ih m' (notes ++ [a])
      refine ⟨a :: asked, kept, hsifted.cons ha, ?_, ?_⟩
      · rw [memoryAfter_cons ha, run_fromFirstAccepted_of_refused ha, hrun]
      · rw [memoryAfter_cons ha, run_fromFirstAccepted_of_refused hnoted, hrunNoted, List.append_assoc,
          List.singleton_append]

/-- **The search for one address** finds where the trace begins, and asks the filter the same. -/
theorem run_firstAccepted (as : List Address) (m : ρ) :
    (firstAccepted accept as).run m
      = (((fromFirstAccepted accept as).run m).1.head?, ((fromFirstAccepted accept as).run m).2) := by
  induction as generalizing m with
  | nil => rfl
  | cons a as ih =>
    obtain ⟨ok, m', ha⟩ : ∃ ok m', (accept a).run m = (ok, m') := ⟨_, _, rfl⟩
    cases ok with
    | true => rw [run_firstAccepted_of_accepted ha, run_fromFirstAccepted_of_accepted ha, List.head?_cons]
    | false => rw [run_firstAccepted_of_refused ha, run_fromFirstAccepted_of_refused ha, ih]

end

namespace Pool

variable {bufferLength capacity : Nat} {s : Supply} {p : Pool} {held : List Buffer}

/-- A way to go through a stack shows its addresses, innermost first, to a recorder until that stops. -/
def Shows (through : (Address → StateM (List Address) Bool) → StateM (List Address) Unit)
    (stack : List Address) : Prop :=
  ∀ visitor content, ((through visitor).run content).2 = ((visitList visitor stack).run content).2

theorem run_trace (recorded : List Address) (accept : Address → StateM ρ Bool) (m : ρ) :
    (trace recorded accept).run m
      = (.ofAddresses ((fromFirstAccepted accept recorded).run m).1,
        ((fromFirstAccepted accept recorded).run m).2) := rfl

theorem run_caller (recorded : List Address) (accept : Address → StateM ρ Bool) (m : ρ) :
    (caller recorded accept).run m
      = (((trace recorded accept).run m).1.addresses.head?.getD Address.none,
        ((trace recorded accept).run m).2) := by
  show (((firstAccepted accept recorded).run m).1.getD Address.none, ((firstAccepted accept recorded).run m).2) = _
  rw [run_firstAccepted]
  rfl

/-- The beginning of the stack is recorded that the buffers of the pool have room for. -/
theorem Reached.recorded_eq (h : Reached bufferLength capacity s p held) (stack : List Address) :
    ((p.walk stack).run s).1.1 = stack.take (max bufferLength 1) := by
  have hempty : (p.checkout.run s).1.1.content = [] := content_checkout h.lends.empty s
  have hlength : max (p.bufferLength - 0) 1 = max bufferLength 1 := by
    rw [h.lends.bufferLength_eq]
    omega
  rw [run_walk]
  show record p.bufferLength (p.checkout.run s).1.1.content stack = _
  rw [hempty, record_eq, List.length_nil, hlength, List.nil_append]

/-- **The innermost place that counts is where the trace begins.**  Whatever was done with a pool, and however
deep a stack is: as many of its innermost addresses are recorded as the buffers are long, but one in any case,
and this is what the recorder leaves in the buffer taken out when the stack is shown to it until it stops.
Any filter, whatever it remembers, is then asked about the recorded addresses up to and including the first
one that it accepts; the trace is what is recorded from there on, or empty; the innermost place is that
address, or no place; and so the innermost place is the first address of the trace, or no place if the trace
is empty. -/
theorem Reached.sifts_recorded (h : Reached bufferLength capacity s p held) (stack : List Address) :
    let recorded := ((p.walk stack).run s).1.1
    recorded = stack.take (min stack.length (max bufferLength 1)) ∧
    (∀ through, Shows through stack →
      ((through (jot p.bufferLength)).run (p.checkout.run s).1.1.content).2 = recorded) ∧
    ∀ {ρ : Type} (accept : Address → StateM ρ Bool) (m : ρ), ∃ asked kept,
      Sifted accept m recorded asked kept ∧
      (trace recorded accept).run m = (.ofAddresses kept, memoryAfter accept m asked) ∧
      (trace recorded (noted accept)).run (m, []) = (.ofAddresses kept, memoryAfter accept m asked, asked) ∧
      (caller recorded accept).run m = (kept.head?.getD Address.none, memoryAfter accept m asked) ∧
      (caller recorded (noted accept)).run (m, [])
        = (kept.head?.getD Address.none, memoryAfter accept m asked, asked) ∧
      ((caller recorded accept).run m).1
        = ((trace recorded accept).run m).1.addresses.head?.getD Address.none := by
  intro recorded
  refine ⟨?_, fun through hthrough => ?_, fun accept m => ?_⟩
  · rw [show recorded = stack.take (max bufferLength 1) from h.recorded_eq stack, List.take_eq_take_iff]
    omega
  · rw [hthrough, run_visitList_jot]
    rfl
  · obtain ⟨asked, kept, hsifted, hrun, hnoted⟩ := run_fromFirstAccepted accept recorded m []
    have htrace : (trace recorded accept).run m = (.ofAddresses kept, memoryAfter accept m asked) := by
      rw [run_trace, hrun]
    have htraceNoted : (trace recorded (noted accept)).run (m, [])
        = (.ofAddresses kept, memoryAfter accept m asked, asked) := by
      rw [run_trace, hnoted, List.nil_append]
    refine ⟨asked, kept, hsifted, htrace, htraceNoted, ?_, ?_, ?_⟩
    · rw [run_caller, htrace]
      rfl
    · rw [run_caller, htraceNoted]
      rfl
    · rw [run_caller]

/-- Two of three addresses are recorded, and the filter refuses what it is asked about first. -/
theorem Reached.sifts_recorded_from_second :
    let stack : List Address := [5, 6, 7]
    let accept (_ : Address) : StateM Nat Bool := fun asked => (asked != 0, asked + 1)
    let through (visitor : Address → StateM (List Address) Bool) : StateM (List Address) Unit := do
      let _ ← visitList visitor stack
    Reached 2 1 ⟨1⟩ (make 2 1) [] ∧ Shows through stack ∧ ((through (jot 2)).run []).2 = [5, 6] ∧
      ∃ asked kept, Sifted accept 0 [5, 6] asked kept ∧
        (trace [5, 6] accept).run 0 = (.ofAddresses kept, memoryAfter accept 0 asked) ∧
        (caller [5, 6] (noted accept)).run (0, []) = (6, 2, [5, 6]) := by
  intro stack accept through
  have h : Reached 2 1 ⟨1⟩ (make 2 1) [] := .start ⟨1⟩
  have hshows : Shows through stack := fun _ _ => rfl
  obtain ⟨-, hrecord, hsift⟩ := h.sifts_recorded stack
  obtain ⟨asked, kept, hsifted, htrace, -, -, -, -⟩ := hsift accept 0
  exact ⟨h, hshows, hrecord through hshows, asked, kept, hsifted, htrace, rfl⟩

end Pool

end Vigil
