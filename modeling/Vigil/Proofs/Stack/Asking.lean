import Vigil.Probe
import Vigil.Proofs.Stack.Lending

/-!
# Asking a filter while the buffer is out

To answer a question, a probe takes a buffer out of its pool, records the stack into it and puts a filter to what
is recorded; only then the buffer goes back.  A filter is a part like any other, and the pool may be in its reach:
it may even ask the same probe itself.  Proved:

* `Pool.Minds` — what an action may do with a pool while buffers of it are out; `Pool.Minds.bind`;
* `Probe.minds_withRecorded`, `Probe.minds_system` — the questions of a probe are such actions if those are that
  they are put together from, so no buffer is in two places whatever filters do;
* `Probe.run_withRecorded_eq_walk` — where the pool is left alone meanwhile, a question is a walk with the pool, and
  the filter is put to what the walk records.
-/

namespace Vigil

variable {σ α β : Type}

/-! ## Actions on a memory with a pool -/

/-- The action leaves the buffers that are held with their holders, and otherwise does with the pool in the slot
what can be done with pools. -/
def Pool.Minds (bufferLength capacity : Nat) (pool : Slot σ Pool) (x : Act σ α) : Prop :=
  ∀ w held, Reached bufferLength capacity w.supply (pool.get w.memory) held →
    Reached bufferLength capacity (x.run w).2.supply (pool.get (x.run w).2.memory) held

namespace Pool.Minds

variable {bufferLength capacity : Nat} {pool : Slot σ Pool}

theorem pure (pool : Slot σ Pool) (a : α) : Minds bufferLength capacity pool (Pure.pure a : Act σ α) :=
  fun _ _ h => h

theorem bind {x : Act σ α} {f : α → Act σ β} (hx : Minds bufferLength capacity pool x)
    (hf : ∀ a, Minds bufferLength capacity pool (f a)) : Minds bufferLength capacity pool (x >>= f) :=
  fun w held h => hf (x.run w).1 (x.run w).2 held (hx w held h)

variable {accept : PlaceFilter σ} (haccept : ∀ a, Minds bufferLength capacity pool (accept a))

include haccept

theorem firstAccepted (as : List Address) :
    Minds bufferLength capacity pool (Vigil.firstAccepted accept as) := by
  induction as with
  | nil => exact pure pool _
  | cons a as ih =>
    refine bind (haccept a) fun ok => ?_
    cases ok with
    | false => exact ih
    | true => exact pure pool _

theorem acceptedPlace? (as : List Address) :
    Minds bufferLength capacity pool (Vigil.acceptedPlace? accept as) := by
  induction as with
  | nil => exact pure pool _
  | cons a as ih =>
    refine bind (haccept a) fun ok => ?_
    cases ok with
    | false => exact bind ih fun _ => pure pool _
    | true => exact pure pool _

theorem caller (recorded : List Address) : Minds bufferLength capacity pool (Pool.caller recorded accept) :=
  bind (firstAccepted haccept recorded) fun _ => pure pool _

theorem trace (recorded : List Address) : Minds bufferLength capacity pool (Pool.trace recorded accept) :=
  bind (bind (acceptedPlace? haccept recorded) fun _ => pure pool _) fun _ => pure pool _

end Pool.Minds

/-! ## The questions of a probe -/

namespace Probe

/-- The buffer that is taken out for a question, and the world without it. -/
def lend (pool : Slot σ Pool) (w : World σ) : Buffer × World σ :=
  let out := (pool.get w.memory).checkout.run w.supply
  (out.1.1, ⟨out.2, pool.set out.1.2 w.memory⟩)

variable {bufferLength capacity : Nat} {pool : Slot σ Pool} {readStack : Act σ (List Address)}

-- The slot gives back what is put into it.
variable (hpool : ∀ p m, pool.get (pool.set p m) = p)

/-- **A question, step by step**: the buffer goes back into the pool as it is found when the question is answered,
which need not be the pool that it was taken out of. -/
theorem run_withRecorded (f : List Address → Act σ α) (w : World σ) :
    (withRecorded pool readStack f).run w
      = let b := (lend pool w).1
        let read := readStack.run (lend pool w).2
        let recorded := record (pool.get w.memory).bufferLength b.content read.1
        let found := (f recorded).run read.2
        (found.1, ⟨found.2.supply,
          pool.set ((pool.get found.2.memory).release { b with content := recorded }) found.2.memory⟩) := by
  simp only [← Pool.bufferLength_checkout (pool.get w.memory) w.supply]
  rfl

include hpool

/-- A buffer that is taken out is one more of those that are held. -/
theorem reached_lend {w : World σ} {held : List Buffer}
    (h : Pool.Reached bufferLength capacity w.supply (pool.get w.memory) held) :
    Pool.Reached bufferLength capacity (lend pool w).2.supply (pool.get (lend pool w).2.memory)
      ((lend pool w).1 :: held) := by
  simp only [lend, hpool]
  exact h.checkout

/-- **A buffer that is out stays out until it is put back**, while the stack is read and while `f` goes on with
what was recorded. -/
theorem minds_withRecorded {f : List Address → Act σ α}
    (hread : Pool.Minds bufferLength capacity pool readStack)
    (hf : ∀ recorded, Pool.Minds bufferLength capacity pool (f recorded)) :
    Pool.Minds bufferLength capacity pool (withRecorded pool readStack f) := by
  intro w held h
  let read := readStack.run (lend pool w).2
  let recorded := record (pool.get w.memory).bufferLength (lend pool w).1.content read.1
  have hlent := reached_lend hpool h
  have hread' : Pool.Reached bufferLength capacity read.2.supply (pool.get read.2.memory)
      ([] ++ (lend pool w).1 :: held) := hread _ _ hlent
  have hfound := hf recorded _ _ (hread'.write recorded)
  rw [run_withRecorded]
  simp only [hpool]
  exact hfound.release

/-- **The questions of a probe lend every buffer to one holder at a time**, whatever the filter does with the pool
while it is asked, as long as it leaves with others what they hold. -/
theorem minds_system (settings : Settings) (readThreads : Act σ (List Frame × Census)) {accept : PlaceFilter σ}
    (hread : Pool.Minds bufferLength capacity pool readStack)
    (haccept : ∀ a, Pool.Minds bufferLength capacity pool (accept a)) :
    Pool.Minds bufferLength capacity pool ((system settings pool readStack readThreads).caller accept) ∧
      Pool.Minds bufferLength capacity pool ((system settings pool readStack readThreads).stack accept) := by
  constructor
  · exact minds_withRecorded (f := fun recorded => Pool.caller recorded accept) hpool hread (.caller haccept)
  · exact minds_withRecorded (f := fun recorded => Pool.trace recorded accept) hpool hread (.trace haccept)

/-- **Where the pool is left alone, a question is a walk**: what is gone on with is what the walk records, and the
pool is then as the walk leaves it. -/
theorem run_withRecorded_eq_walk {f : List Address → Act σ α}
    (hread : ∀ w, pool.get (readStack.run w).2.memory = pool.get w.memory)
    (hf : ∀ recorded w, pool.get ((f recorded).run w).2.memory = pool.get w.memory) (w : World σ) :
    let read := readStack.run (lend pool w).2
    let walked := ((pool.get w.memory).walk read.1).run w.supply
    ((withRecorded pool readStack f).run w).1 = ((f walked.1.1).run read.2).1 ∧
      pool.get ((withRecorded pool readStack f).run w).2.memory = walked.1.2 := by
  intro read walked
  have hlent : pool.get (lend pool w).2.memory = ((pool.get w.memory).checkout.run w.supply).1.2 := hpool _ _
  refine ⟨by rw [run_withRecorded]; rfl, ?_⟩
  rw [run_withRecorded]
  simp only [hpool, hf, hread, hlent]
  rfl

end Probe

end Vigil
