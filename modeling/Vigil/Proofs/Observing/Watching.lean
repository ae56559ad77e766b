import Vigil.Observe

/-!
# Watching an observer at work

An observer is seen from outside in the calls it makes of its parts.  To watch it, every part is
given a second one that first notes its call and then does what the part does: the memory of all
parts becomes a memory with the calls so far beside it, and the parts act on the first and are noted
in the second.  The parts stay as they are, arbitrary actions on the memory; in particular none of
them can read or change what was noted.

* `Call` — one call of a part, with what the part was given;
* `Watched`, `World.watch`, `Desk.watch` — a memory with calls beside it;
* `Act.noted`, `Act.unnoted`, `Act.unwatched` — acting with and without a note, and back;
* `Observer.watched`, `Kit.watched` — an observer all of whose parts are noted, and the kit that
  goes with it;
* the run lemmas (`Act.run_noted`, `Probe.run_caller_watched`, …) — a watched part does what the part
  does, and adds its own call.
-/

namespace Vigil

variable {σ α : Type}

/-- One call of a part of an observer, with what the part is given.  Gates and reviews go by their
place in the row. -/
inductive Call where
  | gate (place : Nat) (ids : TraceIds) (failure : Failure)
  | caller
  | stack
  | threads
  | review (place : Nat) (seen : Report)
  | emit (given : Report)

/-- A memory, and beside it the calls so far, in order. -/
structure Watched (σ : Type) where
  memory : σ
  calls : List Call

/-- The world with calls beside its memory. -/
def World.watch (w : World σ) (calls : List Call) : World (Watched σ) :=
  ⟨w.supply, ⟨w.memory, calls⟩⟩

/-- The world without the calls. -/
def World.unwatch (w : World (Watched σ)) : World σ := ⟨w.supply, w.memory.memory⟩

/-- The desk with calls beside its memory. -/
def Desk.watch (d : Desk σ) (calls : List Call) : Desk (Watched σ) :=
  ⟨d.nextReport, d.world.watch calls⟩

theorem World.watch_inj {w w' : World σ} {calls calls' : List Call}
    (h : w.watch calls = w'.watch calls') : w = w' ∧ calls = calls' := by
  obtain ⟨s, m⟩ := w
  obtain ⟨s', m'⟩ := w'
  simpa [World.watch, and_assoc] using h

theorem Desk.watch_inj {d d' : Desk σ} {calls calls' : List Call}
    (h : d.watch calls = d'.watch calls') : d = d' ∧ calls = calls' := by
  obtain ⟨n, w⟩ := d
  obtain ⟨n', w'⟩ := d'
  obtain ⟨hn, hw⟩ := (Desk.mk.injEq ..).mp h
  obtain ⟨rfl, rfl⟩ := World.watch_inj hw
  exact ⟨congrArg (Desk.mk · w) hn, rfl⟩

/-! ## Acting under watch -/

namespace Act

/-- Act on the memory; no call is noted. -/
def unnoted (x : Act σ α) : Act (Watched σ) α := fun w =>
  let r := x.run w.unwatch
  (r.1, r.2.watch w.memory.calls)

/-- Note a call, and act on the memory. -/
def noted (c : Call) (x : Act σ α) : Act (Watched σ) α := fun w =>
  x.unnoted.run (w.unwatch.watch (w.memory.calls ++ [c]))

/-- What an action under watch does to the memory alone, when these were the calls so far. -/
def unwatched (calls : List Call) (x : Act (Watched σ) α) : Act σ α := fun w =>
  let r := x.run (w.watch calls)
  (r.1, r.2.unwatch)

theorem run_noted (c : Call) (x : Act σ α) (w : World σ) (calls : List Call) :
    (x.noted c).run (w.watch calls) = ((x.run w).1, (x.run w).2.watch (calls ++ [c])) := rfl

theorem unwatched_unnoted (calls : List Call) (x : Act σ α) :
    x.unnoted.unwatched calls = x := rfl

end Act

/-! ## The parts under watch -/

/-- The filter under watch; it is no part of the observer's own, and is not noted. -/
def PlaceFilter.watched (f : PlaceFilter σ) : PlaceFilter (Watched σ) := fun a => (f a).unnoted

/-- The gate at a place of the row under watch. -/
def Gate.watched (place : Nat) (g : Gate σ) : Gate (Watched σ) := fun ids failure =>
  (g ids failure).noted (.gate place ids failure)

/-- The review at a place of the row under watch. -/
def Review.watched (place : Nat) (v : Review σ) : Review (Watched σ) := fun r =>
  (v r).noted (.review place r)

/-- A row of gates under watch, the first of which has the place `n`. -/
def Gate.watchedFrom : Nat → List (Gate σ) → List (Gate (Watched σ))
  | _, [] => []
  | n, g :: gs => g.watched n :: watchedFrom (n + 1) gs

/-- A row of reviews under watch, the first of which has the place `n`. -/
def Review.watchedFrom : Nat → List (Review σ) → List (Review (Watched σ))
  | _, [] => []
  | n, v :: vs => v.watched n :: watchedFrom (n + 1) vs

/-- The probe under watch.  The filter it is handed may be noted by someone else, so what the filter
does to the memory alone is what the probe is given. -/
def Probe.watched (p : Probe σ) : Probe (Watched σ) where
  caller accept := fun w =>
    ((p.caller fun a => (accept a).unwatched w.memory.calls).noted .caller).run w
  stack accept := fun w =>
    ((p.stack fun a => (accept a).unwatched w.memory.calls).noted .stack).run w
  threads := p.threads.noted .threads

/-- The sink under watch. -/
def Sink.watched (s : Sink σ) : Sink (Watched σ) where
  emit r := (s.emit r).noted (.emit r)
  flush := s.flush.unnoted

/-- The observer with all its parts under watch. -/
def Observer.watched (o : Observer σ) : Observer (Watched σ) where
  sink := ⟨o.sink.mark, o.sink.val.watched⟩
  gates := Gate.watchedFrom 0 o.gates
  reviews := Review.watchedFrom 0 o.reviews
  context := o.context
  folded := o.folded
  traceIds := o.traceIds
  probe := o.probe.watched
  filter := o.filter.map PlaceFilter.watched

/-- The tool among tools under watch. -/
def Tool.watched : Tool σ → Tool (Watched σ)
  | observer o => observer o.watched
  | tracer active => tracer active
  | holder h => holder ⟨h.name, h.counter, h.fields, h.traceIds, h.onFlush.unnoted⟩

/-- The kit with its tools under watch. -/
def Kit.watched (k : Kit σ) : Kit (Watched σ) where
  fields := k.fields
  traceIds := k.traceIds
  tools := ⟨k.tools.entries.map fun e => (e.1, ⟨e.2.mark, e.2.val.watched⟩)⟩

/-! ### What does not change under watch -/

theorem Gate.watchedFrom_append (n : Nat) (gs gs' : List (Gate σ)) :
    watchedFrom n (gs ++ gs') = watchedFrom n gs ++ watchedFrom (n + gs.length) gs' := by
  induction gs generalizing n with
  | nil => rfl
  | cons g gs ih =>
    simp only [List.cons_append, watchedFrom, ih, List.length_cons]
    rw [show n + 1 + gs.length = n + (gs.length + 1) from by omega]

theorem Gate.length_watchedFrom (n : Nat) (gs : List (Gate σ)) :
    (watchedFrom n gs).length = gs.length := by
  induction gs generalizing n with
  | nil => rfl
  | cons g gs ih => rw [watchedFrom, List.length_cons, List.length_cons, ih]

theorem Review.watchedFrom_append (n : Nat) (vs vs' : List (Review σ)) :
    watchedFrom n (vs ++ vs') = watchedFrom n vs ++ watchedFrom (n + vs.length) vs' := by
  induction vs generalizing n with
  | nil => rfl
  | cons v vs ih =>
    simp only [List.cons_append, watchedFrom, ih, List.length_cons]
    rw [show n + 1 + vs.length = n + (vs.length + 1) from by omega]

theorem Observer.effectiveIds_watched (o : Observer σ) (k : Kit σ) :
    o.watched.effectiveIds k.watched = o.effectiveIds k := rfl

theorem Observer.layeredFields_watched (o : Observer σ) (k : Kit σ) (extras : List Field) :
    o.watched.layeredFields k.watched extras = o.layeredFields k extras := rfl

theorem Observer.getD_filter_watched (o : Observer σ) (fallback : PlaceFilter σ) :
    o.watched.filter.getD fallback.watched = (o.filter.getD fallback).watched := by
  simp only [watched]
  cases o.filter <;> rfl

theorem Tool.activeSpan_watched (t : Tool σ) : t.watched.activeSpan = t.activeSpan := by
  cases t <;> rfl

theorem Kit.activeSpan_watched (k : Kit σ) : k.watched.activeSpan = k.activeSpan := by
  simp only [activeSpan, tool?, Toolbox.find?, watched, List.find?_map, Option.map_map,
    Function.comp_def]
  cases k.tools.entries.find? fun e => e.1 = ToolName.tracer with
  | none => rfl
  | some e => exact e.2.val.activeSpan_watched

/-! ### What a probe finds under watch -/

theorem Probe.run_caller_watched (p : Probe σ) (f : PlaceFilter σ) (w : World σ)
    (calls : List Call) :
    (p.watched.caller f.watched).run (w.watch calls)
      = (((p.caller f).run w).1, ((p.caller f).run w).2.watch (calls ++ [.caller])) := by
  show ((p.caller fun a => (f a).unnoted.unwatched calls).noted .caller).run (w.watch calls) = _
  simp only [Act.unwatched_unnoted]
  rw [Act.run_noted]

theorem Probe.run_stack_watched (p : Probe σ) (f : PlaceFilter σ) (w : World σ)
    (calls : List Call) :
    (p.watched.stack f.watched).run (w.watch calls)
      = (((p.stack f).run w).1, ((p.stack f).run w).2.watch (calls ++ [.stack])) := by
  show ((p.stack fun a => (f a).unnoted.unwatched calls).noted .stack).run (w.watch calls) = _
  simp only [Act.unwatched_unnoted]
  rw [Act.run_noted]

end Vigil
