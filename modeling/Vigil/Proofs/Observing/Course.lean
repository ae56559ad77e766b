import Vigil.Proofs.Observing.Watching

/-!
# The course of an observation

Observing a failure is a fixed course with three places where it can end early: there may be no
failure, a gate may skip it, a review may veto its report.  Here the course is laid down as a relation
between what is observed, the calls that are made of the parts, and what comes of it, for an observer
whose parts are arbitrary actions:

* `Gate.Pass`, `Review.Keep` — all gates of a row let a failure pass, all reviews keep a report, each
  going on where the one before it left off;
* `Observer.Assemble` — the three questions to the probe, and the report put together;
* `Observer.Course` — the four ways an observation can go, with the calls of each.

Proved: the relation is what `Observer.observeOn` does (`Course.run_eq`, `exists_course`), it is the
same for an observer under watch, whose notes are then exactly the calls of the course
(`Course.watched`), and so every observation makes the calls of its course, in that order and no others
(`observeOn_follows_course`).
-/

namespace Vigil

variable {σ : Type}

/-! ## The stages -/

/-- The gates of a row, asked one after another, all let a failure pass: from a world, with the fields
they add in the order of the gates, to the world they leave. -/
inductive Gate.Pass (ids : TraceIds) (failure : Failure) :
    List (Gate σ) → World σ → List Field → World σ → Prop
  | nil {w : World σ} : Pass ids failure [] w [] w
  | cons {g : Gate σ} {gs : List (Gate σ)} {w w₁ w₂ : World σ} {extras more : List Field} :
      (g ids failure).run w = (.pass extras, w₁) → Pass ids failure gs w₁ more w₂ →
      Pass ids failure (g :: gs) w (extras ++ more) w₂

/-- The reviews of a row, shown a report one after another, all keep it: each sees the report as the
one before left it.  `seen` are the reports they were shown, in the order of the reviews. -/
inductive Review.Keep :
    List (Review σ) → Report → World σ → List Report → Report → World σ → Prop
  | nil {r : Report} {w : World σ} : Keep [] r w [] r w
  | cons {v : Review σ} {vs : List (Review σ)} {r r₁ r₂ : Report} {w w₁ w₂ : World σ}
      {seen : List Report} :
      (v r).run w = ((true, r₁), w₁) → Keep vs r₁ w₁ seen r₂ w₂ →
      Keep (v :: vs) r w (r :: seen) r₂ w₂

/-- The probe is asked for the caller, the stack and the threads, in this order, and the report is put
together under the number `n`. -/
inductive Observer.Assemble (o : Observer σ) (fallback : PlaceFilter σ) (k : Kit σ)
    (failure : Failure) (extras : List Field) (n : UInt64) : World σ → Report → World σ → Prop
  | mk {w w₁ w₂ w₃ : World σ} {supply : Supply} {caller : Address} {stack : StackTrace}
      {threads : ThreadCapture} {fields : Chain Field} :
      (o.probe.caller (o.filter.getD fallback)).run w = (caller, w₁) →
      (o.probe.stack (o.filter.getD fallback)).run w₁ = (stack, w₂) →
      o.probe.threads.run w₂ = (threads, w₃) →
      (o.layeredFields k extras).run w₃.supply = (fields, supply) →
      Assemble o fallback k failure extras n w
        { id := n, level := levelOf failure, message := failure.message, fields
          traceIds := o.effectiveIds k, caller, traits := traitsOf failure
          failure := failure.account, stack, spans := Span.pathTo k.activeSpan
          currentThreadId := threads.currentId, threads := threads.threads }
        { w₃ with supply }

/-! ## The calls of each stage -/

/-- The calls of `m` gates of a row, the first of which has the place `n`. -/
def gateCalls (ids : TraceIds) (failure : Failure) (n m : Nat) : List Call :=
  (List.range' n m).map (Call.gate · ids failure)

/-- The calls of the probe. -/
def probeCalls : List Call := [.caller, .stack, .threads]

/-- The calls of as many reviews as there are reports, each shown one; the first review has the place
`n`. -/
def reviewCalls (n : Nat) (seen : List Report) : List Call :=
  (seen.zipIdx n).map fun e => .review e.2 e.1

/-- **The course of an observation.**  What is observed at a desk, the calls that are made, what is
delivered, and the desk afterwards. -/
inductive Observer.Course (o : Observer σ) (fallback : PlaceFilter σ) (k : Kit σ) :
    Option Failure → Desk σ → List Call → Option Report → Desk σ → Prop
  /-- Nothing happened: no part is called. -/
  | absent {d : Desk σ} : Course o fallback k none d [] none d
  /-- The gate `g` skips and those before it do not: they and `g` are called, and no number is
  drawn. -/
  | skipped {failure : Failure} {d : Desk σ} {before after : List (Gate σ)} {g : Gate σ}
      {extras : List Field} {w w' : World σ} :
      o.gates = before ++ g :: after →
      Gate.Pass (o.effectiveIds k) failure before d.world extras w →
      (g (o.effectiveIds k) failure).run w = (.skip, w') →
      Course o fallback k (some failure) d
        (gateCalls (o.effectiveIds k) failure 0 (before.length + 1)) none { d with world := w' }
  /-- All gates let it pass; the review `v` vetoes the report and those before it keep it. -/
  | vetoed {failure : Failure} {d : Desk σ} {before after : List (Review σ)} {v : Review σ}
      {extras : List Field} {w₁ w₂ w₃ w₄ : World σ} {seen : List Report} {r r₁ r₂ : Report} :
      Gate.Pass (o.effectiveIds k) failure o.gates d.world extras w₁ →
      o.Assemble fallback k failure extras d.nextReport w₁ r w₂ →
      o.reviews = before ++ v :: after →
      Review.Keep before r w₂ seen r₁ w₃ →
      (v r₁).run w₃ = ((false, r₂), w₄) →
      Course o fallback k (some failure) d
        (gateCalls (o.effectiveIds k) failure 0 o.gates.length ++ probeCalls
          ++ reviewCalls 0 (seen ++ [r₁]))
        none ⟨d.nextReport + 1, w₄⟩
  /-- All gates let it pass and all reviews keep the report: it is emitted as they left it, and what is
  delivered is the report as the sink left it. -/
  | delivered {failure : Failure} {d : Desk σ} {extras : List Field} {w₁ w₂ w₃ w₄ : World σ}
      {seen : List Report} {r r₁ r₂ : Report} :
      Gate.Pass (o.effectiveIds k) failure o.gates d.world extras w₁ →
      o.Assemble fallback k failure extras d.nextReport w₁ r w₂ →
      Review.Keep o.reviews r w₂ seen r₁ w₃ →
      (o.sink.val.emit r₁).run w₃ = (r₂, w₄) →
      Course o fallback k (some failure) d
        (gateCalls (o.effectiveIds k) failure 0 o.gates.length ++ probeCalls
          ++ reviewCalls 0 seen ++ [.emit r₁])
        (some r₂) ⟨d.nextReport + 1, w₄⟩

/-! ## One equation for each stage -/

/-- What follows a computation goes on with its value, where it left the state. -/
theorem run_bind_of_run_eq {ρ α β : Type} {x : StateM ρ α} {f : α → StateM ρ β} {s s' : ρ} {a : α}
    (h : x.run s = (a, s')) : (x >>= f).run s = (f a).run s' := by
  show (f (x.run s).1).run (x.run s).2 = (f a).run s'
  rw [h]

theorem Act.run_fresh {α : Type} {x : Fresh α} {w : World σ} {s : Supply} {a : α}
    (h : x.run w.supply = (a, s)) : (Act.fresh x : Act σ α).run w = (a, { w with supply := s }) := by
  show ((x.run w.supply).1, ({ w with supply := (x.run w.supply).2 } : World σ)) = _
  rw [h]

theorem Desk.run_act {α : Type} {x : Act σ α} {n : UInt64} {w w' : World σ} {a : α}
    (h : x.run w = (a, w')) : (Desk.act x).run ⟨n, w⟩ = (a, ⟨n, w'⟩) := by
  show ((x.run w).1, (⟨n, (x.run w).2⟩ : Desk σ)) = (a, ⟨n, w'⟩)
  rw [h]

theorem Gate.run_runAll_cons (ids : TraceIds) (failure : Failure) (g : Gate σ)
    (gs : List (Gate σ)) (w : World σ) :
    (runAll ids failure (g :: gs)).run w
      = match (g ids failure).run w with
        | (.skip, w') => (none, w')
        | (.pass extras, w') =>
          (((runAll ids failure gs).run w').1.map (extras ++ ·), ((runAll ids failure gs).run w').2) := by
  rw [runAll]
  cases h : (g ids failure).run w with
  | mk verdict w' =>
    rw [run_bind_of_run_eq h]
    cases verdict <;> rfl

theorem Review.run_runAll_cons (v : Review σ) (vs : List (Review σ)) (r : Report) (w : World σ) :
    (runAll (v :: vs) r).run w
      = match (v r).run w with
        | ((true, r'), w') => (runAll vs r').run w'
        | ((false, r'), w') => ((false, r'), w') := by
  rw [runAll]
  cases h : (v r).run w with
  | mk decision w' =>
    rw [run_bind_of_run_eq h]
    obtain ⟨kept, r'⟩ := decision
    cases kept <;> rfl

/-! ## The course is what observing does -/

/-- Behind gates that let a failure pass, a row goes on with the rest of it. -/
theorem Gate.Pass.run_append {ids : TraceIds} {failure : Failure} {gs : List (Gate σ)}
    {w w' : World σ} {extras : List Field} (h : Pass ids failure gs w extras w')
    (rest : List (Gate σ)) :
    (runAll ids failure (gs ++ rest)).run w
      = (((runAll ids failure rest).run w').1.map (extras ++ ·),
          ((runAll ids failure rest).run w').2) := by
  induction h with
  | nil =>
    simp only [List.nil_append, Option.map_id']
    rfl
  | cons hg _ ih =>
    rw [List.cons_append, run_runAll_cons, hg]
    simp only [ih, Option.map_map, Function.comp_def, List.append_assoc]

theorem Gate.Pass.run_eq {ids : TraceIds} {failure : Failure} {gs : List (Gate σ)}
    {w w' : World σ} {extras : List Field} (h : Pass ids failure gs w extras w') :
    (runAll ids failure gs).run w = (some extras, w') := by
  have hrow := h.run_append []
  rw [List.append_nil] at hrow
  rw [hrow, runAll]
  show (some (extras ++ []), w') = (some extras, w')
  rw [List.append_nil]

/-- Behind reviews that keep a report, a row goes on with the rest of it. -/
theorem Review.Keep.run_append {vs : List (Review σ)} {r r' : Report} {w w' : World σ}
    {seen : List Report} (h : Keep vs r w seen r' w') (rest : List (Review σ)) :
    (runAll (vs ++ rest) r).run w = (runAll rest r').run w' := by
  induction h with
  | nil => rfl
  | cons hv _ ih =>
    rw [List.cons_append, run_runAll_cons, hv]
    exact ih

theorem Review.Keep.run_eq {vs : List (Review σ)} {r r' : Report} {w w' : World σ}
    {seen : List Report} (h : Keep vs r w seen r' w') :
    (runAll vs r).run w = ((true, r'), w') := by
  have hrow := h.run_append []
  rw [List.append_nil] at hrow
  rw [hrow]
  rfl

theorem Observer.Assemble.run_eq {o : Observer σ} {fallback : PlaceFilter σ} {k : Kit σ}
    {failure : Failure} {extras : List Field} {n : UInt64} {w w' : World σ} {r : Report}
    (h : o.Assemble fallback k failure extras n w r w') :
    (o.assemble fallback k k.activeSpan failure extras).run ⟨n, w⟩ = (r, ⟨n + 1, w'⟩) := by
  obtain ⟨hcaller, hstack, hthreads, hfields⟩ := h
  rw [assemble, run_bind_of_run_eq (Desk.run_act hcaller),
    run_bind_of_run_eq (Desk.run_act hstack), run_bind_of_run_eq (Desk.run_act hthreads),
    Desk.fresh, run_bind_of_run_eq (Desk.run_act (Act.run_fresh hfields))]
  rfl

/-- **An observation that goes by a course ends as the course says.** -/
theorem Observer.Course.run_eq {o : Observer σ} {fallback : PlaceFilter σ} {k : Kit σ}
    {failure : Option Failure} {d d' : Desk σ} {calls : List Call} {result : Option Report}
    (h : o.Course fallback k failure d calls result d') :
    (o.observeOn fallback k failure).run d = (result, d') := by
  cases h with
  | absent => rfl
  | @skipped failure d before after g extras w w' hgates hpass hskip =>
    have hrow : (Gate.runAll (o.effectiveIds k) failure o.gates).run d.world = (none, w') := by
      rw [hgates, hpass.run_append, Gate.run_runAll_cons, hskip]
      rfl
    rw [observeOn, observe, run_bind_of_run_eq (Desk.run_act hrow)]
    rfl
  | @vetoed failure d before after v extras w₁ w₂ w₃ w₄ seen r r₁ r₂ hpass hassemble hreviews hkeep
      hveto =>
    have hrow : (Review.runAll o.reviews r).run w₂ = ((false, r₂), w₄) := by
      rw [hreviews, hkeep.run_append, Review.run_runAll_cons, hveto]
    rw [observeOn, observe, run_bind_of_run_eq (Desk.run_act hpass.run_eq)]
    show (o.assemble fallback k k.activeSpan failure extras >>= _).run _ = _
    rw [run_bind_of_run_eq hassemble.run_eq, run_bind_of_run_eq (Desk.run_act hrow)]
    rfl
  | @delivered failure d extras w₁ w₂ w₃ w₄ seen r r₁ r₂ hpass hassemble hkeep hemit =>
    rw [observeOn, observe, run_bind_of_run_eq (Desk.run_act hpass.run_eq)]
    show (o.assemble fallback k k.activeSpan failure extras >>= _).run _ = _
    rw [run_bind_of_run_eq hassemble.run_eq, run_bind_of_run_eq (Desk.run_act hkeep.run_eq)]
    show (Desk.act (o.sink.val.emit r₁) >>= _).run _ = _
    rw [run_bind_of_run_eq (Desk.run_act hemit)]
    rfl

/-! ## Watching changes nothing but the notes -/

theorem gateCalls_succ (ids : TraceIds) (failure : Failure) (n m : Nat) :
    gateCalls ids failure n (m + 1)
      = .gate n ids failure :: gateCalls ids failure (n + 1) m := by
  simp [gateCalls, List.range'_succ]

theorem gateCalls_append_gate (ids : TraceIds) (failure : Failure) (n m : Nat) :
    gateCalls ids failure n m ++ [.gate (n + m) ids failure] = gateCalls ids failure n (m + 1) := by
  simp [gateCalls, List.range'_concat]

theorem reviewCalls_cons (n : Nat) (r : Report) (seen : List Report) :
    reviewCalls n (r :: seen) = .review n r :: reviewCalls (n + 1) seen := rfl

theorem reviewCalls_append_review (n : Nat) (seen : List Report) (r : Report) :
    reviewCalls n seen ++ [.review (n + seen.length) r] = reviewCalls n (seen ++ [r]) := by
  simp [reviewCalls, List.zipIdx_append]

/-- Gates that let a failure pass do so under watch, and each is noted once, in order. -/
theorem Gate.Pass.watched {ids : TraceIds} {failure : Failure} {gs : List (Gate σ)}
    {w w' : World σ} {extras : List Field} (h : Pass ids failure gs w extras w') (n : Nat)
    (calls : List Call) :
    Pass ids failure (watchedFrom n gs) (w.watch calls) extras
      (w'.watch (calls ++ gateCalls ids failure n gs.length)) := by
  induction h generalizing n calls with
  | nil =>
    simp only [List.length_nil, gateCalls, List.range'_zero, List.map_nil, List.append_nil]
    exact .nil
  | @cons g gs w w₁ w₂ extras more hg _ ih =>
    have hnoted : ((g.watched n) ids failure).run (w.watch calls)
        = (.pass extras, w₁.watch (calls ++ [.gate n ids failure])) := by
      rw [Gate.watched, Act.run_noted, hg]
    have hrest := ih (n + 1) (calls ++ [.gate n ids failure])
    rw [List.append_assoc, List.singleton_append, ← gateCalls_succ] at hrest
    exact .cons hnoted hrest

theorem Review.Keep.length_seen {vs : List (Review σ)} {r r' : Report} {w w' : World σ}
    {seen : List Report} (h : Keep vs r w seen r' w') : seen.length = vs.length := by
  induction h with
  | nil => rfl
  | cons _ _ ih => rw [List.length_cons, List.length_cons, ih]

/-- Reviews that keep a report do so under watch, and each is noted once, with the report it saw. -/
theorem Review.Keep.watched {vs : List (Review σ)} {r r' : Report} {w w' : World σ}
    {seen : List Report} (h : Keep vs r w seen r' w') (n : Nat) (calls : List Call) :
    Keep (watchedFrom n vs) r (w.watch calls) seen r'
      (w'.watch (calls ++ reviewCalls n seen)) := by
  induction h generalizing n calls with
  | nil =>
    simp only [reviewCalls, List.zipIdx_nil, List.map_nil, List.append_nil]
    exact .nil
  | @cons v vs r r₁ r₂ w w₁ w₂ seen hv _ ih =>
    have hnoted : ((v.watched n) r).run (w.watch calls)
        = ((true, r₁), w₁.watch (calls ++ [.review n r])) := by
      rw [Review.watched, Act.run_noted, hv]
    have hrest := ih (n + 1) (calls ++ [.review n r])
    rw [List.append_assoc, List.singleton_append, ← reviewCalls_cons] at hrest
    exact .cons hnoted hrest

/-- The report is put together under watch as without, and the three questions are noted. -/
theorem Observer.Assemble.watched {o : Observer σ} {fallback : PlaceFilter σ} {k : Kit σ}
    {failure : Failure} {extras : List Field} {n : UInt64} {w w' : World σ} {r : Report}
    (h : o.Assemble fallback k failure extras n w r w') (calls : List Call) :
    o.watched.Assemble fallback.watched k.watched failure extras n (w.watch calls) r
      (w'.watch (calls ++ probeCalls)) := by
  cases h with
  | @mk w₁ w₂ w₃ supply caller stack threads fields hcaller hstack hthreads hfields =>
    have hcaller' : (o.watched.probe.caller (o.watched.filter.getD fallback.watched)).run
        (w.watch calls) = (caller, w₁.watch (calls ++ [.caller])) := by
      rw [o.getD_filter_watched]
      show (o.probe.watched.caller _).run _ = _
      rw [Probe.run_caller_watched, hcaller]
    have hstack' : (o.watched.probe.stack (o.watched.filter.getD fallback.watched)).run
        (w₁.watch (calls ++ [.caller])) = (stack, w₂.watch (calls ++ [.caller] ++ [.stack])) := by
      rw [o.getD_filter_watched]
      show (o.probe.watched.stack _).run _ = _
      rw [Probe.run_stack_watched, hstack]
    have hthreads' : o.watched.probe.threads.run (w₂.watch (calls ++ [.caller] ++ [.stack]))
        = (threads, w₃.watch (calls ++ [.caller] ++ [.stack] ++ [.threads])) := by
      show (o.probe.threads.noted .threads).run _ = _
      rw [Act.run_noted, hthreads]
    have hfields' : (o.watched.layeredFields k.watched extras).run
        (w₃.watch (calls ++ [.caller] ++ [.stack] ++ [.threads])).supply = (fields, supply) := by
      rw [o.layeredFields_watched]
      exact hfields
    have h : o.watched.Assemble fallback.watched k.watched failure extras n (w.watch calls) _ _ :=
      .mk hcaller' hstack' hthreads' hfields'
    rw [o.effectiveIds_watched, k.activeSpan_watched] at h
    simpa [probeCalls, World.watch] using h

/-- **A course goes the same way under watch, and its calls are what is noted.** -/
theorem Observer.Course.watched {o : Observer σ} {fallback : PlaceFilter σ} {k : Kit σ}
    {failure : Option Failure} {d d' : Desk σ} {calls : List Call} {result : Option Report}
    (h : o.Course fallback k failure d calls result d') :
    o.watched.Course fallback.watched k.watched failure (d.watch []) calls result
      (d'.watch calls) := by
  cases h with
  | absent => exact .absent
  | @skipped failure d before after g extras w w' hgates hpass hskip =>
    have hgates' : o.watched.gates
        = Gate.watchedFrom 0 before ++ g.watched before.length
          :: Gate.watchedFrom (before.length + 1) after := by
      show Gate.watchedFrom 0 o.gates = _
      rw [hgates, Gate.watchedFrom_append, Nat.zero_add]
      rfl
    have hskip' : (g.watched before.length (o.watched.effectiveIds k.watched) failure).run
          (w.watch (gateCalls (o.effectiveIds k) failure 0 before.length))
        = (.skip, w'.watch (gateCalls (o.effectiveIds k) failure 0 (before.length + 1))) := by
      rw [Gate.watched, Act.run_noted, o.effectiveIds_watched, hskip,
        ← gateCalls_append_gate _ _ 0 before.length, Nat.zero_add]
    have h : o.watched.Course fallback.watched k.watched (some failure) (d.watch []) _ none _ :=
      .skipped hgates' (hpass.watched 0 []) hskip'
    rw [Gate.length_watchedFrom] at h
    exact h
  | @vetoed failure d before after v extras w₁ w₂ w₃ w₄ seen r r₁ r₂ hpass hassemble hreviews hkeep
      hveto =>
    have hreviews' : o.watched.reviews
        = Review.watchedFrom 0 before ++ v.watched before.length
          :: Review.watchedFrom (before.length + 1) after := by
      show Review.watchedFrom 0 o.reviews = _
      rw [hreviews, Review.watchedFrom_append, Nat.zero_add]
      rfl
    have hveto' (calls : List Call) : (v.watched before.length r₁).run
          (w₃.watch (calls ++ reviewCalls 0 seen))
        = ((false, r₂), w₄.watch (calls ++ reviewCalls 0 (seen ++ [r₁]))) := by
      rw [Review.watched, Act.run_noted, hveto, ← reviewCalls_append_review, List.append_assoc,
        Nat.zero_add, hkeep.length_seen]
    have h := Course.vetoed (o := o.watched) (k := k.watched) (d := d.watch [])
      (hpass.watched 0 []) (hassemble.watched _) hreviews' (hkeep.watched 0 _) (hveto' _)
    rw [show o.watched.gates.length = o.gates.length from Gate.length_watchedFrom 0 _] at h
    exact h
  | @delivered failure d extras w₁ w₂ w₃ w₄ seen r r₁ r₂ hpass hassemble hkeep hemit =>
    have hemit' (calls : List Call) : (o.watched.sink.val.emit r₁).run (w₃.watch calls)
        = (r₂, w₄.watch (calls ++ [.emit r₁])) := by
      show ((o.sink.val.emit r₁).noted (.emit r₁)).run _ = _
      rw [Act.run_noted, hemit]
    have h := Course.delivered (o := o.watched) (k := k.watched) (d := d.watch [])
      (hpass.watched 0 []) (hassemble.watched _) (hkeep.watched 0 _) (hemit' _)
    rw [show o.watched.gates.length = o.gates.length from Gate.length_watchedFrom 0 _] at h
    exact h

/-! ## Every observation goes by a course -/

/-- A row of gates lets a failure pass, or one of them is the first to skip it. -/
theorem Gate.pass_or_skip (ids : TraceIds) (failure : Failure) (gs : List (Gate σ)) (w : World σ) :
    (∃ extras w', Pass ids failure gs w extras w') ∨
      ∃ before g after extras w₁ w', gs = before ++ g :: after ∧
        Pass ids failure before w extras w₁ ∧ (g ids failure).run w₁ = (.skip, w') := by
  induction gs generalizing w with
  | nil => exact .inl ⟨[], w, .nil⟩
  | cons g gs ih =>
    cases hg : (g ids failure).run w with
    | mk verdict w₁ =>
      cases verdict with
      | skip => exact .inr ⟨[], g, gs, [], w, w₁, rfl, .nil, hg⟩
      | pass extras =>
        rcases ih w₁ with ⟨more, w', hpass⟩ | ⟨before, g', after, more, w₂, w', rfl, hpass, hskip⟩
        · exact .inl ⟨extras ++ more, w', .cons hg hpass⟩
        · exact .inr ⟨g :: before, g', after, extras ++ more, w₂, w', rfl, .cons hg hpass, hskip⟩

/-- A row of reviews keeps a report, or one of them is the first to veto it. -/
theorem Review.keep_or_veto (vs : List (Review σ)) (r : Report) (w : World σ) :
    (∃ seen r' w', Keep vs r w seen r' w') ∨
      ∃ before v after seen r₁ w₁ r' w', vs = before ++ v :: after ∧
        Keep before r w seen r₁ w₁ ∧ (v r₁).run w₁ = ((false, r'), w') := by
  induction vs generalizing r w with
  | nil => exact .inl ⟨[], r, w, .nil⟩
  | cons v vs ih =>
    cases hv : (v r).run w with
    | mk decision w₁ =>
      obtain ⟨kept, r₁⟩ := decision
      cases kept with
      | false => exact .inr ⟨[], v, vs, [], r, w, r₁, w₁, rfl, .nil, hv⟩
      | true =>
        rcases ih r₁ w₁ with
          ⟨seen, r', w', hkeep⟩ | ⟨before, v', after, seen, r₂, w₂, r', w', rfl, hkeep, hveto⟩
        · exact .inl ⟨r :: seen, r', w', .cons hv hkeep⟩
        · exact .inr ⟨v :: before, v', after, r :: seen, r₂, w₂, r', w', rfl, .cons hv hkeep, hveto⟩

theorem Observer.exists_assemble (o : Observer σ) (fallback : PlaceFilter σ) (k : Kit σ)
    (failure : Failure) (extras : List Field) (n : UInt64) (w : World σ) :
    ∃ r w', o.Assemble fallback k failure extras n w r w' :=
  ⟨_, _, .mk rfl rfl rfl rfl⟩

/-- Whatever is observed, the observation goes by a course. -/
theorem Observer.exists_course (o : Observer σ) (fallback : PlaceFilter σ) (k : Kit σ)
    (failure : Option Failure) (d : Desk σ) :
    ∃ calls result d', o.Course fallback k failure d calls result d' := by
  cases failure with
  | none => exact ⟨[], none, d, .absent⟩
  | some failure =>
    rcases Gate.pass_or_skip (o.effectiveIds k) failure o.gates d.world with
      ⟨extras, w₁, hpass⟩ | ⟨before, g, after, extras, w₁, w', hgates, hpass, hskip⟩
    · obtain ⟨r, w₂, hassemble⟩ :=
        o.exists_assemble fallback k failure extras d.nextReport w₁
      rcases Review.keep_or_veto o.reviews r w₂ with
        ⟨seen, r₁, w₃, hkeep⟩ | ⟨before, v, after, seen, r₁, w₃, r₂, w₄, hreviews, hkeep, hveto⟩
      · exact ⟨_, _, _, .delivered hpass hassemble hkeep rfl⟩
      · exact ⟨_, _, _, .vetoed hpass hassemble hreviews hkeep hveto⟩
    · exact ⟨_, _, _, .skipped hgates hpass hskip⟩

/-- **Every observation follows its course.**  For an observer with any parts, a kit, and a failure that
may be absent: watching the observer changes neither the outcome nor what the parts do; what is noted
are the calls of a course from this desk; and no other course, calls, outcome or desk is possible. -/
theorem Observer.observeOn_follows_course (o : Observer σ) (fallback : PlaceFilter σ) (k : Kit σ)
    (failure : Option Failure) (d : Desk σ) :
    ∃ calls result d',
      (o.observeOn fallback k failure).run d = (result, d') ∧
      (o.watched.observeOn fallback.watched k.watched failure).run (d.watch [])
        = (result, d'.watch calls) ∧
      ∀ calls₂ result₂ d₂, o.Course fallback k failure d calls₂ result₂ d₂ ↔
        calls₂ = calls ∧ result₂ = result ∧ d₂ = d' := by
  obtain ⟨calls, result, d', hcourse⟩ := o.exists_course fallback k failure d
  refine ⟨calls, result, d', hcourse.run_eq, hcourse.watched.run_eq, fun calls₂ result₂ d₂ => ?_⟩
  constructor
  · intro hcourse₂
    have hsame := hcourse₂.watched.run_eq.symm.trans hcourse.watched.run_eq
    obtain ⟨hresult, hdesk⟩ := (Prod.mk.injEq ..).mp hsame
    obtain ⟨hd, hcalls⟩ := Desk.watch_inj hdesk
    exact ⟨hcalls, hresult, hd⟩
  · intro h
    obtain ⟨rfl, rfl, rfl⟩ := h
    exact hcourse

end Vigil
