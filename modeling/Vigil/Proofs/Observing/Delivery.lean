import Vigil.Proofs.Observing.Course
import Vigil.Proofs.Sink.Recording

/-!
# Delivery over whole runs

Any number of failures is observed one after another, by any observers on any kits, and the sinks of the
observers are trees of recorders that they may have in common.  Some observations come to no report, some
reports are vetoed, and the others are returned and kept.  Proved:

* `Outcome`, `Observer.observeOn_eq_outcome` — what becomes of an observation, with the report at the places
  it passes, and that observing does this;
* `numbersFrom` — the numbers that a counter gives out; `map_toNat_numbersFrom` — none twice until all words
  are used up;
* `Delivered` — what a run has done; `Delivered.cons`, `Observation.delivered_one` — one observation, and one
  in front of others;
* `Observation.run_delivers` — so over a whole run, reports are numbered in turn, and every recorder keeps
  each returned report once for every place it has in the tree, and no other.
-/

namespace Vigil

variable {σ ι α : Type}

/-! ## What becomes of a failure -/

/-- What becomes of an observation. -/
inductive Outcome where
  /-- There was no failure. -/
  | absent
  /-- A gate skipped the failure. -/
  | skipped
  /-- A report was assembled, and a review vetoed it. -/
  | vetoed (assembled : Report)
  /-- A report was assembled, given to the sink as the reviews left it, and returned as the sink left it. -/
  | returned (assembled given result : Report)

namespace Outcome

def assembled? : Outcome → Option Report
  | absent => none
  | skipped => none
  | vetoed assembled => some assembled
  | returned assembled _ _ => some assembled

def result? : Outcome → Option Report
  | absent => none
  | skipped => none
  | vetoed _ => none
  | returned _ _ result => some result

/-- What the recorders at the leaves of the observer's sink keep. -/
def copies (leaves : List ι) : Outcome → List (ι × Report)
  | absent => []
  | skipped => []
  | vetoed _ => []
  | returned _ given result => Vigil.copies leaves given result

end Outcome

namespace Observer

/-- Observe on a kit, and tell what becomes of it. -/
def outcome (o : Observer σ) (fallback : PlaceFilter σ) (k : Kit σ) : Option Failure → Observing σ Outcome
  | none => pure .absent
  | some failure => do
    match ← Desk.act (Gate.runAll (o.effectiveIds k) failure o.gates) with
    | none => return .skipped
    | some extras =>
      let report ← o.assemble fallback k k.activeSpan failure extras
      let (kept, given) ← Desk.act (Review.runAll o.reviews report)
      if kept then return .returned report given (← Desk.act (o.sink.val.emit given)) else return .vetoed report

/-- **Observing returns what its outcome says.** -/
theorem observeOn_eq_outcome (o : Observer σ) (fallback : PlaceFilter σ) (k : Kit σ)
    (failure : Option Failure) :
    o.observeOn fallback k failure = Outcome.result? <$> o.outcome fallback k failure := by
  cases failure with
  | none => rfl
  | some failure =>
    rw [observeOn, observe, outcome, map_bind]
    refine congrArg _ (funext fun passed => ?_)
    cases passed with
    | none => rfl
    | some extras =>
      simp only [map_bind]
      refine congrArg _ (funext fun report => congrArg _ (funext fun reviewed => ?_))
      obtain ⟨kept, given⟩ := reviewed
      cases kept <;> rfl

/-- An assembled report takes the number that was next. -/
theorem number_of_run_assemble {o : Observer σ} {fallback : PlaceFilter σ} {k : Kit σ} {span : Option Span}
    {failure : Failure} {extras : List Field} {d d' : Desk σ} {report : Report}
    (h : (o.assemble fallback k span failure extras).run d = (report, d')) :
    report.id = d.nextReport ∧ d'.nextReport = d.nextReport + 1 := by
  obtain ⟨rfl, rfl⟩ := Prod.mk.inj h.symm
  exact ⟨rfl, rfl⟩

end Observer

/-- The parts take no number. -/
theorem Desk.number_of_run_act {x : Act σ α} {d d' : Desk σ} {a : α} (h : (Desk.act x).run d = (a, d')) :
    d'.nextReport = d.nextReport := by
  obtain ⟨rfl, rfl⟩ := Prod.mk.inj h.symm
  rfl

/-! ## The numbers of reports -/

/-- The first `k` numbers of a counter that gives out `n` next. -/
def numbersFrom (n : UInt64) (k : Nat) : List UInt64 := (List.range k).map fun i => n + UInt64.ofNat i

theorem numbersFrom_add (n : UInt64) (k l : Nat) :
    numbersFrom n (k + l) = numbersFrom n k ++ numbersFrom (n + UInt64.ofNat k) l := by
  rw [numbersFrom, numbersFrom, numbersFrom, List.range_add, List.map_append, List.map_map]
  refine congrArg _ (List.map_congr_left fun i _ => ?_)
  show n + UInt64.ofNat (k + i) = n + UInt64.ofNat k + UInt64.ofNat i
  rw [UInt64.ofNat_add, UInt64.add_assoc]

/-- As long as there are words left, numbers are given out in turn. -/
theorem map_toNat_numbersFrom {n : UInt64} {k : Nat} (h : n.toNat + k ≤ UInt64.size) :
    (numbersFrom n k).map UInt64.toNat = List.range' n.toNat k := by
  rw [numbersFrom, List.map_map, List.range'_eq_map_range]
  refine List.map_congr_left fun i hi => ?_
  have hlt : n.toNat + i < UInt64.size := by
    have := List.mem_range.mp hi
    omega
  have hi' : i < UInt64.size := Nat.lt_of_le_of_lt (Nat.le_add_left _ _) hlt
  show (n + UInt64.ofNat i).toNat = n.toNat + i
  rw [UInt64.toNat_add, UInt64.toNat_ofNat_of_lt' hi', Nat.mod_eq_of_lt hlt]

/-! ## Parts that do not touch the recorders -/

/-- Observing leaves what is in the slots as it is. -/
def Observing.Spares {β : Type} (slot : ι → Slot σ α) (x : Observing σ β) : Prop :=
  ∀ d i, (slot i).get (x.run d).2.world.memory = (slot i).get d.world.memory

section Spares

variable {β γ : Type} {slot : ι → Slot σ α}

theorem Observing.Spares.bind {x : Observing σ β} {f : β → Observing σ γ} (hx : x.Spares slot)
    (hf : ∀ b, (f b).Spares slot) : Observing.Spares slot (x >>= f) :=
  fun d i => (hf (x.run d).1 (x.run d).2 i).trans (hx d i)

theorem Observing.Spares.pure (slot : ι → Slot σ α) (b : β) :
    Observing.Spares slot (Pure.pure b : Observing σ β) :=
  fun _ _ => rfl

theorem Act.Spares.act {x : Act σ β} (hx : x.Spares slot) : (Desk.act x).Spares slot :=
  fun d i => hx d.world i

theorem Gate.spares_runAll {gates : List (Gate σ)} (h : ∀ g ∈ gates, ∀ ids failure, (g ids failure).Spares slot)
    (ids : TraceIds) (failure : Failure) : (runAll ids failure gates).Spares slot := by
  induction gates with
  | nil => exact .pure slot _
  | cons g gates ih =>
    obtain ⟨hg, hgates⟩ := List.forall_mem_cons.mp h
    refine (hg ids failure).bind fun verdict => ?_
    cases verdict with
    | skip => exact .pure slot _
    | pass extras => exact (ih hgates).bind fun _ => .pure slot _

theorem Review.spares_runAll {reviews : List (Review σ)} (h : ∀ v ∈ reviews, ∀ r, (v r).Spares slot)
    (r : Report) : (runAll reviews r).Spares slot := by
  induction reviews generalizing r with
  | nil => exact .pure slot _
  | cons v reviews ih =>
    obtain ⟨hv, hreviews⟩ := List.forall_mem_cons.mp h
    refine (hv r).bind fun reviewed => ?_
    obtain ⟨kept, r'⟩ := reviewed
    cases kept with
    | true => exact ih hreviews r'
    | false => exact .pure slot _

/-- All parts of the observer but its sink leave what is in the slots as it is. -/
structure Observer.Spares (slot : ι → Slot σ α) (o : Observer σ) (fallback : PlaceFilter σ) : Prop where
  gates : ∀ g ∈ o.gates, ∀ ids failure, (g ids failure).Spares slot
  caller : (o.probe.caller (o.filter.getD fallback)).Spares slot
  stack : (o.probe.stack (o.filter.getD fallback)).Spares slot
  threads : o.probe.threads.Spares slot
  reviews : ∀ v ∈ o.reviews, ∀ r, (v r).Spares slot

theorem Observer.Spares.assemble {o : Observer σ} {fallback : PlaceFilter σ} (h : o.Spares slot fallback)
    (k : Kit σ) (span : Option Span) (failure : Failure) (extras : List Field) :
    (o.assemble fallback k span failure extras).Spares slot :=
  h.caller.act.bind fun _ => h.stack.act.bind fun _ => h.threads.act.bind fun _ => fun _ _ => rfl

theorem Observer.Spares.of_blind {o : Observer σ} {fallback : PlaceFilter σ} (hprobe : o.probe = .blind)
    (hgates : ∀ g ∈ o.gates, ∀ ids failure, (g ids failure).Spares slot)
    (hreviews : ∀ v ∈ o.reviews, ∀ r, (v r).Spares slot) : o.Spares slot fallback where
  gates := hgates
  caller := hprobe ▸ .pure slot _
  stack := hprobe ▸ .pure slot _
  threads := hprobe ▸ .pure slot _
  reviews := hreviews

end Spares

/-! ## Runs of observations -/

/-- One observation of a run.  The sink of the observer is a tree of recorders, and its other parts do not
touch what recorders keep. -/
structure Observation (slot : ι → Slot σ Recording) (source : ι → String) where
  observer : Observer σ
  fallback : PlaceFilter σ
  kit : Kit σ
  failure : Option Failure
  /-- The recorders at the leaves of the sink. -/
  leaves : List ι
  tree : Sink.Tree slot source observer.sink.val leaves
  spares : observer.Spares slot fallback

/-- Observations that were made in turn, each with what became of it. -/
abbrev Run (slot : ι → Slot σ Recording) (source : ι → String) := List (Observation slot source × Outcome)

variable {slot : ι → Slot σ Recording} {source : ι → String}

namespace Observation

def observe (c : Observation slot source) : Observing σ (Option Report) :=
  c.observer.observeOn c.fallback c.kit c.failure

def outcome (c : Observation slot source) : Observing σ Outcome :=
  c.observer.outcome c.fallback c.kit c.failure

/-- Observe in turn, and tell what becomes of each observation. -/
def run (calls : List (Observation slot source)) : Observing σ (Run slot source) :=
  calls.mapM fun c => (c, ·) <$> c.outcome

end Observation

theorem Observing.run_mapM_cons {β γ : Type} (f : β → Observing σ γ) (b : β) (bs : List β) (d : Desk σ) :
    ((b :: bs).mapM f).run d
      = (((f b).run d).1 :: ((bs.mapM f).run ((f b).run d).2).1,
          ((bs.mapM f).run ((f b).run d).2).2) := by
  rw [List.mapM_cons]
  rfl

namespace Observation

theorem run_cons (c : Observation slot source) (calls : List (Observation slot source)) (d : Desk σ) :
    (run (c :: calls)).run d
      = ((c, (c.outcome.run d).1) :: ((run calls).run (c.outcome.run d).2).1,
          ((run calls).run (c.outcome.run d).2).2) := by
  rw [run, Observing.run_mapM_cons]
  rfl

theorem map_fst_run (calls : List (Observation slot source)) (d : Desk σ) :
    ((run calls).run d).1.map Prod.fst = calls := by
  induction calls generalizing d with
  | nil => rfl
  | cons c calls ih => rw [run_cons, List.map_cons, ih]

/-- **Observing in turn returns what the outcomes say.** -/
theorem run_observe_eq (calls : List (Observation slot source)) (d : Desk σ) :
    (calls.mapM observe).run d = (((run calls).run d).1.map fun e => e.2.result?, ((run calls).run d).2) := by
  induction calls generalizing d with
  | nil => rfl
  | cons c calls ih =>
    have hone : c.observe.run d = ((c.outcome.run d).1.result?, (c.outcome.run d).2) := by
      rw [observe, Observer.observeOn_eq_outcome]
      rfl
    rw [Observing.run_mapM_cons, hone, ih, run_cons]
    rfl

end Observation

/-! ## What a run has done -/

namespace Run

/-- The reports that were assembled in a run, in turn. -/
def numbered (run : Run slot source) : List Report :=
  run.filterMap fun e => e.2.assembled?

/-- What the recorders keep of a run, in turn. -/
def kept (run : Run slot source) : List (ι × Report) :=
  run.flatMap fun e => e.2.copies e.1.leaves

theorem numbered_cons (e : Observation slot source × Outcome) (run : Run slot source) :
    numbered (e :: run) = numbered [e] ++ numbered run := by
  rw [numbered, ← List.singleton_append, List.filterMap_append]
  rfl

theorem kept_cons (e : Observation slot source × Outcome) (run : Run slot source) :
    kept (e :: run) = kept [e] ++ kept run := by
  rw [kept, ← List.singleton_append, List.flatMap_append]
  rfl

end Run

variable [DecidableEq ι]

/-- A run has led from the desk `d` to the desk `d'`. -/
structure Delivered (d : Desk σ) (run : Run slot source) (d' : Desk σ) : Prop where
  /-- The reports are numbered in turn, the vetoed ones with the others. -/
  numbers : run.numbered.map Report.id = numbersFrom d.nextReport run.numbered.length
  next : d'.nextReport = d.nextReport + UInt64.ofNat run.numbered.length
  /-- The recorders have kept what was returned, once for each place in the tree, and nothing else. -/
  filed : Filed slot source d.world.memory d'.world.memory run.kept
  /-- What is returned has one more name for each recorder in the tree, in their order. -/
  named : ∀ c assembled given result, (c, Outcome.returned assembled given result) ∈ run →
    ∃ names, result = given.withNames names ∧ names.map ExternalId.source = c.leaves.map source

theorem Delivered.nil (d : Desk σ) : Delivered d ([] : Run slot source) d where
  numbers := rfl
  next := (UInt64.add_zero _).symm
  filed := .of_spared fun _ => rfl
  named _ _ _ _ h := absurd h List.not_mem_nil

theorem Delivered.cons {d d₁ d₂ : Desk σ} {e : Observation slot source × Outcome}
    {run : Run slot source} (h : Delivered d [e] d₁) (h' : Delivered d₁ run d₂) :
    Delivered d (e :: run) d₂ where
  numbers := by
    rw [Run.numbered_cons, List.map_append, List.length_append, h.numbers, h'.numbers, h.next, numbersFrom_add]
  next := by
    rw [Run.numbered_cons, List.length_append, h'.next, h.next, UInt64.ofNat_add, UInt64.add_assoc]
  filed := by
    rw [Run.kept_cons]
    exact h.filed.trans h'.filed
  named c assembled given result hmem := by
    rcases List.mem_cons.mp hmem with rfl | hmem
    · exact h.named c assembled given result List.mem_cons_self
    · exact h'.named c assembled given result hmem

/-- Fewer observations than there are words left number their reports in turn. -/
theorem Delivered.map_toNat_id {d d' : Desk σ} {run : Run slot source} (h : Delivered d run d')
    (hrun : d.nextReport.toNat + run.length ≤ UInt64.size) :
    (run.numbered.map fun r => r.id.toNat) = List.range' d.nextReport.toNat run.numbered.length := by
  have hle : run.numbered.length ≤ run.length := List.length_filterMap_le _ _
  have hids : (run.numbered.map Report.id).map UInt64.toNat = List.range' d.nextReport.toNat run.numbered.length := by
    rw [h.numbers, map_toNat_numbersFrom (by omega)]
  rw [← hids, List.map_map]
  rfl

theorem Delivered.number_ne_zero {d d' : Desk σ} {run : Run slot source} (h : Delivered d run d')
    (hd : 0 < d.nextReport) (hrun : d.nextReport.toNat + run.length ≤ UInt64.size) :
    ∀ r ∈ run.numbered, r.id ≠ 0 := by
  intro r hr hzero
  have hid : r.id.toNat ∈ run.numbered.map fun r => r.id.toNat := List.mem_map_of_mem hr
  have hpos : 0 < d.nextReport.toNat := UInt64.lt_iff_toNat_lt.mp hd
  rw [h.map_toNat_id hrun, List.mem_range'_1, hzero, UInt64.toNat_zero] at hid
  omega

/-- A run of one observation that comes to no report: nothing is numbered, and the recorders are not given
anything. -/
theorem Delivered.of_no_report {c : Observation slot source} {outcome : Outcome} {d d' : Desk σ}
    (hreport : outcome.assembled? = none) (hnext : d'.nextReport = d.nextReport)
    (hspared : ∀ i, (slot i).get d'.world.memory = (slot i).get d.world.memory) :
    Delivered d [(c, outcome)] d' := by
  cases outcome with
  | absent | skipped =>
    exact ⟨rfl, hnext.trans (UInt64.add_zero _).symm, .of_spared hspared, by simp⟩
  | vetoed => cases hreport
  | returned => cases hreport

/-- A run of one observation, whose report takes the next number. -/
theorem Delivered.of_report {c : Observation slot source} {outcome : Outcome} {report : Report} {d d' : Desk σ}
    (hreport : outcome.assembled? = some report) (hid : report.id = d.nextReport)
    (hnext : d'.nextReport = d.nextReport + 1)
    (hfiled : Filed slot source d.world.memory d'.world.memory (outcome.copies c.leaves))
    (hnamed : ∀ assembled given result, outcome = .returned assembled given result →
      ∃ names, result = given.withNames names ∧ names.map ExternalId.source = c.leaves.map source) :
    Delivered d [(c, outcome)] d' := by
  have hnumbered : Run.numbered [(c, outcome)] = [report] := by simp [Run.numbered, hreport]
  have hkept : Run.kept [(c, outcome)] = outcome.copies c.leaves := by simp [Run.kept]
  refine ⟨?_, ?_, ?_, fun c' assembled given result hmem => ?_⟩
  · rw [hnumbered, List.map_singleton, hid, List.length_singleton]
    exact congrArg (· :: []) (UInt64.add_zero _).symm
  · rw [hnumbered, hnext, List.length_singleton]
    rfl
  · rw [hkept]
    exact hfiled
  · obtain ⟨rfl, houtcome⟩ := Prod.mk.inj (List.mem_singleton.mp hmem)
    exact hnamed assembled given result houtcome.symm

namespace Observation

/-- The gates have let the failure pass: its report takes the next number.  If no review vetoes it, the
recorders are given what the reviews have left of it. -/
theorem delivered_of_pass (hslot : Slot.Apart slot) (c : Observation slot source) {failure : Failure}
    (hfailure : c.failure = some failure) {d d₁ : Desk σ} {extras : List Field}
    (hpassed : (Desk.act (Gate.runAll (c.observer.effectiveIds c.kit) failure c.observer.gates)).run d
      = (some extras, d₁)) :
    Delivered d [(c, (c.outcome.run d).1)] (c.outcome.run d).2 := by
  have hgates := (Gate.spares_runAll c.spares.gates (c.observer.effectiveIds c.kit) failure).act d
  have hassemble := c.spares.assemble c.kit c.kit.activeSpan failure extras d₁
  rcases hreport : (c.observer.assemble c.fallback c.kit c.kit.activeSpan failure extras).run d₁
    with ⟨report, d₂⟩
  have hreviews := (Review.spares_runAll c.spares.reviews report).act d₂
  rcases hreviewed : (Desk.act (Review.runAll c.observer.reviews report)).run d₂ with ⟨⟨kept, given⟩, d₃⟩
  rw [hpassed] at hgates
  rw [hreport] at hassemble
  rw [hreviewed] at hreviews
  have hspared (i : ι) : (slot i).get d₃.world.memory = (slot i).get d.world.memory :=
    (hreviews i).trans ((hassemble i).trans (hgates i))
  have hnumber := Observer.number_of_run_assemble hreport
  rw [Desk.number_of_run_act hpassed, ← Desk.number_of_run_act hreviewed] at hnumber
  have hrun : c.outcome.run d
      = (if kept then
          Outcome.returned report given <$> Desk.act (c.observer.sink.val.emit given)
        else pure (Outcome.vetoed report)).run d₃ := by
    rw [outcome, hfailure, Observer.outcome, run_bind_of_run_eq hpassed]
    simp only
    rw [run_bind_of_run_eq hreport, run_bind_of_run_eq hreviewed]
    rfl
  rw [hrun]
  cases kept with
  | false =>
    exact .of_report rfl hnumber.1 hnumber.2 (.of_spared hspared) fun _ _ _ h => nomatch h
  | true =>
    obtain ⟨names, hresult, hsources, hfiled⟩ := c.tree.files hslot given d₃.world
    rw [← hresult] at hfiled
    refine .of_report rfl hnumber.1 hnumber.2 ((Filed.of_spared hspared).trans hfiled) fun _ _ _ h => ?_
    obtain ⟨-, rfl, rfl⟩ := Outcome.returned.inj h
    exact ⟨names, hresult, hsources⟩

/-- **One observation.** -/
theorem delivered_one (hslot : Slot.Apart slot) (c : Observation slot source) (d : Desk σ) :
    Delivered d [(c, (c.outcome.run d).1)] (c.outcome.run d).2 := by
  cases hfailure : c.failure with
  | none =>
    have hrun : c.outcome.run d = (.absent, d) := by
      rw [outcome, hfailure]
      rfl
    rw [hrun]
    exact .of_no_report rfl rfl fun _ => rfl
  | some failure =>
    rcases hpassed : (Desk.act (Gate.runAll (c.observer.effectiveIds c.kit) failure c.observer.gates)).run d
      with ⟨passed, d₁⟩
    cases passed with
    | none =>
      have hgates := (Gate.spares_runAll c.spares.gates (c.observer.effectiveIds c.kit) failure).act d
      rw [hpassed] at hgates
      have hrun : c.outcome.run d = (.skipped, d₁) := by
        rw [outcome, hfailure, Observer.outcome, run_bind_of_run_eq hpassed]
        rfl
      rw [hrun]
      exact .of_no_report rfl (Desk.number_of_run_act hpassed) hgates
    | some extras => exact delivered_of_pass hslot c hfailure hpassed

theorem delivered_run (hslot : Slot.Apart slot) (calls : List (Observation slot source)) (d : Desk σ) :
    Delivered d ((run calls).run d).1 ((run calls).run d).2 := by
  induction calls generalizing d with
  | nil => exact .nil d
  | cons c calls ih =>
    rw [run_cons]
    exact (delivered_one hslot c d).cons (ih (c.outcome.run d).2)

/-- **Delivery over a run.**  Each observation returns what its outcome says, the reports are numbered in
turn from the number that was next, and every recorder keeps what was returned.  If there are no more
observations than words from that number on, then no number is given twice, each is one greater than the one
before, and none is 0. -/
theorem run_delivers (hslot : Slot.Apart slot) (calls : List (Observation slot source)) (d : Desk σ)
    (hd : 0 < d.nextReport) :
    ∃ (done : Run slot source) (d' : Desk σ), (run calls).run d = (done, d') ∧ done.map Prod.fst = calls ∧
      (calls.mapM observe).run d = (done.map fun e => e.2.result?, d') ∧
      Delivered d done d' ∧
      (d.nextReport.toNat + calls.length ≤ UInt64.size →
        (done.numbered.map fun r => r.id.toNat) = List.range' d.nextReport.toNat done.numbered.length ∧
        ∀ r ∈ done.numbered, r.id ≠ 0) := by
  have hdelivered := delivered_run hslot calls d
  refine ⟨_, _, rfl, map_fst_run calls d, run_observe_eq calls d, hdelivered, fun hcalls => ?_⟩
  rw [← map_fst_run calls d, List.length_map] at hcalls
  exact ⟨hdelivered.map_toNat_id hcalls, hdelivered.number_ne_zero hd hcalls⟩

/-- Five observations: of nothing, of an error that a gate skips, of one that a review vetoes, of one that is
returned and of a panic.  The first recorder is in the tree twice, the second in a bundle inside. -/
theorem run_delivers_of_five :
    let source : Nat → String := fun i => if i = 0 then "disk" else "net"
    let recorder (i : Nat) : Sink Bench := .recording (Bench.recording i) (source i)
    let inner : Bundle Bench := ((Bundle.add {} (recorder 1)).add (recorder 0)).add .discard
    let tree : Bundle Bench := (Bundle.add {} (recorder 0)).add inner.toSink
    let o : Observer Bench := { sink := ⟨0, tree.toSink⟩, probe := .blind }
    let skipping : Observer Bench := { o with gates := [.counting (Bench.gateCount 0) .skip] }
    let vetoing : Observer Bench := { o with reviews := [.counting (Bench.tally 0) false] }
    let one : Observer Bench := { o with sink := ⟨1, recorder 1⟩ }
    let fault : Failure := .error ⟨2, "full"⟩
    let observed : List (Observer Bench × Option Failure) :=
      [(o, none), (skipping, some fault), (vetoing, some fault), (o, some fault),
        (one, some (.panic (.literal "boom")))]
    let fallback : PlaceFilter Bench := .ofPredicate PlaceFilter.anyPlace
    let d : Desk Bench := ⟨1, ⟨⟨3⟩, {}⟩⟩
    let returned : Observing Bench (List (Option Report)) :=
      observed.mapM fun e => e.1.observeOn fallback .empty e.2
    (returned.run d).1.map (Option.map fun r => (r.id, r.externalIds.map ExternalId.id))
      = [none, none, none, some (2, ["disk-1", "net-1", "disk-2"]), some (3, ["net-2"])] ∧
    Slot.Apart Bench.recording ∧ 0 < d.nextReport ∧
    ∃ calls : List (Observation Bench.recording source),
      calls.map (fun c => (c.observer, c.failure)) = observed ∧
      ∃ (done : Run Bench.recording source) (d' : Desk Bench),
        (run calls).run d = (done, d') ∧ done.map Prod.fst = calls ∧
        (calls.mapM observe).run d = (done.map fun e => e.2.result?, d') ∧
        Delivered d done d' ∧
        (done.numbered.map fun r => r.id.toNat) = List.range' 1 done.numbered.length ∧
        ∀ r ∈ done.numbered, r.id ≠ 0 := by
  intro source recorder inner tree o skipping vetoing one fault observed fallback d returned
  have htree : Sink.Tree Bench.recording source tree.toSink [0, 1, 0] :=
    .add (.add .bundle (.recording 0)) (.add (.add (.add .bundle (.recording 1)) (.recording 0)) .discard)
  have ho : o.Spares Bench.recording fallback :=
    .of_blind rfl (List.forall_mem_nil _) (List.forall_mem_nil _)
  have hskipping : skipping.Spares Bench.recording fallback :=
    .of_blind rfl (List.forall_mem_singleton.mpr fun _ _ _ _ => rfl) (List.forall_mem_nil _)
  have hvetoing : vetoing.Spares Bench.recording fallback :=
    .of_blind rfl (List.forall_mem_nil _) (List.forall_mem_singleton.mpr fun _ _ _ => rfl)
  have hone : one.Spares Bench.recording fallback :=
    .of_blind rfl (List.forall_mem_nil _) (List.forall_mem_nil _)
  let calls : List (Observation Bench.recording source) := [
    ⟨o, fallback, .empty, none, _, htree, ho⟩,
    ⟨skipping, fallback, .empty, some fault, _, htree, hskipping⟩,
    ⟨vetoing, fallback, .empty, some fault, _, htree, hvetoing⟩,
    ⟨o, fallback, .empty, some fault, _, htree, ho⟩,
    ⟨one, fallback, .empty, some (.panic (.literal "boom")), _, .recording 1, hone⟩]
  have hfew : (1 : Nat) + 5 ≤ UInt64.size := by decide
  obtain ⟨done, d', hrun, hcalls, hobserved, hdelivered, hnumbers⟩ :=
    run_delivers Bench.recording_apart calls d (by decide)
  exact ⟨by decide +kernel, Bench.recording_apart, by decide, calls, rfl, done, d', hrun, hcalls, hobserved,
    hdelivered, hnumbers hfew⟩

end Observation

end Vigil
