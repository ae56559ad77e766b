import Vigil.Bench.Recorders
import Vigil.Sampling.Sampler
import Vigil.Proofs.Observing.Binding

/-!
# What a sampler keeps and marks

A sampler stands as a gate or as a review.  As a gate it is asked before a report is assembled, and its mark
is one of the extra fields, on top of the context; as a review it is asked about the assembled report, and
looks for the key of its mark among the fields before it adds one.  Proved, for a decision by trace ids alone
and an observer without other gates and reviews:

* `Observer.toList_layeredFields_eq` — the fields of a report are the extra ones on top of the context;
* `Sampler.early_result`, `Sampler.late_result` — what is returned with the sampler in either place;
* `Sampler.keeps_alike_marks_unless_said` — both return a report for the same failures; as a gate the sampler
  marks every one, as a review those in whose context nothing is said under the key;
* `Sampler.not_marked_over_context` — so what the context says under that key can stay on top.
-/

namespace Vigil

variable {σ : Type}

/-! ## The context of a report -/

namespace Chain

variable {α : Type}

/-- What was laid on top is the same whatever marks are left. -/
theorem toList_above_run (c base : Chain α) (s s' : Supply) :
    ((c.above base).run s).1.toList = ((c.above base).run s').1.toList := by
  rw [above]
  cases base.links with
  | nil => rfl
  | cons stop below =>
    by_cases hsize : c.size < base.size
    · simp only [if_pos hsize]
      rfl
    · simp only [if_neg hsize]
      cases linksAbove? stop.mark c.links with
      | none => rfl
      | some ls => rw [toList_rebuild, toList_rebuild]

theorem get?_of_toList_cons {c : Chain Field} {f : Field} {fs : List Field} (h : c.toList = f :: fs) :
    c.get? f.key = some f.value := by
  simp [get?, h]

theorem get?_congr {c c' : Chain Field} (h : c.toList = c'.toList) (key : String) :
    c.get? key = c'.get? key := by
  rw [get?, get?, h]

end Chain

namespace Observer

/-- The fields that an observer reports on a kit if no gate adds any. -/
def contextOn (o : Observer σ) (k : Kit σ) : Chain Field := ((o.layeredFields k []).run {}).1

theorem toList_layeredFields_eq (o : Observer σ) (k : Kit σ) (extras : List Field) (s : Supply) :
    ((o.layeredFields k extras).run s).1.toList = extras.reverse ++ (o.contextOn k).toList := by
  rw [contextOn, toList_layeredFields, toList_layeredFields, Chain.toList_above_run k.fields o.folded s {}]
  rfl

/-- An observer without gates and reviews, whose sink leaves the fields of a report alone. -/
structure Bare (o : Observer σ) : Prop where
  gates : o.gates = []
  reviews : o.reviews = []
  sink : ∀ r w, ((o.sink.val.emit r).run w).1.fields.toList = r.fields.toList

variable {o : Observer σ} {fallback : PlaceFilter σ} {k : Kit σ} {failure : Failure} {extras : List Field}
variable {n : UInt64} {w w' : World σ} {r : Report}

theorem Assemble.toList_fields (h : o.Assemble fallback k failure extras n w r w') :
    r.fields.toList = extras.reverse ++ (o.contextOn k).toList := by
  obtain ⟨-, -, -, hfields⟩ := h
  rw [← toList_layeredFields_eq o k extras, hfields]

theorem Assemble.traceIds (h : o.Assemble fallback k failure extras n w r w') :
    r.traceIds = o.effectiveIds k := by
  obtain ⟨-, -, -, -⟩ := h
  rfl

end Observer

namespace Sampler

/-! ## The two places -/

variable {keep : TraceIds → Bool}

theorem run_gate (keep : TraceIds → Bool) (ids : TraceIds) (failure : Failure) (w : World σ) :
    ((ofDecision keep).gate ids failure).run w = (if keep ids then .pass [mark] else .skip, w) := by
  show (if keep ids then (pure (.pass [mark]) : Act σ Verdict) else pure .skip) w = _
  cases keep ids <;> rfl

/-- A review that keeps a report marks it, unless something is said under the key. -/
theorem exists_run_review_of_keep {r : Report} (h : keep r.traceIds = true) (w : World σ) :
    ∃ r' w', ((ofDecision keep).review r).run w = ((true, r'), w') ∧
      r'.fields.get? markKey = some ((r.fields.get? markKey).getD (.bool true)) := by
  have hrun : ((ofDecision keep).review r).run w
      = (if (r.fields.get? markKey).isNone then (do return (true, ← r.addField mark) : Act σ (Bool × Report))
          else pure (true, r)).run w := by
    show (if keep r.traceIds then _ else _ : Act σ (Bool × Report)) w = _
    rw [if_pos h]
    rfl
  rw [hrun]
  cases hsaid : r.fields.get? markKey with
  | some v => exact ⟨r, w, rfl, hsaid⟩
  | none => exact ⟨_, _, rfl, Chain.get?_of_toList_cons (Chain.toList_push r.fields mark w.supply)⟩

theorem run_review_of_not_keep {r : Report} (h : keep r.traceIds = false) (w : World σ) :
    ((ofDecision keep).review r).run w = ((false, r), w) := by
  show (if keep r.traceIds then _ else _ : Act σ (Bool × Report)) w = _
  rw [h]
  rfl

variable {o : Observer σ}

/-- What is returned with the sampler as the only gate. -/
theorem early_result (keep : TraceIds → Bool) (ho : o.Bare) (fallback : PlaceFilter σ) (k : Kit σ) (failure : Failure)
    (d : Desk σ) :
    ∃ result d', ((o.withGates [(ofDecision keep).gate]).observeOn fallback k (some failure)).run d
        = (result, d') ∧
      (result.isSome = keep (o.effectiveIds k)) ∧
      ∀ r, result = some r → r.fields.get? markKey = some (.bool true) := by
  let early := o.withGates [(ofDecision keep).gate]
  have hrow : early.gates = [] ++ [(ofDecision keep).gate] := congrArg (· ++ _) ho.gates
  cases hkeep : keep (o.effectiveIds k) with
  | false =>
    have hskip : ((ofDecision keep).gate (early.effectiveIds k) failure).run d.world
        = (.skip, d.world) := by
      rw [run_gate, show keep (early.effectiveIds k) = false from hkeep]
      rfl
    exact ⟨none, _, (Observer.Course.skipped hrow .nil hskip).run_eq, rfl, fun _ h => nomatch h⟩
  | true =>
    have hpass : Gate.Pass (early.effectiveIds k) failure early.gates d.world [mark] d.world := by
      rw [hrow]
      have hrun : ((ofDecision keep).gate (early.effectiveIds k) failure).run d.world
          = (.pass [mark], d.world) := by
        rw [run_gate, show keep (early.effectiveIds k) = true from hkeep]
        rfl
      exact .cons hrun .nil
    obtain ⟨r, w, hassemble⟩ := early.exists_assemble fallback k failure [mark] d.nextReport d.world
    have hkept : Review.Keep early.reviews r w [] r w := by
      rw [show early.reviews = [] from ho.reviews]
      exact .nil
    refine ⟨_, _, (Observer.Course.delivered hpass hassemble hkept rfl).run_eq, rfl, fun r' hr' => ?_⟩
    obtain rfl := Option.some.inj hr'
    have htop : (((o.sink.val.emit r).run w).1).fields.toList = mark :: (early.contextOn k).toList := by
      rw [ho.sink, hassemble.toList_fields]
      rfl
    exact Chain.get?_of_toList_cons htop

/-- What is returned with the sampler as the only review. -/
theorem late_result (keep : TraceIds → Bool) (ho : o.Bare) (fallback : PlaceFilter σ) (k : Kit σ) (failure : Failure)
    (d : Desk σ) :
    ∃ result d', ((o.withReviews [(ofDecision keep).review]).observeOn fallback k (some failure)).run d
        = (result, d') ∧
      (result.isSome = keep (o.effectiveIds k)) ∧
      ∀ r, result = some r →
        r.fields.get? markKey = some (((o.contextOn k).get? markKey).getD (.bool true)) := by
  let late := o.withReviews [(ofDecision keep).review]
  have hrow : late.reviews = [] ++ [(ofDecision keep).review] := congrArg (· ++ _) ho.reviews
  have hpass : Gate.Pass (late.effectiveIds k) failure late.gates d.world [] d.world := by
    rw [show late.gates = [] from ho.gates]
    exact .nil
  obtain ⟨r, w, hassemble⟩ := late.exists_assemble fallback k failure [] d.nextReport d.world
  cases hkeep : keep (o.effectiveIds k) with
  | false =>
    have hveto := run_review_of_not_keep (w := w) (show keep r.traceIds = false by
      rw [hassemble.traceIds]
      exact hkeep)
    exact ⟨none, _, (Observer.Course.vetoed hpass hassemble hrow .nil hveto).run_eq, rfl, fun _ h => nomatch h⟩
  | true =>
    obtain ⟨r₁, w₁, hrun, hsaid⟩ := exists_run_review_of_keep (w := w) (show keep r.traceIds = true by
      rw [hassemble.traceIds]
      exact hkeep)
    have hkept : Review.Keep late.reviews r w [r] r₁ w₁ := by
      rw [hrow]
      exact .cons hrun .nil
    refine ⟨_, _, (Observer.Course.delivered hpass hassemble hkept rfl).run_eq, rfl, fun r' hr' => ?_⟩
    obtain rfl := Option.some.inj hr'
    have hcontext : r.fields.get? markKey = (o.contextOn k).get? markKey :=
      Chain.get?_congr hassemble.toList_fields markKey
    rw [← hcontext, ← hsaid]
    exact Chain.get?_congr (ho.sink r₁ w₁) markKey

/-- **A sampler keeps alike in both places, and marks unless something is said.**  With it as the only gate and
as the only review, an observer returns a report for the same failures: those whose trace ids are kept.  As
a gate, the mark is on top in every one.  As a review, it is if the context says nothing under its key; if it
does, then what the context says is on top. -/
theorem keeps_alike_marks_unless_said (keep : TraceIds → Bool) (ho : o.Bare) (fallback : PlaceFilter σ)
    (k : Kit σ) (failure : Option Failure) (d d' : Desk σ) :
    let early := (((o.withGates [(ofDecision keep).gate]).observeOn fallback k failure).run d).1
    let late := (((o.withReviews [(ofDecision keep).review]).observeOn fallback k failure).run d').1
    early.isSome = (failure.isSome && keep (o.effectiveIds k)) ∧
      late.isSome = (failure.isSome && keep (o.effectiveIds k)) ∧
      (∀ r, early = some r → r.fields.get? markKey = some (.bool true)) ∧
      ∀ r, late = some r →
        r.fields.get? markKey = some (((o.contextOn k).get? markKey).getD (.bool true)) := by
  cases failure with
  | none =>
    refine ⟨rfl, rfl, fun r h => ?_, fun r h => ?_⟩ <;> exact absurd h (Option.some_ne_none r).symm
  | some failure =>
    obtain ⟨early, dEarly, hearly, hkept, hmarked⟩ := early_result keep ho fallback k failure d
    obtain ⟨late, dLate, hlate, hkept', hsaid⟩ := late_result keep ho fallback k failure d'
    simp only [hearly, hlate, Option.isSome_some, Bool.true_and]
    exact ⟨hkept, hkept', hmarked, hsaid⟩

/-- A kit that says something else under the key of the mark, observed by an observer whose sink records. -/
theorem keeps_alike_marks_unless_said_on_top :
    let user : Field := ⟨"user", .text "alice", {}⟩
    let unmarked : Field := ⟨markKey, .bool false, {}⟩
    let k : Kit Bench := { fields := ⟨[⟨2, [unmarked, user]⟩], 2⟩, traceIds := ⟨[⟨1, [⟨"request"⟩]⟩], 1⟩ }
    let o : Observer Bench := .make ⟨0, .recording (Bench.recording 0) "sink"⟩ .blind
    let keep : TraceIds → Bool := fun ids => ids.toList.contains ⟨"request"⟩
    let d : Desk Bench := ⟨1, ⟨⟨3⟩, {}⟩⟩
    ∃ early late,
      (((o.withGates [(ofDecision keep).gate]).observeOn (fun _ => pure true) k
        (some (.panic .unit))).run d).1 = some early ∧
      (((o.withReviews [(ofDecision keep).review]).observeOn (fun _ => pure true) k
        (some (.panic .unit))).run d).1 = some late ∧
      early.fields.get? markKey = some (.bool true) ∧ late.fields.get? markKey = some (.bool false) := by
  intro user unmarked k o keep d
  have ho : o.Bare := ⟨rfl, rfl, fun _ _ => rfl⟩
  obtain ⟨hearly, hlate, hmarked, hsaid⟩ :=
    keeps_alike_marks_unless_said keep ho (fun _ => pure true) k (some (.panic .unit)) d d
  have hkept : keep (o.effectiveIds k) = true := by decide
  obtain ⟨early, hearly⟩ := Option.isSome_iff_exists.mp (hearly.trans hkept)
  obtain ⟨late, hlate⟩ := Option.isSome_iff_exists.mp (hlate.trans hkept)
  exact ⟨early, late, hearly, hlate, hmarked early hearly, hsaid late hlate⟩

/-- With a sampler that keeps all as a review, what a kit says under the key of the mark stays on top. -/
theorem not_marked_over_context :
    ¬∀ (keep : TraceIds → Bool) (o : Observer Unit), o.Bare → ∀ (fallback : PlaceFilter Unit) (k : Kit Unit)
        (failure : Option Failure) (d d' : Desk Unit),
      let early := (((o.withGates [(ofDecision keep).gate]).observeOn fallback k failure).run d).1
      let late := (((o.withReviews [(ofDecision keep).review]).observeOn fallback k failure).run d').1
      early.isSome = (failure.isSome && keep (o.effectiveIds k)) ∧
        late.isSome = (failure.isSome && keep (o.effectiveIds k)) ∧
        (∀ r, early = some r → r.fields.get? markKey = some (.bool true)) ∧
        ∀ r, late = some r → r.fields.get? markKey = some (.bool true) := by
  intro h
  let unmarked : Field := ⟨markKey, .bool false, {}⟩
  let k : Kit Unit := { fields := ⟨[⟨1, [unmarked]⟩], 1⟩ }
  let o : Observer Unit := .make ⟨0, .discard⟩ .blind
  have ho : o.Bare := ⟨rfl, rfl, fun _ _ => rfl⟩
  obtain ⟨-, -, -, hlate⟩ :=
    h (fun _ => true) o ho (fun _ => pure true) k (some (.panic .unit)) ⟨1, ⟨⟨2⟩, ()⟩⟩ ⟨1, ⟨⟨2⟩, ()⟩⟩
  have hfalse : some (Value.bool false) = some (.bool true) := hlate _ rfl
  exact Bool.false_ne_true (Value.bool.inj (Option.some.inj hfalse))

end Sampler

end Vigil
