import Vigil.Bench.Recorders

/-!
# What recording sinks keep

Recording sinks are bundled in any way, bundles in bundles and a sink in several places, among sinks that
discard.  A report that is given to such a tree of sinks passes through the recorders at its leaves, from
first to last; each gives it a name and keeps it as it then is.  Proved:

* `Sink.Tree` — the sinks that are such trees, with their leaves;
* `Filed` — what recorders have kept between two memories, each under the number it had then;
* `Filed.trans`, `Filed.of_spared`, `filed_recording` — one thing after another, a part that does not touch
  the recorders, and one recorder;
* `Sink.Tree.files` — and so a whole tree: what it leaves of a report, and which copies are kept.
-/

namespace Vigil

variable {σ ι α β : Type}

/-! ## Memories in slots -/

/-- Slots that lie apart: what is put into one is found there, and changes no other one. -/
structure Slot.Apart (slot : ι → Slot σ α) : Prop where
  get_set : ∀ i a m, (slot i).get ((slot i).set a m) = a
  get_set_of_ne : ∀ i j a m, j ≠ i → (slot j).get ((slot i).set a m) = (slot j).get m

theorem Bench.recording_apart : Slot.Apart Bench.recording where
  get_set i a m := by simp [Bench.recording, changeAt]
  get_set_of_ne i j a m h := by simp [Bench.recording, changeAt, h]

/-- The action leaves what is in the slots as it is. -/
def Act.Spares (slot : ι → Slot σ α) (x : Act σ β) : Prop :=
  ∀ w i, (slot i).get (x.run w).2.memory = (slot i).get w.memory

theorem Act.Spares.bind {γ : Type} {slot : ι → Slot σ α} {x : Act σ β} {f : β → Act σ γ}
    (hx : x.Spares slot) (hf : ∀ b, (f b).Spares slot) : Act.Spares slot (x >>= f) :=
  fun w i => (hf (x.run w).1 (x.run w).2 i).trans (hx w i)

theorem Act.Spares.pure (slot : ι → Slot σ α) (b : β) : Act.Spares slot (Pure.pure b : Act σ β) :=
  fun _ _ => rfl

/-! ## Trees of sinks and names -/

/-- The sinks that are trees of recorders, sinks that discard and bundles, with the recorders at their leaves
from first to last. -/
inductive Sink.Tree (slot : ι → Slot σ Recording) (source : ι → String) : Sink σ → List ι → Prop
  | discard : Tree slot source .discard []
  | recording (i : ι) : Tree slot source (.recording (slot i) (source i)) [i]
  | bundle : Tree slot source (Bundle.toSink {}) []
  | add {b : Bundle σ} {s : Sink σ} {leaves more : List ι} :
      Tree slot source b.toSink leaves → Tree slot source s more →
      Tree slot source (b.add s).toSink (leaves ++ more)

theorem Bundle.run_emit_add (b : Bundle σ) (s : Sink σ) (r : Report) (w : World σ) :
    ((b.add s).toSink.emit r).run w
      = (s.emit ((b.toSink.emit r).run w).1).run ((b.toSink.emit r).run w).2 := by
  obtain ⟨sinks⟩ := b
  show (Sink.emitAll (sinks ++ [s]) r).run w
    = (s.emit ((Sink.emitAll sinks r).run w).1).run ((Sink.emitAll sinks r).run w).2
  induction sinks generalizing r w with
  | nil => rfl
  | cons s' sinks ih => exact ih _ _

/-- The name that a recorder gives to the report that is number `n` among those it was given. -/
def recorderName (source : String) (n : Nat) : ExternalId := ⟨source, source ++ "-" ++ toString n⟩

namespace Report

/-- The report with further names behind those it has. -/
def withNames (r : Report) (names : List ExternalId) : Report :=
  { r with externalIds := r.externalIds ++ names }

/-- The report with the first `n` of its names. -/
def cut (r : Report) (n : Nat) : Report := { r with externalIds := r.externalIds.take n }

theorem withNames_nil (r : Report) : r.withNames [] = r := by rw [withNames, List.append_nil]

theorem withNames_withNames (r : Report) (names more : List ExternalId) :
    (r.withNames names).withNames more = r.withNames (names ++ more) := by
  simp only [withNames, List.append_assoc]

theorem cut_withNames_of_le {r : Report} {n : Nat} (h : n ≤ r.externalIds.length)
    (names : List ExternalId) : (r.withNames names).cut n = r.cut n := by
  rw [cut, withNames, List.take_append_of_le_length h]
  rfl

theorem cut_length (r : Report) : r.cut r.externalIds.length = r := by rw [cut, List.take_length]

end Report

/-- The copies of a report that the recorders at the leaves of a tree keep when it was `given` to the tree and
the `result` came back: each is the result, its names cut behind the one that the recorder gave it. -/
def copies (leaves : List ι) (given result : Report) : List (ι × Report) :=
  (leaves.zipIdx given.externalIds.length).map fun e => (e.1, result.cut (e.2 + 1))

theorem copies_singleton (i : ι) (r : Report) (name : ExternalId) :
    copies [i] r (r.withNames [name]) = [(i, r.withNames [name])] := by
  have hlength : (r.withNames [name]).externalIds.length = r.externalIds.length + 1 :=
    List.length_append
  rw [copies, List.zipIdx_singleton, List.map_singleton, ← hlength, Report.cut_length]

/-- Names that come later are not on the copies of earlier leaves. -/
theorem copies_append {leaves : List ι} {names : List ExternalId} (hnames : names.length = leaves.length)
    (more : List ι) (r : Report) (names' : List ExternalId) :
    copies (leaves ++ more) r ((r.withNames names).withNames names')
      = copies leaves r (r.withNames names)
        ++ copies more (r.withNames names) ((r.withNames names).withNames names') := by
  have hlength : (r.withNames names).externalIds.length = r.externalIds.length + leaves.length := by
    rw [Report.withNames, List.length_append, hnames]
  rw [copies, List.zipIdx_append, List.map_append, copies, copies, hlength]
  refine congrArg (· ++ _) (List.map_congr_left fun e he => ?_)
  have hle : e.2 + 1 ≤ (r.withNames names).externalIds.length := by
    rw [hlength]
    exact List.snd_lt_add_of_mem_zipIdx he
  rw [Report.cut_withNames_of_le hle]

/-! ## What is kept between two memories -/

variable [DecidableEq ι]

/-- The reports among some entries that one recorder keeps. -/
def entriesOf (i : ι) (entries : List (ι × Report)) : List Report :=
  (entries.filter fun e => e.1 = i).map Prod.snd

theorem entriesOf_append (i : ι) (entries more : List (ι × Report)) :
    entriesOf i (entries ++ more) = entriesOf i entries ++ entriesOf i more := by
  rw [entriesOf, List.filter_append, List.map_append]
  rfl

theorem entriesOf_self (i : ι) (r : Report) : entriesOf i [(i, r)] = [r] := by simp [entriesOf]

theorem entriesOf_of_ne {i j : ι} (h : j ≠ i) (r : Report) : entriesOf j [(i, r)] = [] := by
  simp [entriesOf, h.symm]

/-- From the memory `m` to the memory `m'`, recorders have kept the entries, in this order, each of them under
the name that the recorder gave it. -/
structure Filed (slot : ι → Slot σ Recording) (source : ι → String) (m m' : σ) (entries : List (ι × Report)) :
    Prop where
  reports : ∀ i, ((slot i).get m').reports = ((slot i).get m).reports ++ entriesOf i entries
  named : ∀ i n r, ((slot i).get m).reports.length ≤ n → ((slot i).get m').reports[n]? = some r →
    r.externalIds.getLast? = some (recorderName (source i) (n + 1))

variable {slot : ι → Slot σ Recording} {source : ι → String}

theorem Filed.of_spared {m m' : σ} (h : ∀ i, (slot i).get m' = (slot i).get m) :
    Filed slot source m m' [] where
  reports i := by rw [h i, entriesOf, List.filter_nil, List.map_nil, List.append_nil]
  named i n r hn hr := by
    rw [h i, List.getElem?_eq_none hn] at hr
    exact absurd hr (Option.some_ne_none r).symm

theorem Filed.trans {m m₁ m₂ : σ} {entries more : List (ι × Report)} (h : Filed slot source m m₁ entries)
    (h' : Filed slot source m₁ m₂ more) : Filed slot source m m₂ (entries ++ more) where
  reports i := by rw [h'.reports i, h.reports i, entriesOf_append, List.append_assoc]
  named i n r hn hr := by
    by_cases hfirst : n < ((slot i).get m₁).reports.length
    · rw [h'.reports i, List.getElem?_append_left hfirst] at hr
      exact h.named i n r hn hr
    · exact h'.named i n r (Nat.not_lt.mp hfirst) hr

/-- **A recorder** gives the report its name and keeps it. -/
theorem filed_recording (hslot : Slot.Apart slot) (i : ι) (r : Report) (w : World σ) :
    let out := ((Sink.recording (slot i) (source i)).emit r).run w
    out.1 = r.withNames [recorderName (source i) (((slot i).get w.memory).reports.length + 1)] ∧
      Filed slot source w.memory out.2.memory [(i, out.1)] := by
  intro out
  have hkept : ((slot i).get out.2.memory).reports = ((slot i).get w.memory).reports ++ [out.1] :=
    congrArg Recording.reports (hslot.get_set i _ w.memory)
  have hother (j : ι) (hj : j ≠ i) : (slot j).get out.2.memory = (slot j).get w.memory :=
    hslot.get_set_of_ne i j _ w.memory hj
  refine ⟨rfl, fun j => ?_, fun j n r' hn hr' => ?_⟩
  · by_cases hj : j = i
    · subst hj
      rw [hkept, entriesOf_self]
    · rw [hother j hj, entriesOf_of_ne hj, List.append_nil]
  · by_cases hj : j = i
    · subst hj
      -- the only report that is new is the last one
      rw [hkept, List.getElem?_append_right hn, List.getElem?_singleton] at hr'
      split at hr'
      · rename_i hlast
        obtain rfl := Option.some.inj hr'
        rw [← Nat.le_antisymm hn (Nat.sub_eq_zero_iff_le.mp hlast)]
        exact List.getLast?_concat
      · exact absurd hr' (Option.some_ne_none r').symm
    · rw [hother j hj, List.getElem?_eq_none hn] at hr'
      exact absurd hr' (Option.some_ne_none r').symm

/-- **A tree of sinks** gives a report one name for each leaf, in the order of the leaves, and of what comes
back each recorder keeps the copy that ends with its own name. -/
theorem Sink.Tree.files (hslot : Slot.Apart slot) {s : Sink σ} {leaves : List ι}
    (h : Tree slot source s leaves) (r : Report) (w : World σ) :
    ∃ names, ((s.emit r).run w).1 = r.withNames names ∧
      names.map ExternalId.source = leaves.map source ∧
      Filed slot source w.memory ((s.emit r).run w).2.memory (copies leaves r (r.withNames names)) := by
  induction h generalizing r w with
  | discard => exact ⟨[], (r.withNames_nil).symm, rfl, .of_spared fun _ => rfl⟩
  | bundle => exact ⟨[], (r.withNames_nil).symm, rfl, .of_spared fun _ => rfl⟩
  | recording i =>
    obtain ⟨hout, hfiled⟩ : _ ∧ Filed slot source _ _ _ := filed_recording hslot i r w
    refine ⟨_, hout, rfl, ?_⟩
    rw [copies_singleton, ← hout]
    exact hfiled
  | @add b s leaves more _ _ ih ih' =>
    obtain ⟨names, hout, hsources, hfiled⟩ := ih r w
    obtain ⟨names', hout', hsources', hfiled'⟩ := ih' ((b.toSink.emit r).run w).1 ((b.toSink.emit r).run w).2
    rw [hout] at hout' hfiled'
    have hnames : names.length = leaves.length := by
      rw [← List.length_map (f := ExternalId.source), hsources, List.length_map]
    refine ⟨names ++ names', ?_, ?_, ?_⟩
    · rw [Bundle.run_emit_add, hout, hout', Report.withNames_withNames]
    · rw [List.map_append, List.map_append, hsources, hsources']
    · rw [Bundle.run_emit_add, hout, ← Report.withNames_withNames, copies_append hnames]
      exact hfiled.trans hfiled'

end Vigil
