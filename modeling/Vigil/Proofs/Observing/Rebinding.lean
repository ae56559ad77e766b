import Vigil.Proofs.Observing.Layering

/-!
# Binding again and again

An observer is bound to the fields of a kit, what comes of it to those of a kit derived from that one, and
so on along a line of kits.  Every time all fields of the kit are bound, also those that it has from the kit
before it, and what is remembered is only the chain that was bound last.  Proved:

* `Kit.Line.sound_fields` — the chain of fields that the last kit of a line has;
* `Observer.BoundAlong.derived` — what an observer carries that was bound along a line;
* `Observer.BoundAlong.reports_earlier_again` — it reports the fields of a kit derived from the last one, and
  behind them, once more, those of all kits of the line but the last;
* `Observer.not_once_of_bound_twice` — so a field is reported twice as soon as two kits of a line have it.
-/

namespace Vigil

variable {σ : Type}

/-- Kits that are derived one from the other, the last one first, and the marks that are left then. -/
inductive Kit.Line : List (Kit σ) → Supply → Prop
  | one {k : Kit σ} {s₀ s : Supply} : Derived .empty s₀ k s → Line [k] s
  | next {k k' : Kit σ} {ks : List (Kit σ)} {s s' : Supply} :
      Line (k :: ks) s → Derived k s k' s' → Line (k' :: k :: ks) s'

theorem Kit.Line.sound_fields {k : Kit σ} {ks : List (Kit σ)} {s : Supply} (h : Line (k :: ks) s) :
    k.fields.Sound s := by
  cases h with
  | one hk => exact hk.sound_fields
  | next hks hk => exact hk.grown.fields.sound hks.sound_fields

namespace Observer

/-- The observer `b` is `o` with the fields of kits bound to it, those of the first kit last.  Between two
bindings marks may be drawn for other things. -/
inductive BoundAlong (o : Observer σ) : List (Kit σ) → Observer σ → Prop
  | nil : BoundAlong o [] o
  | bind {ks : List (Kit σ)} {b : Observer σ} (k : Kit σ) (s : Supply) :
      BoundAlong o ks b → BoundAlong o (k :: ks) ((b.withContext k.fields).run s).1

variable {o b : Observer σ} {fs : List (Chain Field)} {ts : List TraceIds} {ks earlier : List (Kit σ)}
variable {k c : Kit σ} {s s' : Supply}

/-- What an observer carries that was bound along kits. -/
theorem BoundAlong.derived (h : BoundAlong o ks b) (ho : Derived fs ts o) :
    Derived (ks.map Kit.fields ++ fs) ts b := by
  induction h with
  | nil => exact ho
  | bind k s _ ih => exact ih.context k.fields s

/-- **An observer bound along a line of kits reports the fields of the earlier kits again.**  If no fields
were bound to it before, it reports on a kit derived from the last one of the line the fields of that kit,
and behind them those of all kits of the line but the last; so it reports the fields of that kit alone
exactly when the kits before the last one have no fields. -/
theorem BoundAlong.reports_earlier_again (ho : Derived [] ts o) (hline : Kit.Line (k :: earlier) s)
    (hb : BoundAlong o (k :: earlier) b) (hc : Kit.Derived k s c s') {failure : Failure} {d : Desk σ}
    {w : World σ} (hpass : Gate.Pass (b.effectiveIds c) failure b.gates d.world [] w)
    (fallback : PlaceFilter σ) (span : Option Span) :
    ∃ r d', (b.assembled fallback c span failure).run d = (some r, d') ∧
      r.fields.toList = c.fields.toList ++ earlier.flatMap (fun e => e.fields.toList) ∧
      (r.fields.toList = c.fields.toList ↔ ∀ e ∈ earlier, e.fields.toList = []) := by
  have hderived := hb.derived ho
  obtain ⟨r, d', s₁, hrun, hfields, -⟩ := exists_run_assembled hpass fallback span
  -- what the kit adds to the last one of the line lies on the fields of that one
  have hsplit := Chain.toList_above_append (hc.grown.fields.sound hline.sound_fields)
    (hline.sound_fields.mono hc.grown.fields.next_le) hc.grown.fields.suffix s₁
  have hreported : r.fields.toList
      = c.fields.toList ++ earlier.flatMap (fun e => e.fields.toList) := by
    have hfolded : b.folded = k.fields := hderived.folded_eq
    rw [hfields, toList_layeredFields, hderived.toList_context, hfolded, ← hsplit, List.append_nil,
      List.map_cons, List.flatMap_cons, List.flatMap_map, List.reverse_nil, List.nil_append,
      List.append_assoc]
  refine ⟨r, d', hrun, hreported, ?_⟩
  rw [hreported, List.append_right_eq_self, List.flatMap_eq_nil_iff]

/-- An observer that is bound along a kit without fields, one with a field and one with another field, and a
kit that adds a third one. -/
theorem BoundAlong.reports_earlier_again_of_three :
    let field (key : String) : Field := ⟨key, .bool true, {}⟩
    let service : Link Field := ⟨2, [field "service"]⟩
    let user : Link Field := ⟨3, [field "user"]⟩
    let k₁ : Kit Unit := { traceIds := ⟨[⟨1, [⟨"request"⟩]⟩], 1⟩ }
    let k₂ : Kit Unit := { k₁ with fields := ⟨[service], 1⟩ }
    let k₃ : Kit Unit := { k₁ with fields := ⟨[user, service], 2⟩ }
    let c : Kit Unit := { k₁ with fields := ⟨[⟨4, [field "step"]⟩, user, service], 3⟩ }
    let o : Observer Unit := .make ⟨0, .discard⟩ .blind
    let b₁ := ((o.withContext k₁.fields).run ⟨5⟩).1
    let b₂ := ((b₁.withContext k₂.fields).run ⟨5⟩).1
    let b₃ := ((b₂.withContext k₃.fields).run ⟨6⟩).1
    ∃ r d', (b₃.assembled (fun _ => pure true) c none (.panic .unit)).run ⟨1, ⟨⟨7⟩, ()⟩⟩ = (some r, d') ∧
      r.fields.toList.map Field.key = ["step", "user", "service", "service"] := by
  intro field service user k₁ k₂ k₃ c o b₁ b₂ b₃
  have hline : Kit.Line [k₃, k₂, k₁] ⟨4⟩ :=
    .next (.next (.one (.step (.refl (s := ⟨1⟩)) (.traceId "request")))
      (.step .refl (.field (field "service")))) (.step .refl (.field (field "user")))
  have hb : o.BoundAlong [k₃, k₂, k₁] b₃ := .bind k₃ ⟨6⟩ (.bind k₂ ⟨5⟩ (.bind k₁ ⟨5⟩ .nil))
  have hc : Kit.Derived k₃ ⟨4⟩ c ⟨5⟩ := .step .refl (.field (field "step"))
  have hpass : Gate.Pass (b₃.effectiveIds c) (.panic .unit) b₃.gates ⟨⟨7⟩, ()⟩ [] ⟨⟨7⟩, ()⟩ := .nil
  obtain ⟨r, d', hrun, hfields, -⟩ :=
    hb.reports_earlier_again (.make _ _) hline hc (d := ⟨1, ⟨⟨7⟩, ()⟩⟩) hpass (fun _ => pure true) none
  exact ⟨r, d', hrun, congrArg (List.map Field.key) hfields⟩

/-- An observer bound to a kit with a field, and then to one that adds another field, reports the first field
twice on that kit. -/
theorem not_once_of_bound_twice :
    ¬∀ (o b : Observer Unit) (ts : List TraceIds) (k : Kit Unit) (earlier : List (Kit Unit)) (s : Supply)
        (c : Kit Unit) (s' : Supply) (failure : Failure) (d : Desk Unit) (w : World Unit)
        (fallback : PlaceFilter Unit) (span : Option Span),
      Derived [] ts o → Kit.Line (k :: earlier) s → BoundAlong o (k :: earlier) b →
      Kit.Derived k s c s' → Gate.Pass (b.effectiveIds c) failure b.gates d.world [] w →
      ∃ r d', (b.assembled fallback c span failure).run d = (some r, d') ∧
        r.fields.toList = c.fields.toList := by
  intro h
  let service : Link Field := ⟨1, [⟨"service", .text "billing", {}⟩]⟩
  let k₁ : Kit Unit := { fields := ⟨[service], 1⟩ }
  let k₂ : Kit Unit := { fields := ⟨[⟨2, [⟨"user", .text "alice", {}⟩]⟩, service], 2⟩ }
  let o : Observer Unit := .make ⟨0, .discard⟩ .blind
  have hline : Kit.Line [k₂, k₁] ⟨3⟩ :=
    .next (.one (.step (.refl (s := ⟨1⟩)) (.field ⟨"service", .text "billing", {}⟩)))
      (.step .refl (.field ⟨"user", .text "alice", {}⟩))
  obtain ⟨r, d', hrun, hfields⟩ := h o _ [] k₂ [k₁] ⟨3⟩ k₂ ⟨3⟩ (.panic .unit) ⟨1, ⟨⟨5⟩, ()⟩⟩ ⟨⟨5⟩, ()⟩
    (fun _ => pure true) none (.make _ _) hline (.bind k₂ ⟨4⟩ (.bind k₁ ⟨3⟩ .nil)) .refl .nil
  obtain rfl := Option.some.inj (congrArg Prod.fst hrun)
  -- three fields against two
  exact absurd (congrArg List.length hfields) (by decide)

end Observer

end Vigil
