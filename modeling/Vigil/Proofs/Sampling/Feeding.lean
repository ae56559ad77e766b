import Vigil.Sampling.Ratio

/-!
# What is hashed of a set of ids

The ids of a chain are sorted and each is taken once, and every id is spelt as its UTF-8 bytes with a
terminator behind them.  So the bytes depend on the set of ids alone, and the set can be read off the bytes:

* `distinct_eq_of_mem_iff` — sorted and each once, the ids of a set are one list, in whatever order and how
  often they come;
* `terminator_not_mem_utf8`, `utf8_injective` — the terminator is found in no id, and no two ids have the
  same bytes;
* `spelt_injective` — a list of ids can be read off its bytes;
* `hash_eq_foldl_feed` — a hash depends on the seed and the bytes alone;
* `feed_eq_iff_same_ids` — two chains are hashed as the same bytes exactly when they hold the same ids.
-/

namespace Vigil

/-! ## The order of ids -/

theorem TraceId.le_iff (a b : TraceId) : TraceId.le a b = true ↔ a.text ≤ b.text := by
  rw [TraceId.le, decide_eq_true_iff]

theorem TraceId.eq_of_le_of_le {a b : TraceId} (h : TraceId.le a b = true) (h' : TraceId.le b a = true) :
    a = b := by
  rw [TraceId.le_iff] at h h'
  exact congrArg TraceId.mk (String.le_antisymm h h')

theorem TraceIds.pairwise_sorted (ids : TraceIds) :
    (TraceIds.sorted ids).Pairwise fun a b => TraceId.le a b = true := by
  refine List.pairwise_mergeSort (fun a b c hab hbc => ?_) (fun a b => ?_) ids.toList
  · rw [TraceId.le_iff] at hab hbc ⊢
    exact String.le_trans hab hbc
  · rw [Bool.or_eq_true, TraceId.le_iff, TraceId.le_iff]
    exact String.le_total a.text b.text

theorem TraceIds.mem_sorted {ids : TraceIds} {id : TraceId} :
    id ∈ TraceIds.sorted ids ↔ id ∈ ids.toList :=
  List.mem_mergeSort

namespace Sampling

/-! ## Sorted lists, each id once -/

theorem mem_distinct {id : TraceId} {ids : List TraceId} : id ∈ distinct ids ↔ id ∈ ids := by
  induction ids using distinct.induct with
  | case1 => rfl
  | case2 a => rfl
  | case3 a s ih =>
    rw [distinct, if_pos rfl, ih]
    simp only [List.mem_cons, or_self_left]
  | case4 a b s hne ih => rw [distinct, if_neg hne, List.mem_cons, ih, ← List.mem_cons]

theorem distinct_sublist (ids : List TraceId) : (distinct ids).Sublist ids := by
  induction ids using distinct.induct with
  | case1 => exact .slnil
  | case2 a => exact List.Sublist.refl _
  | case3 a s ih =>
    rw [distinct, if_pos rfl]
    exact ih.trans (List.sublist_cons_self a _)
  | case4 a b s hne ih =>
    rw [distinct, if_neg hne]
    exact ih.cons_cons a

/-- In a sorted list, ids that are the same stand side by side. -/
theorem nodup_distinct {ids : List TraceId} (h : ids.Pairwise fun a b => TraceId.le a b = true) :
    (distinct ids).Nodup := by
  induction ids using distinct.induct with
  | case1 => exact List.nodup_nil
  | case2 a => exact List.pairwise_singleton _ a
  | case3 a s ih =>
    rw [distinct, if_pos rfl]
    exact ih (List.pairwise_cons.mp h).2
  | case4 a b s hne ih =>
    obtain ⟨ha, hs⟩ := List.pairwise_cons.mp h
    rw [distinct, if_neg hne, List.nodup_cons]
    refine ⟨fun hmem => ?_, ih hs⟩
    -- the first id is not above the second one, and what comes later is not below that
    have hba : TraceId.le b a = true := by
      rcases List.mem_cons.mp (mem_distinct.mp hmem) with hab | hmem
      · exact absurd hab hne
      · exact (List.pairwise_cons.mp hs).1 a hmem
    exact hne (TraceId.eq_of_le_of_le (ha b List.mem_cons_self) hba)

/-- **A set of ids is one list**: sorted and each taken once, the ids of two chains with the same ids are
the same list. -/
theorem distinct_eq_of_mem_iff {a b : TraceIds} (h : ∀ id, id ∈ a.toList ↔ id ∈ b.toList) :
    distinct (TraceIds.sorted a) = distinct (TraceIds.sorted b) := by
  have hsorted (ids : TraceIds) :=
    (TraceIds.pairwise_sorted ids).sublist (distinct_sublist (TraceIds.sorted ids))
  have hnodup (ids : TraceIds) := nodup_distinct (TraceIds.pairwise_sorted ids)
  have hperm : (distinct (TraceIds.sorted a)).Perm (distinct (TraceIds.sorted b)) := by
    refine (List.perm_ext_iff_of_nodup (hnodup a) (hnodup b)).mpr fun id => ?_
    rw [mem_distinct, mem_distinct, TraceIds.mem_sorted, TraceIds.mem_sorted, h id]
  exact hperm.eq_of_pairwise (fun _ _ _ _ hle hle' => TraceId.eq_of_le_of_le hle hle') (hsorted a)
    (hsorted b)

/-! ## The bytes of ids -/

/-- No character is spelt with a byte that begins with more than four ones. -/
theorem lt_of_mem_utf8EncodeChar {c : Char} {b : UInt8} (h : b ∈ String.utf8EncodeChar c) :
    b.toNat < 0xf8 := by
  -- the arms are those of one, two, three and four bytes
  simp only [String.utf8EncodeChar] at h
  split at h
  · obtain rfl := List.mem_singleton.mp h
    rw [UInt8.toNat_ofNat']
    omega
  split at h
  · simp only [List.mem_cons, List.not_mem_nil, or_false] at h
    rcases h with rfl | rfl <;> rw [UInt8.toNat_ofNat'] <;> omega
  split at h
  · simp only [List.mem_cons, List.not_mem_nil, or_false] at h
    rcases h with rfl | rfl | rfl <;> rw [UInt8.toNat_ofNat'] <;> omega
  · simp only [List.mem_cons, List.not_mem_nil, or_false] at h
    rcases h with rfl | rfl | rfl | rfl <;> rw [UInt8.toNat_ofNat'] <;> omega

/-- **The terminator is found in no text.** -/
theorem terminator_not_mem_utf8 (s : String) : terminator ∉ utf8 s := by
  intro h
  obtain ⟨c, -, hc⟩ := List.mem_flatMap.mp h
  exact absurd (lt_of_mem_utf8EncodeChar hc) (by decide)

/-- **A text can be read off its bytes.** -/
theorem utf8_injective {s t : String} (h : utf8 s = utf8 t) : s = t := by
  rw [← String.toByteArray_inj, ← String.utf8Encode_toList, ← String.utf8Encode_toList]
  exact congrArg List.toByteArray h

/-- What stands in front of the first terminator, and what stands behind it, where more terminators may
be. -/
theorem eq_of_append_terminator {bytes bytes' rest rest' : List UInt8} (hmem : terminator ∉ bytes)
    (hmem' : terminator ∉ bytes') (h : bytes ++ terminator :: rest = bytes' ++ terminator :: rest') :
    bytes = bytes' ∧ rest = rest' := by
  induction bytes generalizing bytes' with
  | nil =>
    cases bytes' with
    | nil => exact ⟨rfl, (List.cons.inj h).2⟩
    | cons b bytes' => exact absurd ((List.cons.inj h).1 ▸ List.mem_cons_self) hmem'
  | cons b bytes ih =>
    cases bytes' with
    | nil => exact absurd ((List.cons.inj h).1 ▸ List.mem_cons_self) hmem
    | cons b' bytes' =>
      obtain ⟨rfl, htail⟩ := List.cons.inj h
      obtain ⟨rfl, hrest⟩ := ih (fun hb => hmem (List.mem_cons_of_mem _ hb))
        (fun hb => hmem' (List.mem_cons_of_mem _ hb)) htail
      exact ⟨rfl, hrest⟩

/-- The bytes of ids, in the order given. -/
def spelt (ids : List TraceId) : List UInt8 := ids.flatMap fun id => utf8 id.text ++ [terminator]

theorem spelt_cons (id : TraceId) (ids : List TraceId) :
    spelt (id :: ids) = utf8 id.text ++ terminator :: spelt ids := by
  rw [spelt, List.flatMap_cons, List.append_assoc]
  rfl

theorem spelt_cons_ne_nil (id : TraceId) (ids : List TraceId) : spelt (id :: ids) ≠ [] := by
  rw [spelt_cons]
  exact List.append_ne_nil_of_right_ne_nil _ (List.cons_ne_nil _ _)

/-- **Ids can be read off their bytes**: up to the first terminator the first one, and so on. -/
theorem spelt_injective {ids ids' : List TraceId} (h : spelt ids = spelt ids') : ids = ids' := by
  induction ids generalizing ids' with
  | nil =>
    cases ids' with
    | nil => rfl
    | cons id' ids' => exact absurd h.symm (spelt_cons_ne_nil id' ids')
  | cons id ids ih =>
    cases ids' with
    | nil => exact absurd h (spelt_cons_ne_nil id ids)
    | cons id' ids' =>
      rw [spelt_cons, spelt_cons] at h
      obtain ⟨htext, hrest⟩ := eq_of_append_terminator (terminator_not_mem_utf8 id.text)
        (terminator_not_mem_utf8 id'.text) h
      rw [show id = id' from congrArg TraceId.mk (utf8_injective htext), ih hrest]

/-! ## The bytes of a set -/

/-- The bytes are taken in one after another, behind the seed. -/
theorem hash_eq_foldl_feed (seed : UInt64) (ids : TraceIds) :
    hash seed ids
      = finish ((feed ids).foldl (fun state byte => absorb state byte.toUInt64) (absorb initial seed)) := rfl

/-- **Two chains are hashed as the same bytes exactly when they hold the same ids**, in whatever order and
how often.  The bytes are what a hash takes in behind its seed; so chains that hold the same ids have the same
hash under every seed, and a share that is chosen by hashing keeps both or neither. -/
theorem feed_eq_iff_same_ids (a b : TraceIds) :
    (feed a = feed b ↔ ∀ id, id ∈ a.toList ↔ id ∈ b.toList) ∧
    (∀ seed, hash seed a
      = finish ((feed a).foldl (fun state byte => absorb state byte.toUInt64) (absorb initial seed))) ∧
    ((∀ id, id ∈ a.toList ↔ id ∈ b.toList) → ∀ seed, hash seed a = hash seed b) ∧
    ((∀ id, id ∈ a.toList ↔ id ∈ b.toList) → ∀ r : TraceIdRatio, r.keep a = r.keep b) := by
  have hfeed : feed a = feed b ↔ ∀ id, id ∈ a.toList ↔ id ∈ b.toList := by
    constructor
    · intro h id
      have hlist : distinct (TraceIds.sorted a) = distinct (TraceIds.sorted b) := spelt_injective h
      rw [← TraceIds.mem_sorted, ← mem_distinct, hlist, mem_distinct, TraceIds.mem_sorted]
    · exact fun h => congrArg spelt (distinct_eq_of_mem_iff h)
  have hhash (h : ∀ id, id ∈ a.toList ↔ id ∈ b.toList) (seed : UInt64) : hash seed a = hash seed b := by
    rw [hash_eq_foldl_feed, hfeed.mpr h, ← hash_eq_foldl_feed]
  refine ⟨hfeed, fun seed => hash_eq_foldl_feed seed a, hhash, fun h r => ?_⟩
  rw [TraceIdRatio.keep, TraceIdRatio.keep, hhash h]

/-- The ids `a`, the empty one and `ab`; the same in another order and `a` twice; and the empty id and
`aba`, which is what `ab` and `a` come to when nothing stands between them. -/
theorem feed_eq_iff_same_ids_of_run_together :
    let ids : TraceIds := ⟨[⟨3, [⟨"ab"⟩]⟩, ⟨2, [⟨""⟩]⟩, ⟨1, [⟨"a"⟩]⟩], 3⟩
    let again : TraceIds := ⟨[⟨6, [⟨"a"⟩]⟩, ⟨5, [⟨"ab"⟩]⟩, ⟨4, [⟨""⟩]⟩, ⟨1, [⟨"a"⟩]⟩], 4⟩
    let joined : TraceIds := ⟨[⟨2, [⟨"aba"⟩]⟩, ⟨1, [⟨""⟩]⟩], 2⟩
    feed ids = feed again ∧ hash 7 ids = hash 7 again ∧ (∀ r : TraceIdRatio, r.keep ids = r.keep again) ∧
      feed ids ≠ feed joined := by
  intro ids again joined
  have hsame : ∀ id, id ∈ ids.toList ↔ id ∈ again.toList := by
    intro id
    show id ∈ [(⟨"ab"⟩ : TraceId), ⟨""⟩, ⟨"a"⟩] ↔ id ∈ [(⟨"a"⟩ : TraceId), ⟨"ab"⟩, ⟨""⟩, ⟨"a"⟩]
    grind
  obtain ⟨hfeed, -, hhash, hkeep⟩ := feed_eq_iff_same_ids ids again
  refine ⟨hfeed.mpr hsame, hhash hsame 7, hkeep hsame, ?_⟩
  intro hfeed
  have hmem := ((feed_eq_iff_same_ids ids joined).1.mp hfeed ⟨"a"⟩).mp (by decide)
  exact absurd hmem (by decide)

end Sampling

end Vigil
