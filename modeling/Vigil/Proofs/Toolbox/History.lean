import Vigil.Kit
import Mathlib.Data.Finset.Card
import Mathlib.Data.Finset.Dedup
import Mathlib.Data.List.Forall2

/-!
# Toolboxes as their history

A toolbox is filled by putting tools in, one after another, and what it holds can be told from that history
alone: the names in the order in which they were first used, and under each the tool that was last put there.
Proved:

* `names_putAll_pairwise`, `nodup_names_putAll`, `mem_names_putAll` — the names;
* `find?_putAll` — the tools;
* `put_put`, `put_comm` — putting twice under one name, and under two names in either order;
* `run_flushTools` — a flush goes through the tools in order;
* `putAll_ordered` — so a toolbox is an ordered map over its history.
-/

namespace Vigil

variable {τ σ : Type}

namespace Toolbox

/-! ## The names and the tools of a history -/

/-- The toolbox into which tools were put one after another. -/
def putAll (history : List (ToolName × Instance τ)) : Toolbox τ :=
  history.foldl (fun b e => b.put e.1 e.2) empty

theorem putAll_concat (history : List (ToolName × Instance τ)) (e : ToolName × Instance τ) :
    putAll (history ++ [e]) = (putAll history).put e.1 e.2 := by
  rw [putAll, List.foldl_append]
  rfl

variable (history : List (ToolName × Instance τ))

/-- The names are those that were used. -/
theorem mem_names_putAll (n : ToolName) : n ∈ (putAll history).names ↔ n ∈ history.map (·.1) := by
  induction history using List.reverseRecOn with
  | nil => exact Iff.rfl
  | append_singleton history e ih =>
    rw [putAll_concat, names_put, List.map_append, List.mem_append, ← ih, List.map_singleton,
      List.mem_singleton]
    split
    · next hthere =>
      refine ⟨.inl, fun h => h.elim id ?_⟩
      rintro rfl
      exact hthere
    · rw [List.mem_append, List.mem_singleton]

/-- The names stand in the order in which they were first used, and so each stands there once. -/
theorem names_putAll_pairwise :
    (putAll history).names.Pairwise fun n m =>
      (history.map (·.1)).idxOf n < (history.map (·.1)).idxOf m := by
  induction history using List.reverseRecOn with
  | nil => exact .nil
  | append_singleton history e ih =>
    -- the places of names that were used before stay
    have hold : (putAll history).names.Pairwise fun n m =>
        ((history ++ [e]).map (·.1)).idxOf n < ((history ++ [e]).map (·.1)).idxOf m := by
      refine ih.imp_of_mem fun hn hm hlt => ?_
      rw [mem_names_putAll] at hn hm
      rwa [List.map_append, List.idxOf_append_of_mem hn, List.idxOf_append_of_mem hm]
    rw [putAll_concat, names_put]
    split
    · exact hold
    · next hnew =>
      refine List.pairwise_append.mpr ⟨hold, List.pairwise_singleton _ _, fun n hn m hm => ?_⟩
      obtain rfl := List.mem_singleton.mp hm
      rw [mem_names_putAll] at hn hnew
      rw [List.map_append, List.idxOf_append_of_mem hn, List.idxOf_append_of_notMem hnew]
      exact Nat.lt_of_lt_of_le (List.idxOf_lt_length_of_mem hn) (Nat.le_add_right _ _)

theorem nodup_names_putAll : (putAll history).names.Nodup := by
  refine (names_putAll_pairwise history).imp ?_
  rintro n _ hlt rfl
  exact Nat.lt_irrefl _ hlt

/-- Under a name is the tool that was last put there. -/
theorem find?_putAll (n : ToolName) :
    (putAll history).find? n = (history.reverse.find? fun e => e.1 = n).map (·.2) := by
  induction history using List.reverseRecOn with
  | nil => rfl
  | append_singleton history e ih =>
    rw [putAll_concat, find?_put, List.reverse_concat]
    split
    · next hname =>
      rw [List.find?_cons_of_pos (by simpa using hname)]
      rfl
    · next hname => rw [List.find?_cons_of_neg (by simpa using hname), ih]

/-- There are as many tools as names were used. -/
theorem size_putAll : (putAll history).size = (history.map (·.1)).toFinset.card := by
  have hnames : (history.map (·.1)).toFinset = (putAll history).names.toFinset := by
    ext n
    rw [List.mem_toFinset, List.mem_toFinset, mem_names_putAll]
  rw [hnames, List.toFinset_card_of_nodup (nodup_names_putAll history), names, List.length_map, size]

/-! ## Putting twice -/

section

variable {n m : ToolName} {es : List (ToolName × Instance τ)}

theorem putEntry_putEntry (n : ToolName) (t u : Instance τ) (es : List (ToolName × Instance τ)) :
    putEntry n u (putEntry n t es) = putEntry n u es := by
  induction es with
  | nil => simp only [putEntry, if_true]
  | cons e es ih =>
    by_cases h : e.1 = n
    · simp only [putEntry, h, if_true]
    · simp only [putEntry, h, if_false, ih]

/-- Of two names only one has to be there already: then the other one goes behind all in any case. -/
theorem putEntry_comm (hne : n ≠ m) (hn : n ∈ es.map (·.1)) (t u : Instance τ) :
    putEntry m u (putEntry n t es) = putEntry n t (putEntry m u es) := by
  induction es with
  | nil => exact absurd hn List.not_mem_nil
  | cons e es ih =>
    by_cases hen : e.1 = n
    · have hem : ¬e.1 = m := fun h => hne (hen.symm.trans h)
      simp only [putEntry, hen, hne, if_true, if_false]
    · by_cases hem : e.1 = m
      · simp only [putEntry, hem, hne.symm, if_true, if_false]
      · have hn' : n ∈ es.map (·.1) := (List.mem_cons.mp hn).resolve_left fun h => hen h.symm
        simp only [putEntry, hen, hem, if_false, ih hn']

theorem put_put (b : Toolbox τ) (n : ToolName) (t u : Instance τ) : (b.put n t).put n u = b.put n u :=
  congrArg Toolbox.mk (putEntry_putEntry n t u b.entries)

theorem put_comm (b : Toolbox τ) (hne : n ≠ m) (hn : n ∈ b.names) (t u : Instance τ) :
    (b.put n t).put m u = (b.put m u).put n t :=
  congrArg Toolbox.mk (putEntry_comm hne hn t u)

theorem sameEntries_self (es : List (ToolName × Instance τ)) : sameEntries es es = true := by
  induction es with
  | nil => rfl
  | cons e es ih => simp only [sameEntries, beq_self_eq_true, Instance.same_self, ih, Bool.and_self]

theorem same_self (b : Toolbox τ) : b.same b = true := sameEntries_self b.entries

/-- Copies of one instance leave the same toolbox. -/
theorem sameEntries_putEntry {t u : Instance τ} (h : t.same u = true) (n : ToolName)
    (es : List (ToolName × Instance τ)) : sameEntries (putEntry n t es) (putEntry n u es) = true := by
  induction es with
  | nil => simp only [putEntry, sameEntries, beq_self_eq_true, h, Bool.and_self]
  | cons e es ih =>
    by_cases hname : e.1 = n
    · simp only [putEntry, hname, if_true, sameEntries, beq_self_eq_true, h, sameEntries_self,
        Bool.and_self]
    · simp only [putEntry, hname, if_false, sameEntries, beq_self_eq_true, Instance.same_self, ih,
        Bool.and_self]

end

/-! ## Going through the tools -/

/-- A flush flushes the tools one after another. -/
theorem run_flushTools (ts : List (Instance (Tool σ))) (w : World σ) :
    (flushTools ts).run w = ((), ts.foldl (fun w t => (t.val.flush.run w).2) w) := by
  induction ts generalizing w with
  | nil => rfl
  | cons t ts ih => exact ih (t.val.flush.run w).2

/-- An entry is found under its name, if no name stands there twice. -/
theorem find?_of_mem {es : List (ToolName × Instance τ)} (h : (es.map (·.1)).Nodup)
    {e : ToolName × Instance τ} (he : e ∈ es) : (⟨es⟩ : Toolbox τ).find? e.1 = some e.2 := by
  induction es with
  | nil => exact absurd he List.not_mem_nil
  | cons d es ih =>
    obtain ⟨hnew, hnodup⟩ := List.nodup_cons.mp h
    rcases List.mem_cons.mp he with rfl | he
    · rw [find?, List.find?_cons_of_pos (by simp)]
      rfl
    · have hname : ¬d.1 = e.1 := fun heq => hnew (List.mem_map.mpr ⟨e, he, heq.symm⟩)
      rw [find?, List.find?_cons_of_neg (by simpa using hname)]
      exact ih hnodup he

/-- **A toolbox is an ordered map over its history.**  Of the names that were used each stands in it once, in
the order in which they were first used; under a name is the tool that was last put there, and under other
names there is none; it has as many tools as different names were used; of two tools put under one name only the
second one matters, so that putting a copy of a tool under its name again leaves the same toolbox; putting tools
under two names that are there leaves the same entries in either order; and a kit with this toolbox flushes its
tools once for each name, in that order. -/
theorem putAll_ordered (history : List (ToolName × Instance (Tool σ))) :
    let used := history.map (·.1)
    let b := putAll history
    (∀ n, b.names.count n = if n ∈ used then 1 else 0) ∧
    (b.names.Pairwise fun n m => used.idxOf n < used.idxOf m) ∧
    (∀ n, b.find? n = (history.reverse.find? fun e => e.1 = n).map (·.2)) ∧
    b.size = used.toFinset.card ∧
    (∀ n t u, (b.put n t).put n u = b.put n u ∧
      (u.same t = true → ((b.put n t).put n u).same (b.put n t) = true)) ∧
    (∀ n m t u, n ≠ m → n ∈ b.names → m ∈ b.names →
      (b.put n t).put m u = (b.put m u).put n t ∧
        ((b.put n t).put m u).same ((b.put m u).put n t) = true) ∧
    ∀ k : Kit σ, k.tools = b → ∃ ts, List.Forall₂ (fun n t => b.find? n = some t) b.names ts ∧
      ∀ w, k.flush.run w = ((), ts.foldl (fun w t => (t.val.flush.run w).2) w) := by
  intro used b
  have hnodup : b.names.Nodup := nodup_names_putAll history
  refine ⟨fun n => ?_, names_putAll_pairwise history, find?_putAll history, size_putAll history,
    fun n t u => ⟨put_put b n t u, fun hsame => ?_⟩, fun n m t u hne hn _ => ?_, fun k hk => ?_⟩
  · split
    · next hused => exact List.count_eq_one_of_mem hnodup ((mem_names_putAll history n).mpr hused)
    · next hunused =>
      exact List.count_eq_zero_of_not_mem fun h => hunused ((mem_names_putAll history n).mp h)
  · rw [put_put]
    exact sameEntries_putEntry hsame n b.entries
  · have hcomm := b.put_comm hne hn t u
    refine ⟨hcomm, ?_⟩
    rw [hcomm]
    exact same_self _
  · refine ⟨b.entries.map (·.2), ?_, fun w => ?_⟩
    · refine List.forall₂_map_left_iff.mpr (List.forall₂_map_right_iff.mpr (List.forall₂_same.mpr ?_))
      exact fun e he => find?_of_mem hnodup he
    · rw [Kit.flush, hk]
      exact run_flushTools _ w

end Toolbox

end Vigil
