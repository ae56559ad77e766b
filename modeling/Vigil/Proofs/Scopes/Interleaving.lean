import Vigil.Kit
import Vigil.Scopes

/-!
# Threads that enter and leave in any order

Any number of threads enter kits and give up guards, one after another in any order.  A guard is given up
on the thread that it was given to, but not in the reverse order of entering: the entry it takes with it can
lie anywhere in the stack of its thread, and some guards are never given up.

* `Held`, `Reached` — what such a run can come to, told by the guards that are held and not by their ids;
* `Accounts` — the entries of every stack are the guards held on its thread, and the ids fall from the
  guard given last on;
* `Accounts.enter`, `Accounts.leave`, `Reached.accounts` — one step keeps this, and so it holds of every run
  with fewer kits entered than there are words;
* `Reached.current_is_newest_held` — the kit that is current on a thread is the one entered last of those
  whose guards are held there.
-/

namespace Vigil

/-- A guard that is held, and the kit that was entered for it. -/
structure Held (κ : Type) where
  guard : Guard
  kit : κ

/-- The entry that belongs to a guard. -/
def Held.scope {κ : Type} (h : Held κ) : Scope κ := ⟨h.guard.id, h.kit⟩

namespace Scopes

variable {κ : Type}

/-- What threads can come to when `n` kits have been entered: the stacks, and the guards that are held, the
one given last first.  At any time a kit is entered on any thread, or any of the guards held is given up. -/
inductive Reached : Nat → Scopes κ → List (Held κ) → Prop
  | start : Reached 0 {} []
  | enter {n : Nat} {s : Scopes κ} {held : List (Held κ)} (t : ThreadNumber) (k : κ) :
      Reached n s held → Reached (n + 1) (s.enter t k).2 (⟨(s.enter t k).1, k⟩ :: held)
  | leave {n : Nat} {s : Scopes κ} {newer older : List (Held κ)} {h : Held κ} :
      Reached n s (newer ++ h :: older) → Reached n (s.leave h.guard) (newer ++ older)

/-! ## Stacks and guards held -/

/-- The guards held on a thread. -/
def heldOn (t : ThreadNumber) (held : List (Held κ)) : List (Held κ) :=
  held.filter fun h => h.guard.thread = t

theorem heldOn_cons_of_eq {t : ThreadNumber} {h : Held κ} (ht : h.guard.thread = t)
    (held : List (Held κ)) : heldOn t (h :: held) = h :: heldOn t held := by
  simp [heldOn, ht]

theorem heldOn_cons_of_ne {t : ThreadNumber} {h : Held κ} (ht : t ≠ h.guard.thread)
    (held : List (Held κ)) : heldOn t (h :: held) = heldOn t held := by
  simp [heldOn, Ne.symm ht]

theorem heldOn_append (t : ThreadNumber) (held held' : List (Held κ)) :
    heldOn t (held ++ held') = heldOn t held ++ heldOn t held' :=
  List.filter_append ..

/-- When `n` kits have been entered, the stacks hold what the guards say. -/
structure Accounts (n : Nat) (s : Scopes κ) (held : List (Held κ)) : Prop where
  next : s.nextGuard = UInt64.ofNat (n + 1)
  id_le : ∀ h ∈ held, h.guard.id.toNat ≤ n
  /-- A guard given later has a larger id. -/
  falling : held.Pairwise fun newer older => older.guard.id < newer.guard.id
  stack : ∀ t, s.stack t = (heldOn t held).map Held.scope

/-- A guard takes its own entry, wherever it is. -/
theorem removeGuard_append {entries : List (Scope κ)} {e : Scope κ} (below : List (Scope κ))
    (h : ∀ e' ∈ entries, e'.guardId ≠ e.guardId) :
    removeGuard e.guardId (entries ++ e :: below) = entries ++ below := by
  induction entries with
  | nil => simp [removeGuard]
  | cons e' entries ih =>
    obtain ⟨hne, hentries⟩ := List.forall_mem_cons.mp h
    rw [List.cons_append, removeGuard, if_neg hne, ih hentries, List.cons_append]

namespace Accounts

variable {n : Nat} {s : Scopes κ} {held newer older : List (Held κ)} {h : Held κ}

theorem start : Accounts 0 ({} : Scopes κ) [] where
  next := rfl
  id_le := List.forall_mem_nil _
  falling := .nil
  stack _ := rfl

/-- **Entering** puts an entry on the stack of one thread, under the largest id so far. -/
theorem enter (hs : Accounts n s held) (hn : n + 1 < UInt64.size) (t : ThreadNumber) (k : κ) :
    Accounts (n + 1) (s.enter t k).2 (⟨(s.enter t k).1, k⟩ :: held) := by
  have hid : s.nextGuard.toNat = n + 1 := by
    rw [hs.next, UInt64.toNat_ofNat_of_lt' hn]
  refine ⟨?_, ?_, ?_, fun u => ?_⟩
  · show s.nextGuard + 1 = UInt64.ofNat (n + 1 + 1)
    rw [hs.next, UInt64.ofNat_add (n + 1) 1]
    rfl
  · refine List.forall_mem_cons.mpr ⟨Nat.le_of_eq hid, fun h hh => ?_⟩
    exact Nat.le_succ_of_le (hs.id_le h hh)
  · refine List.pairwise_cons.mpr ⟨fun h hh => ?_, hs.falling⟩
    show h.guard.id < s.nextGuard
    rw [UInt64.lt_iff_toNat_lt, hid]
    exact Nat.lt_succ_of_le (hs.id_le h hh)
  · by_cases hu : u = t
    · subst hu
      have hthread : (s.enter u k).1.thread = u := rfl
      rw [heldOn_cons_of_eq hthread, List.map_cons, ← hs.stack u]
      simp [Scopes.enter, withStack, Held.scope]
    · rw [stack_enter_of_ne hu, heldOn_cons_of_ne hu]
      exact hs.stack u

/-- **Giving up a guard** takes its entry, and no other, off the stack of its thread. -/
theorem leave (hs : Accounts n s (newer ++ h :: older)) :
    Accounts n (s.leave h.guard) (newer ++ older) := by
  have hsub : (newer ++ older).Sublist (newer ++ h :: older) :=
    (List.Sublist.refl newer).append (List.sublist_cons_self h older)
  refine ⟨hs.next, fun h' hh' => hs.id_le h' (hsub.subset hh'), hs.falling.sublist hsub, fun u => ?_⟩
  by_cases hu : u = h.guard.thread
  · subst hu
    -- the guards given after it have larger ids
    have hne : ∀ e ∈ (heldOn h.guard.thread newer).map Held.scope, e.guardId ≠ h.scope.guardId := by
      intro e he
      obtain ⟨h', hh', rfl⟩ := List.mem_map.mp he
      have hmem : h' ∈ newer := (List.mem_filter.mp hh').1
      have hlt := (List.pairwise_append.mp hs.falling).2.2 h' hmem h List.mem_cons_self
      exact fun heq => UInt64.ne_of_lt hlt heq.symm
    have hstack := hs.stack h.guard.thread
    rw [heldOn_append, heldOn_cons_of_eq rfl, List.map_append, List.map_cons] at hstack
    rw [heldOn_append, List.map_append, ← removeGuard_append _ hne, ← hstack]
    simp [Scopes.leave, withStack, Held.scope]
  · rw [stack_leave_of_ne s h.guard hu, hs.stack u, heldOn_append, heldOn_append, heldOn_cons_of_ne hu]

end Accounts

variable {n : Nat} {s : Scopes κ} {held : List (Held κ)}

/-- **The stacks hold what the guards say**, whatever the threads did. -/
theorem Reached.accounts (h : Reached n s held) (hn : n < UInt64.size) : Accounts n s held := by
  induction h with
  | start => exact .start
  | enter t k _ ih => exact (ih (Nat.lt_of_succ_lt hn)).enter hn t k
  | leave _ ih => exact (ih hn).leave

/-! ## The current kit -/

theorem Accounts.current?_eq (h : Accounts n s held) (t : ThreadNumber) :
    s.current? t = (held.find? fun h => h.guard.thread = t).map Held.kit := by
  rw [current?, h.stack t, heldOn, List.head?_map, List.head?_filter, Option.map_map]
  rfl

theorem current?_enter_of_ne {t u : ThreadNumber} (h : u ≠ t) (s : Scopes κ) (k : κ) :
    (s.enter t k).2.current? u = s.current? u := by
  rw [current?, current?, stack_enter_of_ne h]

theorem current?_leave_of_ne {u : ThreadNumber} (s : Scopes κ) (g : Guard) (h : u ≠ g.thread) :
    (s.leave g).current? u = s.current? u := by
  rw [current?, current?, stack_leave_of_ne s g h]

variable {σ : Type}

/-- **The current kit of a thread is the one entered last of those whose guards are held there**, and the
empty one if none is.  Whatever a thread does next, the others keep their current kits. -/
theorem Reached.current_is_newest_held {s : Scopes (Kit σ)} {held : List (Held (Kit σ))}
    (h : Reached n s held) (hn : n < UInt64.size) (t : ThreadNumber) :
    (s.current? t).getD .empty
        = ((held.find? fun h => h.guard.thread = t).map Held.kit).getD .empty ∧
    (∀ u k, t ≠ u → ((s.enter u k).2.current? t).getD .empty = (s.current? t).getD .empty) ∧
    ∀ h ∈ held, t ≠ h.guard.thread →
      ((s.leave h.guard).current? t).getD .empty = (s.current? t).getD .empty := by
  refine ⟨?_, fun u k ht => ?_, fun h _ ht => ?_⟩
  · rw [(h.accounts hn).current?_eq t]
  · rw [current?_enter_of_ne ht]
  · rw [current?_leave_of_ne s h.guard ht]

/-- Three kits are entered on one thread and one on another; the guards of the second one and of the other
thread's are given up. -/
theorem Reached.current_is_newest_held_out_of_order :
    let kit (id : String) : Kit Unit := { traceIds := ⟨[⟨1, [⟨id⟩]⟩], 1⟩ }
    let s₁ : Scopes (Kit Unit) := (({} : Scopes (Kit Unit)).enter 0 (kit "outer")).2
    let s₂ := (s₁.enter 0 (kit "middle")).2
    let s₃ := (s₂.enter 7 (kit "elsewhere")).2
    let s₄ := (s₃.enter 0 (kit "inner")).2
    let s₅ := s₄.leave ⟨2, 0⟩
    let s := s₅.leave ⟨3, 7⟩
    let held : List (Held (Kit Unit)) := [⟨⟨4, 0⟩, kit "inner"⟩, ⟨⟨1, 0⟩, kit "outer"⟩]
    Reached 4 s held ∧ (s.current? 0).getD .empty = kit "inner" ∧
      (s.current? 7).getD .empty = .empty := by
  intro kit s₁ s₂ s₃ s₄ s₅ s held
  have h₄ : Reached 4 s₄ [⟨⟨4, 0⟩, kit "inner"⟩, ⟨⟨3, 7⟩, kit "elsewhere"⟩, ⟨⟨2, 0⟩, kit "middle"⟩,
      ⟨⟨1, 0⟩, kit "outer"⟩] :=
    .enter 0 _ (.enter 7 _ (.enter 0 _ (.enter 0 _ .start)))
  have h₅ : Reached 4 s₅ [⟨⟨4, 0⟩, kit "inner"⟩, ⟨⟨3, 7⟩, kit "elsewhere"⟩, ⟨⟨1, 0⟩, kit "outer"⟩] :=
    @Reached.leave _ 4 s₄ [_, _] _ _ h₄
  have h : Reached 4 s held := @Reached.leave _ 4 s₅ [_] _ _ h₅
  exact ⟨h, (h.current_is_newest_held (by decide) 0).1, (h.current_is_newest_held (by decide) 7).1⟩

end Scopes

end Vigil
