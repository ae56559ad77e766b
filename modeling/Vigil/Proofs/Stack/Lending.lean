import Vigil.Stack.Pool

/-!
# Buffers on loan from a pool

Buffers are taken out of a pool, written to and put back, any number of them at a time and in any order, and
in between stacks are recorded into a buffer of the pool.  A buffer is known by its mark, wherever it is and
whatever is in it.  Proved:

* `Lends` — at any time no buffer is in two places, and what is idle is empty and no more than the capacity;
* `Lends.checkout`, `Lends.write`, `Lends.release`, `Lends.walk` — each step keeps this;
* `Reached.lends` — so it holds of every history of a pool;
* `Reached.lends_one_at_a_time` — what each step then does to the pool.
-/

namespace Vigil.Pool

/-- What a pool can come to: the marks not drawn yet, the pool, and the buffers that are held.  At any time a
buffer is taken out, a buffer that is held is written to or put back, a stack is recorded, or marks are drawn
for other things. -/
inductive Reached (bufferLength capacity : Nat) : Supply → Pool → List Buffer → Prop
  | start (s : Supply) : Reached bufferLength capacity s (make bufferLength capacity) []
  | checkout {s : Supply} {p : Pool} {held : List Buffer} : Reached bufferLength capacity s p held →
      Reached bufferLength capacity (p.checkout.run s).2 (p.checkout.run s).1.2
        ((p.checkout.run s).1.1 :: held)
  | write {s : Supply} {p : Pool} {before after : List Buffer} {b : Buffer} (content : List Address) :
      Reached bufferLength capacity s p (before ++ b :: after) →
      Reached bufferLength capacity s p (before ++ { b with content } :: after)
  | release {s : Supply} {p : Pool} {before after : List Buffer} {b : Buffer} :
      Reached bufferLength capacity s p (before ++ b :: after) →
      Reached bufferLength capacity s (p.release b) (before ++ after)
  | walk {s : Supply} {p : Pool} {held : List Buffer} (stack : List Address) :
      Reached bufferLength capacity s p held →
      Reached bufferLength capacity ((p.walk stack).run s).2 ((p.walk stack).run s).1.2 held
  | wait {s s' : Supply} {p : Pool} {held : List Buffer} : s.next ≤ s'.next →
      Reached bufferLength capacity s p held → Reached bufferLength capacity s' p held

/-- No buffer is in two places, and what is idle is empty and no more than the capacity. -/
structure Lends (bufferLength capacity : Nat) (s : Supply) (p : Pool) (held : List Buffer) : Prop where
  bufferLength_eq : p.bufferLength = max 1 bufferLength
  capacity_eq : p.capacity = capacity
  length_le : p.idle.length ≤ capacity
  empty : ∀ b ∈ p.idle, b.content = []
  nodup : ((p.idle ++ held).map Buffer.mark).Nodup
  drawn : ∀ b ∈ p.idle ++ held, b.mark < s.next

/-! ## What each step does -/

theorem run_checkout_of_idle {p : Pool} {b : Buffer} {bs : List Buffer} (h : p.idle = b :: bs) (s : Supply) :
    p.checkout.run s = ((b, { p with idle := bs }), s) := by
  rw [checkout, h]
  rfl

theorem run_checkout_of_none {p : Pool} (h : p.idle = []) (s : Supply) :
    p.checkout.run s = (({ mark := s.next }, p), ⟨s.next + 1⟩) := by
  rw [checkout, h]
  rfl

theorem run_walk (p : Pool) (stack : List Address) (s : Supply) :
    (p.walk stack).run s
      = let r := p.checkout.run s
        let recorded := record p.bufferLength r.1.1.content stack
        ((recorded, r.1.2.release { r.1.1 with content := recorded }), r.2) := rfl

theorem length_idle_checkout (p : Pool) (s : Supply) :
    (p.checkout.run s).1.2.idle.length = p.idle.length - 1 := by
  cases h : p.idle with
  | nil => rw [run_checkout_of_none h, h]; rfl
  | cons b bs => rw [run_checkout_of_idle h]; rfl

theorem content_checkout {p : Pool} (h : ∀ b ∈ p.idle, b.content = []) (s : Supply) :
    (p.checkout.run s).1.1.content = [] := by
  cases hidle : p.idle with
  | nil => rw [run_checkout_of_none hidle]
  | cons b bs =>
    rw [run_checkout_of_idle hidle]
    exact h b (hidle ▸ List.mem_cons_self)

theorem capacity_checkout (p : Pool) (s : Supply) : (p.checkout.run s).1.2.capacity = p.capacity := by
  cases h : p.idle with
  | nil => rw [run_checkout_of_none h]
  | cons b bs => rw [run_checkout_of_idle h]

theorem bufferLength_checkout (p : Pool) (s : Supply) :
    (p.checkout.run s).1.2.bufferLength = p.bufferLength := by
  cases h : p.idle with
  | nil => rw [run_checkout_of_none h]
  | cons b bs => rw [run_checkout_of_idle h]

theorem length_idle_release (p : Pool) (b : Buffer) :
    (p.release b).idle.length = if p.idle.length < p.capacity then p.idle.length + 1 else p.idle.length := by
  rw [release]
  split <;> rfl

/-- A walk takes one buffer and puts it back, so only a pool without idle buffers can change. -/
theorem length_idle_walk (p : Pool) (stack : List Address) (s : Supply) (h : p.idle.length ≤ p.capacity) :
    ((p.walk stack).run s).1.2.idle.length = max p.idle.length (min 1 p.capacity) := by
  rw [run_walk]
  simp only [length_idle_release, length_idle_checkout, capacity_checkout]
  split <;> omega

namespace Lends

variable {bufferLength capacity : Nat} {s s' : Supply} {p : Pool} {held before after : List Buffer}
variable {b : Buffer}

theorem start (bufferLength capacity : Nat) (s : Supply) :
    Lends bufferLength capacity s (make bufferLength capacity) [] where
  bufferLength_eq := Nat.max_comm bufferLength 1
  capacity_eq := rfl
  length_le := Nat.zero_le _
  empty := List.forall_mem_nil _
  nodup := .nil
  drawn := List.forall_mem_nil _

theorem wait (h : Lends bufferLength capacity s p held) (hs : s.next ≤ s'.next) :
    Lends bufferLength capacity s' p held :=
  { h with drawn := fun b hb => Nat.lt_of_lt_of_le (h.drawn b hb) hs }

/-- **Taking a buffer out** takes it from the idle ones, or makes one under a mark that none has. -/
theorem checkout (h : Lends bufferLength capacity s p held) :
    Lends bufferLength capacity (p.checkout.run s).2 (p.checkout.run s).1.2
      ((p.checkout.run s).1.1 :: held) := by
  cases hidle : p.idle with
  | nil =>
    have hnodup := h.nodup
    have hdrawn := h.drawn
    rw [hidle, List.nil_append] at hnodup hdrawn
    rw [run_checkout_of_none hidle]
    refine ⟨h.bufferLength_eq, h.capacity_eq, h.length_le, h.empty, ?_, ?_⟩
    · rw [hidle, List.nil_append, List.map_cons, List.nodup_cons]
      refine ⟨fun hmem => ?_, hnodup⟩
      obtain ⟨b, hb, hmark⟩ := List.mem_map.mp hmem
      exact absurd (hdrawn b hb) (by rw [hmark]; exact Nat.lt_irrefl _)
    · rw [hidle, List.nil_append]
      refine List.forall_mem_cons.mpr ⟨Nat.lt_succ_self _, fun b hb => ?_⟩
      exact Nat.lt_succ_of_lt (hdrawn b hb)
  | cons b bs =>
    have hperm : (bs ++ b :: held).Perm (p.idle ++ held) := by
      rw [hidle]
      exact List.perm_middle
    have hle := h.length_le
    have hempty := h.empty
    rw [hidle] at hle hempty
    rw [run_checkout_of_idle hidle]
    refine ⟨h.bufferLength_eq, h.capacity_eq, Nat.le_of_succ_le hle, ?_, ?_, ?_⟩
    · exact (List.forall_mem_cons.mp hempty).2
    · exact ((hperm.map Buffer.mark).nodup_iff).mpr h.nodup
    · exact fun b' hb' => h.drawn b' (hperm.mem_iff.mp hb')

/-- **Writing** leaves a buffer where it is. -/
theorem write (h : Lends bufferLength capacity s p (before ++ b :: after)) (content : List Address) :
    Lends bufferLength capacity s p (before ++ { b with content } :: after) := by
  refine ⟨h.bufferLength_eq, h.capacity_eq, h.length_le, h.empty, ?_, fun b' hb' => ?_⟩
  · simpa using h.nodup
  · have hdrawn := h.drawn
    simp only [List.mem_append, List.mem_cons] at hdrawn hb'
    rcases hb' with hb' | hb' | rfl | hb'
    · exact hdrawn b' (.inl hb')
    · exact hdrawn b' (.inr (.inl hb'))
    · exact hdrawn b (.inr (.inr (.inl rfl)))
    · exact hdrawn b' (.inr (.inr (.inr hb')))

/-- **Putting a buffer back** empties it; it becomes idle, or is nowhere any more. -/
theorem release (h : Lends bufferLength capacity s p (before ++ b :: after)) :
    Lends bufferLength capacity s (p.release b) (before ++ after) := by
  have hperm : (p.idle ++ (before ++ b :: after)).Perm (b :: (p.idle ++ (before ++ after))) := by
    rw [← List.append_assoc, ← List.append_assoc]
    exact List.perm_middle
  have hnodup : (b.mark :: (p.idle ++ (before ++ after)).map Buffer.mark).Nodup :=
    ((hperm.map Buffer.mark).nodup_iff).mp h.nodup
  have hdrawn : ∀ b' ∈ b :: (p.idle ++ (before ++ after)), b'.mark < s.next :=
    fun b' hb' => h.drawn b' (hperm.mem_iff.mpr hb')
  obtain ⟨hb, hrest⟩ := List.forall_mem_cons.mp hdrawn
  rw [Pool.release]
  split
  · rename_i hroom
    refine ⟨h.bufferLength_eq, h.capacity_eq, ?_, ?_, hnodup, List.forall_mem_cons.mpr ⟨hb, hrest⟩⟩
    · exact h.capacity_eq ▸ hroom
    · exact List.forall_mem_cons.mpr ⟨rfl, h.empty⟩
  · exact ⟨h.bufferLength_eq, h.capacity_eq, h.length_le, h.empty, (List.nodup_cons.mp hnodup).2, hrest⟩

/-- **Recording a stack** takes a buffer out, writes to it and puts it back. -/
theorem walk (h : Lends bufferLength capacity s p held) (stack : List Address) :
    Lends bufferLength capacity ((p.walk stack).run s).2 ((p.walk stack).run s).1.2 held := by
  let r := p.checkout.run s
  have hout : Lends bufferLength capacity r.2 r.1.2 ([] ++ r.1.1 :: held) := h.checkout
  exact (hout.write (record p.bufferLength r.1.1.content stack)).release

end Lends

/-! ## Every history -/

variable {bufferLength capacity : Nat} {s : Supply} {p : Pool} {held : List Buffer}

/-- **No buffer is in two places**, whatever was done with the pool. -/
theorem Reached.lends (h : Reached bufferLength capacity s p held) : Lends bufferLength capacity s p held := by
  induction h with
  | start s => exact .start _ _ s
  | checkout _ ih => exact ih.checkout
  | write content _ ih => exact ih.write content
  | release _ ih => exact ih.release
  | walk stack _ ih => exact ih.walk stack
  | wait hs _ ih => exact ih.wait hs

/-- **Buffers are lent to one holder at a time.**  Whatever was done with a pool: its buffers are as long as
was asked for, but at least one; it keeps no more idle buffers than its capacity; these are empty, and no
buffer is idle twice, held twice, or idle and held.  A buffer taken out then is empty, held by no one else and
no longer in the pool, and there is one idle buffer less if there was one; putting a buffer back makes one
more if there is room; recording a stack changes nothing but that an empty pool with room then has one. -/
theorem Reached.lends_one_at_a_time (h : Reached bufferLength capacity s p held) :
    p.bufferLength = max 1 bufferLength ∧ p.idle.length ≤ capacity ∧ (∀ b ∈ p.idle, b.content = []) ∧
    ((p.idle ++ held).map Buffer.mark).Nodup ∧
    (∀ b p' s', p.checkout.run s = ((b, p'), s') →
      b.content = [] ∧ (∀ b' ∈ p'.idle ++ held, b'.mark ≠ b.mark) ∧ p'.idle.length = p.idle.length - 1) ∧
    (∀ b ∈ held, (p.release b).idle.length
      = if p.idle.length < capacity then p.idle.length + 1 else p.idle.length) ∧
    ∀ stack, ((p.walk stack).run s).1.2.idle.length = max p.idle.length (min 1 capacity) := by
  obtain ⟨hlength, hcapacity, hle, hempty, hnodup, -⟩ := h.lends
  refine ⟨hlength, hle, hempty, hnodup, fun b p' s' hrun => ⟨?_, ?_, ?_⟩, fun b _ => ?_, fun stack => ?_⟩
  · have hb : (p.checkout.run s).1.1.content = [] := content_checkout hempty s
    rwa [hrun] at hb
  · have hout := h.lends.checkout.nodup
    rw [hrun, (List.perm_middle.map Buffer.mark).nodup_iff] at hout
    exact fun b' hb' hmark => (List.nodup_cons.mp hout).1 (hmark ▸ List.mem_map_of_mem hb')
  · have hidle := length_idle_checkout p s
    rwa [hrun] at hidle
  · rw [length_idle_release, hcapacity]
  · rw [length_idle_walk p stack s (hcapacity ▸ hle), hcapacity]

/-- Two buffers are taken out of a pool with room for one; the first is written to and put back, a stack is
recorded, and the second is written to. -/
theorem Reached.lends_one_at_a_time_dirty :
    let first : Buffer := ⟨1, []⟩
    let second : Buffer := ⟨2, [7]⟩
    let p : Pool := { idle := [first], bufferLength := 1, capacity := 1 }
    Reached 0 1 ⟨3⟩ p [second] ∧ p.checkout.run ⟨3⟩ = ((first, { p with idle := [] }), ⟨3⟩) ∧
      first.content = [] ∧ first.mark ≠ second.mark ∧ (p.release second).idle.length = 1 ∧
      ((p.walk [5, 6]).run ⟨3⟩).1.2.idle.length = 1 := by
  intro first second p
  have hout : Reached 0 1 ⟨3⟩ (make 0 1) ([⟨2, []⟩] ++ first :: []) := .checkout (.checkout (.start ⟨1⟩))
  have hback : Reached 0 1 ⟨3⟩ p ([] ++ ⟨2, []⟩ :: []) := .walk [3, 4] (.release (.write [1, 2] hout))
  have h : Reached 0 1 ⟨3⟩ p [second] := .write [7] hback
  obtain ⟨-, -, -, -, hcheckout, hrelease, hwalk⟩ := h.lends_one_at_a_time
  obtain ⟨hempty, halone, -⟩ := hcheckout first _ _ rfl
  refine ⟨h, rfl, hempty, fun heq => ?_, hrelease second List.mem_cons_self, hwalk _⟩
  exact halone second List.mem_cons_self heq.symm

end Vigil.Pool
