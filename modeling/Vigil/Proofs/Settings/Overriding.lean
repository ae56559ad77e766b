import Vigil.Settings.Overrides
import Vigil.Proofs.Decimal.Spelling

/-!
# What settings are overridden with

Two texts from outside are read and taken over, and only then are the settings as a whole checked; so a text
may mend settings that are refused without it, or spoil others.  Proved:

* `SaysSwitch`, `SaysByteCount` — what a text says; `readSwitch?_eq_some_iff`, `readByteCount?_eq_some_iff` —
  reading finds this and nothing else;
* `OverriddenTo` — settings that differ from others by what two texts say, and in nothing else;
* `Condition`, `FirstFails` — what must hold, in order, and the first of it that does not;
* `overriddenBy_of_overriddenTo`, `overriddenBy_of_firstFails` — with both texts taken over the check decides,
  and the first thing that fails is told;
* `exists_overriddenBy_eq_ok_iff`, `overriddenBy_again`, `overriddenBy_eq_error_iff` — so overriding succeeds
  exactly if all conditions hold, overriding twice is overriding once, and what fails first is the fault;
* `Settings.overriddenBy_settles` — all of this together.
-/

namespace Vigil

open Text Decimal

/-! ## The texts -/

/-- The words for off and for on. -/
def switchWords : Bool → List String
  | false => ["0", "false", "no", "off"]
  | true => ["1", "true", "yes", "on"]

/-- The text says off or on: trimmed and in lower case, it is a word for that. -/
def SaysSwitch (given : String) (on : Bool) : Prop :=
  String.ofList ((trim given.toList).map Char.toLower) ∈ switchWords on

/-- The text says how many bytes: trimmed, it spells that number. -/
def SaysByteCount (given : String) (n : UInt64) : Prop := Spells (trim given.toList) n.toNat

/-- A text says off or on, not both. -/
theorem SaysSwitch.unique {given : String} {on on' : Bool} (h : SaysSwitch given on)
    (h' : SaysSwitch given on') : on = on' := by
  have happart : ∀ word ∈ switchWords true, word ∉ switchWords false := by decide
  cases on <;> cases on'
  · rfl
  · exact absurd h (happart _ h')
  · exact absurd h' (happart _ h)
  · rfl

/-- A text says one number of bytes at most. -/
theorem SaysByteCount.unique {given : String} {n n' : UInt64} (h : SaysByteCount given n)
    (h' : SaysByteCount given n') : n = n' :=
  UInt64.toNat_inj.mp (Spells.unique h h')

theorem readSwitch?_eq_some_iff {given : String} {on : Bool} :
    readSwitch? given = some on ↔ SaysSwitch given on := by
  constructor
  · intro h
    rw [readSwitch?] at h
    split at h
    · next hon =>
      obtain rfl := Option.some.inj h
      exact hon
    split at h
    · next hoff =>
      obtain rfl := Option.some.inj h
      exact hoff
    · cases h
  · intro h
    cases on with
    | true => exact if_pos h
    | false =>
      have hoff : ¬SaysSwitch given true := fun hon => nomatch hon.unique h
      exact (if_neg hoff).trans (if_pos h)

theorem readByteCount?_eq_some_iff {given : String} {n : UInt64} :
    readByteCount? given = some n ↔ SaysByteCount given n := by
  rw [readByteCount?, Option.map_eq_some_iff]
  constructor
  · intro h
    obtain ⟨m, hm, rfl⟩ := h
    obtain ⟨hspells, hlt⟩ := readUnsigned?_eq_some_iff.mp hm
    rwa [SaysByteCount, UInt64.toNat_ofNat_of_lt' hlt]
  · intro h
    exact ⟨n.toNat, readUnsigned?_eq_some_iff.mpr ⟨h, n.toNat_lt⟩, UInt64.ofNat_toNat⟩

/-! ## Taking texts over -/

/-- What stands in place of `old` when a text may be given: what the text says, and `old` itself if none is
given. -/
def InPlaceOf {α : Type} (Says : String → α → Prop) (old : α) : Option String → α → Prop
  | none, new => new = old
  | some given, new => Says given new

theorem InPlaceOf.unique {α : Type} {Says : String → α → Prop} {old new new' : α} {given : Option String}
    (h : InPlaceOf Says old given new) (h' : InPlaceOf Says old given new')
    (hSays : ∀ text a a', Says text a → Says text a' → a = a') : new = new' := by
  cases given with
  | none => exact h.trans h'.symm
  | some text => exact hSays text new new' h h'

/-- What was put in place of something is put in place of itself. -/
theorem InPlaceOf.again {α : Type} {Says : String → α → Prop} {old new : α} {given : Option String}
    (h : InPlaceOf Says old given new) : InPlaceOf Says new given new := by
  cases given with
  | none => rfl
  | some text => exact h

namespace Settings

variable {s t : Settings} {lookup : String → Option String}

/-- The settings `t` are `s` with the switch and the limit that `lookup` gives, and nothing else differs. -/
structure OverriddenTo (s : Settings) (lookup : String → Option String) (t : Settings) : Prop where
  captureThreads : InPlaceOf SaysSwitch s.captureThreads (lookup switchKey) t.captureThreads
  maxBytes : InPlaceOf SaysByteCount s.threadDump.maxBytes (lookup limitKey) t.threadDump.maxBytes
  stackBufferLength : t.stackBufferLength = s.stackBufferLength
  poolCapacity : t.poolCapacity = s.poolCapacity
  bytesPerThread : t.threadDump.bytesPerThread = s.threadDump.bytesPerThread

/-- Settings that were overridden are overridden to themselves. -/
theorem OverriddenTo.again (h : OverriddenTo s lookup t) : OverriddenTo t lookup t :=
  ⟨h.captureThreads.again, h.maxBytes.again, rfl, rfl, rfl⟩

section

variable {α : Type} {read? : String → Option α} {Says : String → α → Prop} {put : α → Settings}
variable {fault : String → SettingsFault} {old new : α} {given : Option String}

/-- What a text says is put in. -/
theorem takeOver_of_inPlaceOf (hread : ∀ text a, read? text = some a ↔ Says text a) (hput : put old = s)
    (h : InPlaceOf Says old given new) : s.takeOver read? put fault given = .ok (put new) := by
  cases given with
  | none =>
    obtain rfl : new = old := h
    rw [takeOver, hput]
  | some text =>
    have hsays : read? text = some new := (hread text new).mpr h
    rw [takeOver, hsays]

/-- A text that says nothing is a fault. -/
theorem takeOver_of_not (hread : ∀ text a, read? text = some a ↔ Says text a)
    (h : ¬∃ a, InPlaceOf Says old given a) :
    s.takeOver read? put fault given = .error (fault (given.getD "")) := by
  cases given with
  | none => exact absurd ⟨old, rfl⟩ h
  | some text =>
    have hnone : read? text = none := by
      refine Option.eq_none_iff_forall_ne_some.mpr ?_
      intro a ha
      exact h ⟨a, (hread text a).mp ha⟩
    rw [takeOver, hnone, Option.getD_some]

end

theorem withSwitch_of_inPlaceOf {given : Option String} {on : Bool}
    (h : InPlaceOf SaysSwitch s.captureThreads given on) :
    s.withSwitch given = .ok { s with captureThreads := on } :=
  takeOver_of_inPlaceOf (fun _ _ => readSwitch?_eq_some_iff) rfl h

theorem withLimit_of_inPlaceOf {given : Option String} {n : UInt64}
    (h : InPlaceOf SaysByteCount s.threadDump.maxBytes given n) :
    s.withLimit given = .ok { s with threadDump := { s.threadDump with maxBytes := n } } :=
  takeOver_of_inPlaceOf (fun _ _ => readByteCount?_eq_some_iff) rfl h

/-- **With both texts taken over the check decides.** -/
theorem overriddenBy_of_overriddenTo (h : OverriddenTo s lookup t) : s.overriddenBy lookup = t.check := by
  have ht : { s with
      captureThreads := t.captureThreads
      threadDump := { s.threadDump with maxBytes := t.threadDump.maxBytes } } = t := by
    obtain ⟨length, capacity, on, bytes, most⟩ := t
    obtain ⟨-, -, rfl, rfl, rfl⟩ := h
    rfl
  have hlimit : { s with captureThreads := t.captureThreads }.withLimit (lookup limitKey) = .ok t :=
    ht ▸ withLimit_of_inPlaceOf h.maxBytes
  rw [overriddenBy, withSwitch_of_inPlaceOf h.captureThreads]
  dsimp only
  rw [hlimit]

/-! ## What must hold -/

/-- What must hold for settings to be overridden. -/
inductive Condition where
  /-- A text that is given for the switch says off or on. -/
  | switch
  /-- A text that is given for the limit says how many bytes. -/
  | limit
  /-- Something of a stack is recorded. -/
  | stackBuffer
  /-- There are bytes for each thread. -/
  | bytesPerThread
  /-- There are bytes for a dump under the limit that is taken over. -/
  | maxBytes
deriving DecidableEq, Repr

namespace Condition

/-- The conditions in the order in which they are asked for. -/
def inOrder : List Condition := [switch, limit, stackBuffer, bytesPerThread, maxBytes]

theorem mem_inOrder (c : Condition) : c ∈ inOrder := by
  cases c <;> decide

/-- The condition holds for settings and the texts that `lookup` gives. -/
def Holds (s : Settings) (lookup : String → Option String) : Condition → Prop
  | switch => ∃ on, InPlaceOf SaysSwitch s.captureThreads (lookup switchKey) on
  | limit => ∃ n, InPlaceOf SaysByteCount s.threadDump.maxBytes (lookup limitKey) n
  | stackBuffer => 0 < s.stackBufferLength
  | bytesPerThread => 0 < s.threadDump.bytesPerThread
  | maxBytes => ∀ n, InPlaceOf SaysByteCount s.threadDump.maxBytes (lookup limitKey) n → 0 < n

/-- What the condition is about: the name of a text, or a member of settings. -/
def subject : Condition → String
  | switch => switchKey
  | limit => limitKey
  | stackBuffer => "stack_buffer_len"
  | bytesPerThread => "thread_dump.bytes_per_thread"
  | maxBytes => "thread_dump.max_bytes"

/-- The fault that it is if the condition fails. -/
def fault (lookup : String → Option String) : Condition → SettingsFault
  | switch => .notBoolean switchKey ((lookup switchKey).getD "")
  | limit => .notByteCount limitKey ((lookup limitKey).getD "")
  | stackBuffer => .noStackBuffer
  | bytesPerThread => .noBytesPerThread
  | maxBytes => .noBytes

/-- A fault is told by what it is about and what is wrong with that. -/
theorem exists_problem_fault (lookup : String → Option String) (c : Condition) :
    ∃ detail, (c.fault lookup).problem = .settings (c.subject ++ detail) := by
  cases c with
  | switch => exact ⟨_, congrArg Problem.settings String.append_assoc⟩
  | limit => exact ⟨_, congrArg Problem.settings String.append_assoc⟩
  | stackBuffer => exact ⟨" must be positive", rfl⟩
  | bytesPerThread => exact ⟨" must be positive", rfl⟩
  | maxBytes => exact ⟨" must be positive", rfl⟩

end Condition

/-- Of the conditions in a list, `c` is the first that fails. -/
inductive FirstFails (s : Settings) (lookup : String → Option String) : List Condition → Condition → Prop
  | here {c : Condition} {cs : List Condition} : ¬c.Holds s lookup → FirstFails s lookup (c :: cs) c
  | behind {c c' : Condition} {cs : List Condition} : c.Holds s lookup → FirstFails s lookup cs c' →
      FirstFails s lookup (c :: cs) c'

/-- All conditions of a list hold, or one of them is the first that fails. -/
theorem all_hold_or_firstFails (s : Settings) (lookup : String → Option String) (cs : List Condition) :
    (∀ c ∈ cs, c.Holds s lookup) ∨ ∃ c, FirstFails s lookup cs c := by
  induction cs with
  | nil => exact .inl (List.forall_mem_nil _)
  | cons c cs ih =>
    by_cases hc : c.Holds s lookup
    · rcases ih with hall | ⟨c', hfirst⟩
      · exact .inl (List.forall_mem_cons.mpr ⟨hc, hall⟩)
      · exact .inr ⟨c', .behind hc hfirst⟩
    · exact .inr ⟨c, .here hc⟩

/-! ## What overriding comes to -/

/-- Texts that say something can be taken over. -/
theorem exists_overriddenTo (hswitch : Condition.switch.Holds s lookup)
    (hlimit : Condition.limit.Holds s lookup) : ∃ t, OverriddenTo s lookup t := by
  obtain ⟨on, hon⟩ := hswitch
  obtain ⟨n, hn⟩ := hlimit
  exact ⟨{ s with captureThreads := on, threadDump := { s.threadDump with maxBytes := n } }, hon, hn, rfl, rfl, rfl⟩

/-- There are bytes for a dump exactly if the limit that was taken over is not zero. -/
theorem OverriddenTo.holds_maxBytes_iff (h : OverriddenTo s lookup t) :
    Condition.maxBytes.Holds s lookup ↔ 0 < t.threadDump.maxBytes := by
  constructor
  · exact fun hbytes => hbytes _ h.maxBytes
  · intro hpos n hn
    have heq : n = t.threadDump.maxBytes := InPlaceOf.unique hn h.maxBytes fun _ _ _ => SaysByteCount.unique
    rwa [heq]

/-- The check refuses settings for the first thing that fails. -/
theorem check_of_firstFails {c : Condition} (h : OverriddenTo s lookup t)
    (hfirst : FirstFails s lookup [.stackBuffer, .bytesPerThread, .maxBytes] c) :
    t.check = .error (c.fault lookup) := by
  have hzero {n : UInt64} (hn : ¬0 < n) : n = 0 := Decidable.not_not.mp (mt UInt64.pos_iff_ne_zero.mpr hn)
  rw [check, h.stackBufferLength, h.bytesPerThread]
  cases hfirst with
  | here hstack => exact if_pos (hzero hstack)
  | behind hstack hfirst =>
    rw [if_neg (UInt64.pos_iff_ne_zero.mp hstack)]
    cases hfirst with
    | here hbytes => exact if_pos (hzero hbytes)
    | behind hbytes hfirst =>
      rw [if_neg (UInt64.pos_iff_ne_zero.mp hbytes)]
      cases hfirst with
      | here hmost => exact if_pos (hzero (mt h.holds_maxBytes_iff.mpr hmost))
      | behind _ hfirst => cases hfirst

/-- **The first thing that fails is told.** -/
theorem overriddenBy_of_firstFails {c : Condition} (h : FirstFails s lookup Condition.inOrder c) :
    s.overriddenBy lookup = .error (c.fault lookup) := by
  cases h with
  | here hswitch =>
    have htold : s.withSwitch (lookup switchKey) = .error (Condition.switch.fault lookup) :=
      takeOver_of_not (fun _ _ => readSwitch?_eq_some_iff) hswitch
    rw [overriddenBy, htold]
  | behind hswitch h =>
    cases h with
    | here hlimit =>
      obtain ⟨on, hon⟩ := hswitch
      have htold : { s with captureThreads := on }.withLimit (lookup limitKey)
          = .error (Condition.limit.fault lookup) :=
        takeOver_of_not (fun _ _ => readByteCount?_eq_some_iff) hlimit
      rw [overriddenBy, withSwitch_of_inPlaceOf hon]
      dsimp only
      rw [htold]
    | behind hlimit h =>
      obtain ⟨t, ht⟩ := exists_overriddenTo hswitch hlimit
      rw [overriddenBy_of_overriddenTo ht, check_of_firstFails ht h]

/-- Where nothing fails, both texts are taken over. -/
theorem exists_overriddenBy_eq_ok (h : ∀ c : Condition, c.Holds s lookup) :
    ∃ t, s.overriddenBy lookup = .ok t ∧ OverriddenTo s lookup t := by
  obtain ⟨t, ht⟩ := exists_overriddenTo (h .switch) (h .limit)
  have hstack : 0 < t.stackBufferLength := ht.stackBufferLength ▸ h .stackBuffer
  have hbytes : 0 < t.threadDump.bytesPerThread := ht.bytesPerThread ▸ h .bytesPerThread
  have hmost : 0 < t.threadDump.maxBytes := ht.holds_maxBytes_iff.mp (h .maxBytes)
  refine ⟨t, ?_, ht⟩
  rw [overriddenBy_of_overriddenTo ht, check_eq_ok_iff]
  exact ⟨rfl, UInt64.pos_iff_ne_zero.mp hstack, UInt64.pos_iff_ne_zero.mp hbytes,
    UInt64.pos_iff_ne_zero.mp hmost⟩

/-- **Either all conditions hold and both texts are taken over, or the first that fails is told.** -/
theorem overriddenBy_cases (s : Settings) (lookup : String → Option String) :
    (∀ c : Condition, c.Holds s lookup) ∧ (∃ t, s.overriddenBy lookup = .ok t ∧ OverriddenTo s lookup t) ∨
      ∃ c, FirstFails s lookup Condition.inOrder c ∧ s.overriddenBy lookup = .error (c.fault lookup) := by
  rcases all_hold_or_firstFails s lookup Condition.inOrder with hall | ⟨c, hfirst⟩
  · have hholds (c : Condition) : c.Holds s lookup := hall c c.mem_inOrder
    exact .inl ⟨hholds, exists_overriddenBy_eq_ok hholds⟩
  · exact .inr ⟨c, hfirst, overriddenBy_of_firstFails hfirst⟩

/-- **Overriding succeeds exactly if all conditions hold.** -/
theorem exists_overriddenBy_eq_ok_iff :
    (∃ t, s.overriddenBy lookup = .ok t) ↔ ∀ c : Condition, c.Holds s lookup := by
  constructor
  · intro h
    obtain ⟨t, ht⟩ := h
    rcases overriddenBy_cases s lookup with ⟨hholds, -⟩ | ⟨c, -, herror⟩
    · exact hholds
    · exact nomatch herror.symm.trans ht
  · intro hholds
    obtain ⟨t, ht, -⟩ := exists_overriddenBy_eq_ok hholds
    exact ⟨t, ht⟩

/-- What comes out differs by what the texts say and in nothing else. -/
theorem overriddenTo_of_overriddenBy (h : s.overriddenBy lookup = .ok t) : OverriddenTo s lookup t := by
  obtain ⟨t', ht', hover⟩ := exists_overriddenBy_eq_ok (exists_overriddenBy_eq_ok_iff.mp ⟨t, h⟩)
  obtain rfl : t' = t := Except.ok.inj (ht'.symm.trans h)
  exact hover

/-- **Overriding twice is overriding once.** -/
theorem overriddenBy_again (h : s.overriddenBy lookup = .ok t) : t.overriddenBy lookup = .ok t := by
  have hover : OverriddenTo s lookup t := overriddenTo_of_overriddenBy h
  calc t.overriddenBy lookup
      = t.check := overriddenBy_of_overriddenTo hover.again
    _ = s.overriddenBy lookup := (overriddenBy_of_overriddenTo hover).symm
    _ = .ok t := h

/-- **Overriding fails exactly for the first condition that fails.** -/
theorem overriddenBy_eq_error_iff {e : SettingsFault} :
    s.overriddenBy lookup = .error e ↔
      ∃ c, FirstFails s lookup Condition.inOrder c ∧ e = c.fault lookup := by
  constructor
  · intro h
    rcases overriddenBy_cases s lookup with ⟨-, t, hok, -⟩ | ⟨c, hfirst, herror⟩
    · exact nomatch hok.symm.trans h
    · exact ⟨c, hfirst, Except.error.inj (h.symm.trans herror)⟩
  · intro h
    obtain ⟨c, hfirst, rfl⟩ := h
    exact overriddenBy_of_firstFails hfirst

/-- **Overrides are checked, change no more than they say, and can be given again.**  Whatever the settings
are, refused or not, and whatever texts are given: overriding succeeds exactly if the switch is absent or a
word for off or on, the limit is absent or spells a number of bytes, and the settings with both taken over
leave something to record a stack, something for each thread and something for a dump.  What comes out differs
by what the texts say and in nothing else, and overriding it by the same texts leaves it as it is.  Otherwise
the settings are refused for the first of these conditions that fails, and the problem names what that one is
about. -/
theorem overriddenBy_settles (s : Settings) (lookup : String → Option String) :
    ((∃ t, s.overriddenBy lookup = .ok t) ↔ ∀ c : Condition, c.Holds s lookup) ∧
    (∀ t, s.overriddenBy lookup = .ok t → OverriddenTo s lookup t ∧ t.overriddenBy lookup = .ok t) ∧
    ∀ e, s.overriddenBy lookup = .error e ↔ ∃ c, FirstFails s lookup Condition.inOrder c ∧
      e = c.fault lookup ∧ ∃ detail, e.problem = .settings (c.subject ++ detail) := by
  refine ⟨exists_overriddenBy_eq_ok_iff, ?_, ?_⟩
  · intro t ht
    exact ⟨overriddenTo_of_overriddenBy ht, overriddenBy_again ht⟩
  · intro e
    rw [overriddenBy_eq_error_iff]
    refine exists_congr fun c => and_congr_right fun _ => ?_
    constructor
    · rintro rfl
      exact ⟨rfl, c.exists_problem_fault lookup⟩
    · exact fun h => h.1

/-- Settings without bytes for a dump are mended by a limit between blanks, and those with a limit that is no
number are refused for it, although they leave nothing to record a stack either. -/
theorem overriddenBy_settles_mended :
    let s : Settings := { threadDump := { maxBytes := 0 } }
    let t : Settings := { captureThreads := false, threadDump := { maxBytes := 4096 } }
    let lookup key := if key = switchKey then some " oFF\n" else some "\t+4096 "
    let lookup' key := if key = limitKey then some "4096 bytes" else none
    s.overriddenBy lookup = .ok t ∧ OverriddenTo s lookup t ∧ t.overriddenBy lookup = .ok t ∧
      (∀ c : Condition, c.Holds s lookup) ∧
      { s with stackBufferLength := 0 }.overriddenBy lookup' = .error (.notByteCount limitKey "4096 bytes") ∧
      FirstFails { s with stackBufferLength := 0 } lookup' Condition.inOrder .limit := by
  intro s t lookup lookup'
  have hok : s.overriddenBy lookup = .ok t := rfl
  have herror : { s with stackBufferLength := 0 }.overriddenBy lookup'
      = .error (.notByteCount limitKey "4096 bytes") := rfl
  obtain ⟨hiff, hminimal, -⟩ := overriddenBy_settles s lookup
  obtain ⟨-, -, hfirst⟩ := overriddenBy_settles { s with stackBufferLength := 0 } lookup'
  obtain ⟨c, hc, hfault, -⟩ := (hfirst _).mp herror
  have hlimit : c = .limit := by
    cases c <;> first | rfl | cases hfault
  exact ⟨hok, (hminimal t hok).1, (hminimal t hok).2, hiff.mp ⟨t, hok⟩, herror, hlimit ▸ hc⟩

end Settings

end Vigil
