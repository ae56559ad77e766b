import Vigil.Problem
import Vigil.Stack.Pool

/-!
# Settings

What a capture of stacks and threads may cost.

* `DumpBudget`, `DumpBudget.capacityFor` — how long a dump of so many threads may be;
* `Settings` and its defaults;
* `Settings.check` — settings under which nothing could be captured are refused;
* `SettingsFault` — why settings are refused, with `SettingsFault.message`.
-/

namespace Vigil

/-- The product, or the greatest word if the product is greater. -/
def saturatingMul (a b : UInt64) : UInt64 :=
  if a.toNat * b.toNat < UInt64.size then a * b else UInt64.ofNat (UInt64.size - 1)

/-- How many bytes a thread dump may take. -/
structure DumpBudget where
  /-- Bytes for each thread in it. -/
  bytesPerThread : UInt64 := 65536
  /-- Bytes for all of it. -/
  maxBytes : UInt64 := 10485760
deriving DecidableEq, Repr, Inhabited

/-- The bytes that a dump of `threads` threads may take; there is room for one in any case. -/
def DumpBudget.capacityFor (b : DumpBudget) (threads : UInt64) : UInt64 :=
  min (saturatingMul (max threads 1) b.bytesPerThread) b.maxBytes

/-- What a capture may cost. -/
structure Settings where
  /-- How deep a stack is recorded. -/
  stackBufferLength : UInt64 := 1000
  /-- How many idle buffers are kept. -/
  poolCapacity : UInt64 := 16
  /-- Whether the threads are listed. -/
  captureThreads : Bool := true
  threadDump : DumpBudget := {}
deriving DecidableEq, Repr, Inhabited

/-- Why settings are refused. -/
inductive SettingsFault where
  /-- A switch that is neither on nor off; the key and what was given. -/
  | notBoolean (key given : String)
  /-- A size that is no number of bytes; the key and what was given. -/
  | notByteCount (key given : String)
  | noStackBuffer
  | noBytesPerThread
  | noBytes
deriving DecidableEq, Repr

namespace SettingsFault

/-- The fault in words. -/
def message : SettingsFault → String
  | notBoolean key given => key ++ ": expected a boolean, got " ++ Text.quote given
  | notByteCount key given => key ++ ": expected a byte count, got " ++ Text.quote given
  | noStackBuffer => "stack_buffer_len must be positive"
  | noBytesPerThread => "thread_dump.bytes_per_thread must be positive"
  | noBytes => "thread_dump.max_bytes must be positive"

/-- The fault as a problem. -/
def problem (f : SettingsFault) : Problem := .settings f.message

end SettingsFault

namespace Settings

/-- Settings under which a stack can be recorded and a thread written; the first part that cannot
is named. -/
def check (s : Settings) : Except SettingsFault Settings :=
  if s.stackBufferLength = 0 then .error .noStackBuffer
  else if s.threadDump.bytesPerThread = 0 then .error .noBytesPerThread
  else if s.threadDump.maxBytes = 0 then .error .noBytes
  else .ok s

def describe (s : Settings) : String :=
  Text.outline "CaptureConfig" [
    ("stack_buffer_len", toString s.stackBufferLength.toNat),
    ("pool_capacity", toString s.poolCapacity.toNat),
    ("capture_threads", if s.captureThreads then "true" else "false"),
    ("thread_dump", Text.outline "ThreadDumpConfig" [
      ("bytes_per_thread", toString s.threadDump.bytesPerThread.toNat),
      ("max_bytes", toString s.threadDump.maxBytes.toNat)])]

/-- The pool that settings ask for. -/
def pool (s : Settings) : Pool := .make s.stackBufferLength.toNat s.poolCapacity.toNat

theorem check_eq_ok_iff {s t : Settings} :
    s.check = .ok t ↔ t = s ∧ s.stackBufferLength ≠ 0 ∧ s.threadDump.bytesPerThread ≠ 0
      ∧ s.threadDump.maxBytes ≠ 0 := by
  unfold check
  split
  · simp_all
  · split
    · simp_all
    · split
      · simp_all
      · simp_all [eq_comm]

end Settings

end Vigil
