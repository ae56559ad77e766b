import Vigil.Failure
import Vigil.Field
import Vigil.Level
import Vigil.Span
import Vigil.Stack.Trace
import Vigil.Dump.Thread

/-!
# Reports

A report is all that is known of one observed failure: what is said of it, the context it happened
in, where it happened and what else was running.  Reports are numbered from one; numbers are machine words.

* `Traits` — what kind of entry a report is;
* `ExternalId` — the name that a receiver knows a report by;
* `Report`, `Report.addField`, `Report.addExternalId`, `Report.currentThread?`;
* `Report.idOf`, … — questions to a report that may be missing.
-/

namespace Vigil

open Text

/-- What kind of entry a report is; an entry may be of several kinds. -/
structure Traits where
  monitoring : Bool := false
  error : Bool := false
  panic : Bool := false
deriving DecidableEq, Repr, Inhabited

namespace Traits

/-- All kinds of either. -/
def union (a b : Traits) : Traits :=
  ⟨a.monitoring || b.monitoring, a.error || b.error, a.panic || b.panic⟩

/-- Every kind of `b` is one of `a`. -/
def contains (a b : Traits) : Bool :=
  (!b.monitoring || a.monitoring) && (!b.error || a.error) && (!b.panic || a.panic)

def isEmpty (a : Traits) : Bool := !a.monitoring && !a.error && !a.panic

/-- The kinds as bits: one, two and four. -/
def bits (a : Traits) : Nat :=
  (if a.monitoring then 1 else 0) + (if a.error then 2 else 0) + (if a.panic then 4 else 0)

def names (a : Traits) : List String :=
  (if a.monitoring then ["monitoring"] else []) ++ (if a.error then ["error"] else [])
    ++ (if a.panic then ["panic"] else [])

def ofNames (names : List String) : Traits :=
  ⟨names.contains "monitoring", names.contains "error", names.contains "panic"⟩

theorem ofNames_names (a : Traits) : ofNames a.names = a := by
  obtain ⟨m, e, p⟩ := a
  cases m <;> cases e <;> cases p <;> rfl

def describe (a : Traits) : String := "EntryProperties(" ++ toString a.bits ++ ")"

theorem contains_union_left (a b : Traits) : (a.union b).contains a = true := by
  obtain ⟨m, e, p⟩ := a
  obtain ⟨m', e', p'⟩ := b
  revert m e p m' e' p'
  decide

end Traits

/-- The name that a receiver of reports knows one by. -/
structure ExternalId where
  source : String
  id : String
deriving DecidableEq, Repr, Inhabited

def ExternalId.describe (x : ExternalId) : String :=
  outline "ExternalId" [("source", quote x.source), ("id", quote x.id)]

/-- All that is known of an observed failure. -/
structure Report where
  id : UInt64
  level : Level
  message : String
  /-- The context, newest first. -/
  fields : Chain Field
  traceIds : TraceIds
  /-- The innermost place that counts. -/
  caller : Address
  traits : Traits
  /-- The names that receivers gave it, in the order they did. -/
  externalIds : List ExternalId := []
  failure : Account
  stack : StackTrace
  /-- The spans it happened in, from the root on. -/
  spans : List Span
  currentThreadId : UInt64
  threads : List Snapshot
deriving Inhabited

namespace Report

def addField (r : Report) (f : Field) : Fresh Report := do
  return { r with fields := ← r.fields.push f }

def addExternalId (r : Report) (x : ExternalId) : Report :=
  { r with externalIds := r.externalIds ++ [x] }

/-- The snapshot of the thread it happened on. -/
def currentThread? (r : Report) : Option Snapshot :=
  r.threads.find? fun t => t.id == r.currentThreadId

/-- The short text of a report's number. -/
def idLabel (id : UInt64) : String := "E" ++ toString id

/-! ### Questions to a report that may be missing -/

/-- Its number; no report has the number zero. -/
def idOf (r : Option Report) : UInt64 := (r.map id).getD 0

def levelOf (r : Option Report) : Level := (r.map level).getD default

def messageOf (r : Option Report) : String := (r.map message).getD ""

def errorOf (r : Option Report) : Option Fault := r.bind fun r => r.failure.error?

def isPanicOf (r : Option Report) : Bool := r.any fun r => r.failure.isPanic

def panicOf (r : Option Report) : Option Payload := r.bind fun r => r.failure.panic?

def stackLengthOf (r : Option Report) : Nat := (r.map fun r => r.stack.length).getD 0

def externalIdsOf (r : Option Report) : List ExternalId := (r.map externalIds).getD []

def currentThreadIdOf (r : Option Report) : UInt64 := (r.map currentThreadId).getD 0

end Report

end Vigil
