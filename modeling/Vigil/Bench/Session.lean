import Vigil.Bench.Recorders
import Vigil.Bench.Scripted
import Vigil.Handoff
import Vigil.Scopes

/-!
# Sessions at a bench

In a session things are made one after another and put aside under names, to be used again: fields,
kits, parts of observers, observers, reports.  Everything that outlives the things themselves is
in the session too: what the parts remember, the numbers of reports and spans, the entered kits,
and the defaults.

* `Item` — what can be put aside;
* `Session`, `Session.start`, and `Sitting`, a computation in it;
* `Sitting.observing`, `Sitting.act`, `Sitting.fresh`, `Sitting.opening` — using what is in it;
* `Sitting.enter`, `Sitting.leave` — kits that are current under the name of a guard;
* `Sitting.takeLog` — the lines that were written since the last time.
-/

namespace Vigil

/-- What can be put aside under a name. -/
inductive Item where
  | value (v : Value)
  | fault (e : Fault)
  | list (fs : List Field)
  | chain (c : Chain Field)
  | ids (t : TraceIds)
  | tool (t : Instance (Tool Bench))
  | toolbox (b : Toolbox (Tool Bench))
  | kit (k : Kit Bench)
  | handoff (h : Handoff Bench)
  | span (s : Span)
  | observer (o : Observer Bench)
  /-- A sink, and the slot in which it records if it does. -/
  | sink (s : Instance (Sink Bench)) (slot : Option Nat)
  /-- A gate, and the slot in which it counts if it does. -/
  | gate (g : Gate Bench) (slot : Option Nat)
  /-- A review, and the slot in which it counts if it does. -/
  | review (r : Review Bench) (slot : Option Nat)
  /-- A report, or that nothing was reported. -/
  | report (r : Option Report)

/-- A tool as an item: an observer is put aside as one. -/
def Item.ofTool (t : Instance (Tool Bench)) : Item :=
  match t.val.observer? with
  | some o => .observer o
  | none => .tool t

/-- A list of named things with one more, which takes the place of any other of its name. -/
def putNamed {α : Type} (name : String) (a : α) (named : List (String × α)) : List (String × α) :=
  (name, a) :: named.filter fun e => e.1 ≠ name

/-- The thing of a name. -/
def findNamed? {α : Type} (name : String) (named : List (String × α)) : Option α :=
  (named.find? fun e => e.1 = name).map (·.2)

/-- All that there is in a session. -/
structure Session where
  items : List (String × Item) := []
  guards : List (String × Guard) := []
  desk : Desk Bench
  nextSpan : UInt64 := 1
  scopes : Scopes (Kit Bench) := {}
  defaults : Defaults Bench
  nextSlot : Nat := 0

/-- A computation in a session. -/
abbrev Sitting := StateM Session

/-- The session at its beginning: the default observer discards what is reported and finds
nothing out, and the default filter accepts the places of a user's own code. -/
def Session.start : Session :=
  let (sink, supply) := (Instance.make Sink.discard).run {}
  { desk := { world := { supply, memory := {} } }
    defaults := {
      observer := .make sink .blind
      filter := .ofPredicate (PlaceFilter.userPlace SymbolTable.empty) } }

/-- The thread of a session. -/
def Session.thread : ThreadNumber := 0

namespace Sitting

variable {α : Type}

/-- Observe something. -/
def observing (x : Observing Bench α) : Sitting α := fun s =>
  let r := x.run s.desk
  (r.1, { s with desk := r.2 })

/-- Let a part act. -/
def act (x : Act Bench α) : Sitting α := observing (Desk.act x)

/-- Make something that has an identity. -/
def fresh (x : Fresh α) : Sitting α := observing (Desk.fresh x)

/-- Open a span. -/
def opening (x : SpanIds α) : Sitting α := fun s =>
  let r := x.run s.nextSpan
  (r.1, { s with nextSpan := r.2 })

/-- A slot that no part uses yet. -/
def newSlot : Sitting Nat := fun s => (s.nextSlot, { s with nextSlot := s.nextSlot + 1 })

/-- The item under a name. -/
def item? (name : String) : Sitting (Option Item) := return findNamed? name (← get).items

/-- Put an item aside under a name. -/
def keep (name : String) (i : Item) : Sitting Unit :=
  modify fun s => { s with items := putNamed name i s.items }

/-- Give up the item under a name; whether there was one. -/
def forget (name : String) : Sitting Bool := fun s =>
  ((findNamed? name s.items).isSome,
    { s with items := s.items.filter fun e => e.1 ≠ name })

/-- The kit that is current on a thread. -/
def currentKit (t : ThreadNumber) : Sitting (Kit Bench) :=
  return ((← get).scopes.current? t).getD .empty

/-- Enter a kit under the name of a guard.  A guard whose name is used again is given up after the
kit was entered. -/
def enter (name : String) (k : Kit Bench) : Sitting Unit := modify fun s =>
  let (g, scopes) := s.scopes.enter Session.thread k
  let scopes := match findNamed? name s.guards with
    | some old => scopes.leave old
    | none => scopes
  { s with scopes, guards := putNamed name g s.guards }

/-- Give up the guard under a name. -/
def leave (name : String) : Sitting Unit := modify fun s =>
  match findNamed? name s.guards with
  | some g =>
    { s with scopes := s.scopes.leave g, guards := s.guards.filter fun e => e.1 ≠ name }
  | none => s

/-- Set the default observer; the one before it. -/
def setObserver (observer : Observer Bench) : Sitting (Observer Bench) := fun s =>
  (s.defaults.observer, { s with defaults := { s.defaults with observer } })

/-- Set the default filter. -/
def setFilter (filter : PlaceFilter Bench) : Sitting Unit :=
  modify fun s => { s with defaults := { s.defaults with filter } }

/-- The lines that were written to the log since they were taken last, in order. -/
def takeLog : Sitting (List String) := do
  let log ← act (Act.look Bench.logSlot)
  act (Act.change Bench.logSlot fun _ => [])
  return log.reverse

/-! ### Parts with a memory of their own -/

/-- A tool that holds what is bound to it. -/
def makeHolder (name : String) : Sitting Item := do
  let slot ← newSlot
  let h := Holder.logging Bench.logSlot (Bench.flushCount slot) slot name
  return .tool (← fresh (Instance.make (.holder h)))

/-- A gate that counts. -/
def makeGate (verdict : Verdict) : Sitting Item := do
  let slot ← newSlot
  return .gate (.counting (Bench.gateCount slot) verdict) (some slot)

/-- A review that counts. -/
def makeReview (keep : Bool) : Sitting Item := do
  let slot ← newSlot
  return .review (.counting (Bench.tally slot) keep) (some slot)

/-- A sink that records. -/
def makeRecording (source : String) : Sitting Item := do
  let slot ← newSlot
  let sink := Sink.recording (Bench.recording slot) source
  return .sink (← fresh (Instance.make sink)) (some slot)

/-- A sink that cannot be looked into. -/
def makeSink (sink : Sink Bench) : Sitting Item := return .sink (← fresh (Instance.make sink)) none

end Sitting

end Vigil
