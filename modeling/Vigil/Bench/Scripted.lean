import Vigil.Bench.Memory
import Vigil.Kit
import Vigil.Dump.Reader

/-!
# Scripted parts

Parts that do what they are told and write a line to the log each time they are used.

* `Gate.scripted`, `Review.scripted` with its `ReviewAction`s, `Sink.scripted`;
* `Probe.scripted` — a place, a stack and threads that are given in advance;
* `Holder.logging` — a tool that notes when it is flushed.
-/

namespace Vigil

variable {σ : Type}

/-- A gate that skips errors, panics or both, and lets the rest pass with its fields. -/
def Gate.scripted (log : Slot σ (List String)) (name : String) (skipErrors skipPanics : Bool)
    (extras : List Field) : Gate σ := fun ids failure => do
  let kind := if failure.isPanic then ":panic:" else ":error:"
  note log ("pre:" ++ name ++ kind ++ failure.message ++ ":" ++ TraceIds.describe ids)
  let skipped := if failure.isPanic then skipPanics else skipErrors
  return if skipped then .skip else .pass extras

/-- What a scripted review does. -/
inductive ReviewAction where
  | pass
  | veto
  /-- Veto what is said with these words in it. -/
  | vetoIfContains (words : String)
  | vetoPanics
  | setMessage (message : String)
  | setLevel (level : Level)
  | addField (f : Field)
  /-- Give the report a name. -/
  | nameIt (id : String)
  | dropThreads

/-- One text occurs in another. -/
def occursIn (part : List Char) : List Char → Bool
  | [] => part.isEmpty
  | c :: s => part.isPrefixOf (c :: s) || occursIn part s

/-- Whether an action keeps a report, and what it makes of it. -/
def ReviewAction.apply (r : Report) : ReviewAction → Fresh (Bool × Report)
  | pass => pure (true, r)
  | veto => pure (false, r)
  | vetoIfContains words => pure (!occursIn words.toList r.message.toList, r)
  | vetoPanics => pure (!r.failure.isPanic, r)
  | setMessage message => pure (true, { r with message })
  | setLevel level => pure (true, { r with level })
  | addField f => do return (true, ← r.addField f)
  | nameIt id => pure (true, r.addExternalId ⟨"hook", id⟩)
  | dropThreads => pure (true, { r with threads := [] })

/-- A review that does one action every time. -/
def Review.scripted (log : Slot σ (List String)) (name : String) (action : ReviewAction) :
    Review σ := fun r => do
  note log ("hook:" ++ name ++ ":" ++ r.message)
  action.apply r

/-- A sink that names each report by how many names it has, and changes what it says and adds a
field if it was told to. -/
def Sink.scripted (log : Slot σ (List String)) (name : String) (message : Option String)
    (field : Option Field) : Sink σ where
  emit r := do
    note log ("emit:" ++ name ++ ":" ++ r.message)
    let r := r.addExternalId ⟨name, toString r.externalIds.length⟩
    let r := { r with message := message.getD r.message }
    match field with
    | none => return r
    | some f => return ← r.addField f
  flush := note log ("flush:" ++ name)

/-- The first frame whose address the filter accepts, and those behind it. -/
def framesFrom (accept : PlaceFilter σ) : List Frame → Act σ (List Frame)
  | [] => pure []
  | f :: fs => do
    if ← accept f.address then return f :: fs else framesFrom accept fs

/-- The line that a probe of a name writes when it is asked `question`. -/
def noteProbe (log : Slot σ (List String)) (question name : String) : Act σ Unit :=
  note log ("capture:" ++ name ++ ":" ++ question)

/-- A probe that finds the frames and the dump it was given. -/
def Probe.scripted (log : Slot σ (List String)) (name : String) (frames : List Frame)
    (currentId : UInt64) (dump : String) : Probe σ where
  caller accept := do
    noteProbe log "caller" name
    return ((← framesFrom accept frames).head?.map Frame.address).getD Address.none
  stack accept := do
    noteProbe log "stack" name
    match ← framesFrom accept frames with
    | [] => return {}
    | f :: fs => return .ofFrames (f :: fs)
  threads := do
    noteProbe log "threads" name
    return { currentId, threads := (Dump.read dump.toList).toOption.getD [] }

/-- A tool that holds what is bound to it, and notes and counts when it is flushed. -/
def Holder.logging (log : Slot σ (List String)) (count : Slot σ Nat) (counter : Mark)
    (name : String) : Holder σ where
  name
  counter
  onFlush := do
    note log ("flush-tool:" ++ name)
    Act.change count (· + 1)

end Vigil
