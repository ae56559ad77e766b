import Vigil.Observer
import Vigil.Toolbox

/-!
# Tools and kits

A kit is what a piece of work carries along: fields, trace ids and tools.  Deriving a kit from
another one adds to it and leaves the other one as it was; the two share what they have in common.

A tool taken from a kit can be bound to it, which hands the kit's fields and ids to the tool.

* `Tool` — an observer, a tracer, or a tool that only holds what is bound to it;
* `Tool.withContext`, `Tool.withTraceIds`, `Tool.flush`;
* `Kit`, and what is derived from it: `withField`, `withFields`, `withTraceId`, `withTool`, …;
* `Kit.boundTool` — a tool with the kit bound to it;
* `Kit.activeSpan`, `Kit.flush`.
-/

namespace Vigil

open Text

/-- A tool that holds what was last bound to it. -/
structure Holder (σ : Type) where
  name : String
  /-- Which counter of flushes its copies share. -/
  counter : Mark
  fields : Chain Field := .empty
  traceIds : TraceIds := .empty
  onFlush : Act σ Unit

/-- Something that a piece of work carries along to use. -/
inductive Tool (σ : Type) where
  | observer (o : Observer σ)
  /-- A tool that knows which span is active. -/
  | tracer (active : Option Span)
  | holder (h : Holder σ)

namespace Tool

variable {σ : Type}

/-- The tool with fields bound to it. -/
def withContext (fields : Chain Field) : Tool σ → Fresh (Tool σ)
  | observer o => do return observer (← o.withContext fields)
  | tracer active => pure (tracer active)
  | holder h => pure (holder { h with fields })

/-- The tool with trace ids bound to it. -/
def withTraceIds (ids : TraceIds) : Tool σ → Fresh (Tool σ)
  | observer o => do return observer (← o.withTraceIds ids)
  | tracer active => pure (tracer active)
  | holder h => pure (holder { h with traceIds := ids })

def flush : Tool σ → Act σ Unit
  | observer o => o.flush
  | tracer _ => pure ()
  | holder h => h.onFlush

def observer? : Tool σ → Option (Observer σ)
  | observer o => some o
  | _ => none

def activeSpan : Tool σ → Option Span
  | tracer active => active
  | _ => none

end Tool

/-- Flush tools in the order given. -/
def flushTools {σ : Type} : List (Instance (Tool σ)) → Act σ Unit
  | [] => pure ()
  | t :: ts => do
    t.val.flush
    flushTools ts

/-- What a piece of work carries along. -/
structure Kit (σ : Type) where
  fields : Chain Field := .empty
  traceIds : TraceIds := .empty
  tools : Toolbox (Tool σ) := {}

namespace Kit

variable {σ : Type}

def empty : Kit σ := {}

instance : Inhabited (Kit σ) := ⟨empty⟩

def withField (k : Kit σ) (f : Field) : Fresh (Kit σ) := do
  return { k with fields := ← k.fields.push f }

/-- Further fields, oldest first, as one batch. -/
def withFields (k : Kit σ) (fs : List Field) : Fresh (Kit σ) := do
  return { k with fields := ← k.fields.extend fs }

def withTraceId (k : Kit σ) (id : String) : Fresh (Kit σ) := do
  return { k with traceIds := ← k.traceIds.add id }

/-- Further trace ids, oldest first. -/
def withTraceIds (k : Kit σ) (ids : List String) : Fresh (Kit σ) := do
  return { k with traceIds := ← k.traceIds.addAll ids }

def withTool (k : Kit σ) (n : ToolName) (t : Instance (Tool σ)) : Kit σ :=
  { k with tools := k.tools.put n t }

/-- An observer under the name of observers. -/
def withObserver (k : Kit σ) (o : Observer σ) : Fresh (Kit σ) := do
  return k.withTool .observer (← Instance.make (.observer o))

/-- The tool under a name, as it was put there. -/
def tool? (k : Kit σ) (n : ToolName) : Option (Instance (Tool σ)) := k.tools.find? n

/-- The tool under a name with the kit's fields and trace ids bound to it, as far as there are
any. -/
def boundTool (k : Kit σ) (n : ToolName) : Fresh (Option (Instance (Tool σ))) := do
  match k.tool? n with
  | none => return none
  | some t =>
    let t ← if k.fields.isEmpty then pure t
      else do Instance.make (← t.val.withContext k.fields)
    if k.traceIds.isEmpty then return some t
    else return some (← Instance.make (← t.val.withTraceIds k.traceIds))

def activeSpan (k : Kit σ) : Option Span := (k.tool? .tracer).bind fun t => t.val.activeSpan

def flush (k : Kit σ) : Act σ Unit := flushTools (k.tools.entries.map (·.2))

def describe (k : Kit σ) : String :=
  outline "Belt" [
    ("fields", listOutline (k.fields.toList.map Field.describe)),
    ("trace_ids", TraceIds.describe k.traceIds),
    ("tools", k.tools.describe)]

end Kit

end Vigil
