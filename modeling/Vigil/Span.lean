import Vigil.TraceId
import Vigil.Text.Quoted

/-!
# Spans

A span is a timed piece of work under a name, inside another span or at the root.  A span made
inside another one starts with that one's trace ids.

* `Span` — a root or a child, with its chain of parents inside it;
* `Span.openRoot`, `Span.openChild` — making spans, which draws span ids in order;
* `Span.path` — the spans from the root to a span.
-/

namespace Vigil

open Text

/-- A piece of work and, inside it, the pieces of work around it. -/
inductive Span where
  | root (id : UInt64) (name : String) (traceIds : TraceIds)
  | child (parent : Span) (id : UInt64) (name : String) (traceIds : TraceIds)
deriving Inhabited

/-- A computation that may draw span ids; the state is the id that is drawn next.  Behind the largest
word the ids start over. -/
abbrev SpanIds := StateM UInt64

namespace Span

def id : Span → UInt64
  | root id _ _ => id
  | child _ id _ _ => id

def name : Span → String
  | root _ name _ => name
  | child _ _ name _ => name

def parent? : Span → Option Span
  | root _ _ _ => none
  | child p _ _ _ => some p

def traceIds : Span → TraceIds
  | root _ _ ids => ids
  | child _ _ _ ids => ids

/-- The span with other trace ids. -/
def withTraceIds (ids : TraceIds) : Span → Span
  | root id name _ => root id name ids
  | child p id name _ => child p id name ids

/-- Draw the next span id. -/
def drawId : SpanIds UInt64 := fun n => (n, n + 1)

/-- A span inside no other. -/
def openRoot (name : String) : SpanIds Span := do
  return root (← drawId) name .empty

/-- A span inside `parent`, with its trace ids. -/
def openChild (parent : Span) (name : String) : SpanIds Span := do
  return child parent (← drawId) name parent.traceIds

/-- The spans from the root to this one. -/
def path : Span → List Span
  | s@(root _ _ _) => [s]
  | s@(child p _ _ _) => p.path ++ [s]

/-- The path to a span, if there is one. -/
def pathTo : Option Span → List Span
  | none => []
  | some s => s.path

def idLabel (id : UInt64) : String := "S" ++ toString id

def describeId (id : UInt64) : String := "SpanId(" ++ toString id ++ ")"

/-- A span as seen from outside: its id and its name. -/
def summary (s : Span) : String :=
  outline "Span" [("id", describeId s.id), ("name", quote s.name)]

/-- A span with its place, the ids written by `showId`. -/
def describeWith (showId : UInt64 → String) (s : Span) : String :=
  outline "SpanNode" [("id", showId s.id), ("name", quote s.name),
    ("parent", optionOutline (s.parent?.map fun p => showId p.id))]

/-- A span with its place. -/
def describe : Span → String := describeWith describeId

theorem getLast?_path (s : Span) : s.path.getLast? = some s := by
  cases s <;> simp [path]

end Span

end Vigil
