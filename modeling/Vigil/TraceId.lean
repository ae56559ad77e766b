import Vigil.Chain
import Vigil.Text.Outline

/-!
# Trace ids

A trace id is a text that names one piece of work across the places it passes through.  The ids a
piece of work has are held in a chain, one id a link.

* `TraceId`, ordered by its bytes;
* `TraceIds` — a chain of them; `TraceIds.add`, `TraceIds.addAll`, `TraceIds.beq`.
-/

namespace Vigil

open Text

/-- The name of one piece of work. -/
structure TraceId where
  text : String
deriving DecidableEq, Repr, Inhabited

namespace TraceId

def describe (t : TraceId) : String := "TraceId(" ++ t.text ++ ")"

/-- Ids in the order of their texts: by code point, which is the order of their UTF-8 bytes. -/
def le (a b : TraceId) : Bool := a.text ≤ b.text

end TraceId

/-- The ids of a piece of work, newest first. -/
abbrev TraceIds := Chain TraceId

namespace TraceIds

def add (ids : TraceIds) (text : String) : Fresh TraceIds := ids.push ⟨text⟩

/-- Further ids, in the order given. -/
def addAll (ids : TraceIds) (texts : List String) : Fresh TraceIds :=
  ids.pushEach (texts.map TraceId.mk)

/-- As many ids, and the same ones in order. -/
def beq (a b : TraceIds) : Bool := a.size == b.size && a.toList == b.toList

/-- The ids in increasing order of their texts. -/
def sorted (ids : TraceIds) : List TraceId := ids.toList.mergeSort TraceId.le

def describe (ids : TraceIds) : String := listOutline (ids.toList.map TraceId.describe)

end TraceIds

end Vigil
