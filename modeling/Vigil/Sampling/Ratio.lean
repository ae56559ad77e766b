import Vigil.Sampling.Hash

/-!
# Keeping a share

A ratio says which share of all words is kept: those below the ratio times the greatest word, computed in
doubles.  A ratio of one or more keeps all, a ratio of nothing or less keeps none, and so does what is no
number.

* `doubleLimit?` — the bound below which words are kept, if there is one;
* `TraceIdRatio` — keep a share of all sets of trace ids;
* `keepsDraw` — keep a share at random.
-/

namespace Vigil.Sampling

/-- The bound below which words are kept; none if all are.  The greatest word is made a double, which rounds it
up, and the product is cut off to a word. -/
def doubleLimit? (ratio : Float) : Option UInt64 :=
  if ratio.isNaN ∨ ratio ≤ 0 then some 0
  else if 1 ≤ ratio then none
  else some (ratio * (0xffffffffffffffff : UInt64).toFloat).toUInt64

/-- Keep a share of all sets of trace ids, chosen by a seed. -/
structure TraceIdRatio where
  /-- The share as it was given: the bits of a double. -/
  bits : UInt64
  seed : UInt64 := 0
deriving DecidableEq, Repr, Inhabited

/-- What the share is. -/
def TraceIdRatio.ratio (r : TraceIdRatio) : Float := .ofBits r.bits

/-- The set of ids is kept: its hash lies below the bound, if there is one. -/
def TraceIdRatio.keep (r : TraceIdRatio) (ids : TraceIds) : Bool :=
  (doubleLimit? r.ratio).all fun limit => hash r.seed ids < limit

/-- Keep the share `ratio` of all draws.  Where all or none are kept nothing is drawn, and where
nothing can be drawn all are kept. -/
def keepsDraw (ratio : Float) (draw : Option UInt64) : Bool :=
  match doubleLimit? ratio with
  | none => true
  | some limit => if limit = 0 then false else draw.all fun word => word < limit

end Vigil.Sampling
