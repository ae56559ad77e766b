import Vigil.TraceId

/-!
# Hashing sets of trace ids

Ids are hashed as a set: sorted, each once, every id's UTF-8 bytes followed by a byte that occurs in
no UTF-8 text.  A seed goes in front of the bytes.

* `distinct` — a sorted list, each element once;
* `feed` — the bytes of a set of ids;
* `absorb`, `finish`, `hash` — a state that takes in words, and the word it comes to.
-/

namespace Vigil.Sampling

/-- A list without immediate repetitions; a sorted list without any. -/
def distinct : List TraceId → List TraceId
  | [] => []
  | [a] => [a]
  | a :: b :: s => if a = b then distinct (b :: s) else a :: distinct (b :: s)

/-- The UTF-8 bytes of a text. -/
def utf8 (s : String) : List UInt8 := s.toList.flatMap String.utf8EncodeChar

/-- The byte behind every id. -/
def terminator : UInt8 := 0xff

/-- The bytes of the set of ids in a chain. -/
def feed (ids : TraceIds) : List UInt8 :=
  (distinct (TraceIds.sorted ids)).flatMap fun id => utf8 id.text ++ [terminator]

/-- The state before anything is taken in. -/
def initial : UInt64 := 0x16f11fe89b0d677c

/-- What the state is multiplied by. -/
def multiplier : UInt64 := 0x517cc1b727220a95

/-- Take in one word. -/
def absorb (state word : UInt64) : UInt64 := (state * multiplier) ^^^ word

/-- Take in bytes. -/
def absorbBytes (state : UInt64) (bytes : List UInt8) : UInt64 :=
  bytes.foldl (fun s b => absorb s b.toUInt64) state

/-- Fold the upper bits of a word into the lower ones. -/
def foldUpper (h : UInt64) : UInt64 := h ^^^ (h >>> 33)

/-- The word that a state comes to. -/
def finish (state : UInt64) : UInt64 :=
  foldUpper (foldUpper (foldUpper state * 0xff51afd7ed558ccd) * 0xc4ceb9fe1a85ec53)

/-- The hash of a set of ids under a seed. -/
def hash (seed : UInt64) (ids : TraceIds) : UInt64 :=
  finish (absorbBytes (absorb initial seed) (feed ids))

end Vigil.Sampling
