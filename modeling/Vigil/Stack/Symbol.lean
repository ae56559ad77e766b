import Vigil.Text.Blank
import Vigil.Text.Utf8
import Vigil.Text.Hex
import Vigil.Decimal.Unsigned

/-!
# Symbol names

A linker symbol packs a path into one word: a lead (`_ZN`), each part of the path behind its
length in decimal, an `E`, and possibly a suffix.  Characters that a linker does not take are
spelt between dollar signs, and the last part is often a hash of the whole, an `h` before
hexadecimal digits, which is left out when the name is read.

This is one way to pack names, and linkers have others; how they are unpacked is a parameter where
names are asked for.  A symbol that packs no name is its own name.

* `Symbol.parts?` — the path and the suffix;
* `Symbol.unescape` — one part with its spellings read;
* `Symbol.unpack?` — the name that a symbol packs in this way;
* `Symbol.nameOf` — the name of a symbol, for any way to unpack names.
-/

namespace Vigil.Symbol

open Text Decimal

/-- The text without a marker that later compilation stages put behind it: the first `.llvm.`
with nothing but upper-case hexadecimal digits and `@` after it. -/
def withoutStageMarker : List Char → List Char
  | [] => []
  | c :: s =>
    match afterPrefix? ".llvm.".toList (c :: s) with
    | some rest =>
      if rest.all fun d => ('A' ≤ d && d ≤ 'F') || ('0' ≤ d && d ≤ '9') || d == '@' then []
      else c :: s
    | none => c :: withoutStageMarker s

/-- The text behind the lead of a packed path. -/
def afterLead? (s : List Char) : Option (List Char) :=
  match afterPrefix? "_ZN".toList s with
  | some t => some t
  | none =>
    match afterPrefix? "ZN".toList s with
    | some t => some t
    | none => afterPrefix? "__ZN".toList s

/-- The digits in front of a text, and the rest. -/
def spanDigits (s : List Char) : List Char × List Char :=
  s.span fun c => '0' ≤ c && c ≤ '9'

/-- Lengths are counted in machine words. -/
def lengthBound : Nat := UInt64.size

/-- The parts of a packed path up to its closing `E`, and what is behind it.  Each step takes a
length and that many characters, so the text bounds their number. -/
def packedParts? : Nat → List Char → Option (List (List Char) × List Char)
  | 0, _ => none
  | _ + 1, [] => none
  | _ + 1, 'E' :: rest => some ([], rest)
  | fuel + 1, c :: s =>
    let (ds, rest) := spanDigits (c :: s)
    match readUnsigned? lengthBound ds with
    | none => none
    | some n =>
      if rest.length < n then none
      else (packedParts? fuel (rest.drop n)).map fun p => (rest.take n :: p.1, p.2)

/-- A suffix that a name may carry behind its path: empty, or a dot and ASCII letters, digits and
punctuation. -/
def isSuffix (s : List Char) : Bool :=
  match s with
  | [] => true
  | '.' :: rest => rest.all fun c => 0x21 ≤ c.toNat && c.toNat ≤ 0x7e
  | _ => false

/-- The path and the suffix of a symbol that packs a path. -/
def parts? (symbol : List Char) : Option (List (List Char) × List Char) :=
  match afterLead? (withoutStageMarker symbol) with
  | none => none
  | some inner =>
    if inner.all fun c => c.toNat < 128 then
      match packedParts? (inner.length + 1) inner with
      | none => none
      | some (parts, suffix) => if isSuffix suffix then some (parts, suffix) else none
    else none

/-- A part that is a hash: an `h` before hexadecimal digits. -/
def isHash (part : List Char) : Bool :=
  match part with
  | 'h' :: s => s.all fun c =>
      ('0' ≤ c && c ≤ '9') || ('a' ≤ c && c ≤ 'f') || ('A' ≤ c && c ≤ 'F')
  | _ => false

/-- A control code. -/
def isControl (c : Char) : Bool := c.toNat < 0x20 || (0x7f ≤ c.toNat && c.toNat ≤ 0x9f)

/-- The character that a spelling between dollar signs stands for. -/
def spelled? (code : List Char) : Option Char :=
  match code with
  | ['S', 'P'] => some '@'
  | ['B', 'P'] => some '*'
  | ['R', 'F'] => some '&'
  | ['L', 'T'] => some '<'
  | ['G', 'T'] => some '>'
  | ['L', 'P'] => some '('
  | ['R', 'P'] => some ')'
  | ['C'] => some ','
  | 'u' :: digit :: digits =>
    match hexNumber? 0 (digit :: digits) with
    | none => none
    | some n =>
      if n < 0xd800 ∨ (0xdfff < n ∧ n < 0x110000) then
        let c := Char.ofNat n
        if isControl c then none else some c
      else none
  | _ => none

/-- Read the spellings in a part: two dots separate, one dot stands for itself, dollar signs
enclose a spelling; from the first dollar sign that encloses none the rest stands as it is. -/
def readSpellings : Nat → List Char → List Char
  | 0, s => s
  | _ + 1, [] => []
  | fuel + 1, '.' :: '.' :: s => ':' :: ':' :: readSpellings fuel s
  | fuel + 1, '$' :: s =>
    match splitFirst? '$' s with
    | none => '$' :: s
    | some (code, rest) =>
      match spelled? code with
      | none => '$' :: s
      | some c => c :: readSpellings fuel rest
  | fuel + 1, c :: s => c :: readSpellings fuel s

/-- One part of a path as it is read; an underscore that only shields a leading dollar sign is
dropped. -/
def unescape (part : List Char) : List Char :=
  let shown := match part with
    | '_' :: '$' :: s => '$' :: s
    | s => s
  readSpellings (shown.length + 1) shown

/-- Parts with two colons between them. -/
def joinParts : List (List Char) → List Char
  | [] => []
  | [p] => p
  | p :: q :: ps => p ++ ':' :: ':' :: joinParts (q :: ps)

/-- A path without the hash at its end. -/
def withoutHash (parts : List (List Char)) : List (List Char) :=
  match parts.getLast? with
  | some last => if isHash last then parts.dropLast else parts
  | none => parts

/-- The name that a symbol packs, if it packs a path. -/
def unpack? (symbol : List Char) : Option (List Char) :=
  (parts? symbol).map fun (parts, suffix) => joinParts ((withoutHash parts).map unescape) ++ suffix

/-- The name of a symbol given as bytes: the one that `unpack` finds in it, or the symbol itself. -/
def nameOf (unpack : List Char → Option (List Char)) (bytes : List UInt8) : String :=
  let symbol := decodeLossy bytes
  String.ofList ((unpack symbol).getD symbol)

/-- The name of a symbol given as bytes, where no other packing is known. -/
def readBytes (bytes : List UInt8) : String := nameOf unpack? bytes

end Vigil.Symbol
