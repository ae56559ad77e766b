/-!
# Texts as UTF-8

The size of a text is counted in the bytes of its UTF-8 form, and bytes from outside are read as
UTF-8 in two ways.

* `encode`, `byteSize` — the bytes of a text, and how many they are;
* `clip` — the longest beginning of a text that fits a number of bytes;
* `decode?` — the text that some bytes are, if they are well-formed;
* `decodeLossy` — the text with U+FFFD for every longest run of bytes that begins no character.
-/

namespace Vigil.Text

/-- The UTF-8 form of a text. -/
def encode (s : List Char) : List UInt8 := s.flatMap String.utf8EncodeChar

/-- The number of bytes of the UTF-8 form of a text. -/
def byteSize : List Char → Nat
  | [] => 0
  | c :: s => c.utf8Size + byteSize s

/-- The longest beginning of a text that takes no more than `budget` bytes. -/
def clip : Nat → List Char → List Char
  | _, [] => []
  | budget, c :: s => if c.utf8Size ≤ budget then c :: clip (budget - c.utf8Size) s else []

@[simp] theorem encode_cons (c : Char) (s : List Char) :
    encode (c :: s) = String.utf8EncodeChar c ++ encode s := List.flatMap_cons

@[simp] theorem encode_append (s t : List Char) : encode (s ++ t) = encode s ++ encode t :=
  List.flatMap_append

theorem length_encode (s : List Char) : (encode s).length = byteSize s := by
  induction s with
  | nil => rfl
  | cons c s ih => rw [encode_cons, List.length_append, String.length_utf8EncodeChar, ih, byteSize]

@[simp] theorem byteSize_append (s t : List Char) :
    byteSize (s ++ t) = byteSize s + byteSize t := by
  induction s with
  | nil => simp [byteSize]
  | cons c s ih => simp [byteSize, ih, Nat.add_assoc]

theorem clip_prefix (budget : Nat) (s : List Char) : clip budget s <+: s := by
  induction s generalizing budget with
  | nil => simp [clip]
  | cons c s ih =>
    by_cases h : c.utf8Size ≤ budget
    · simp [clip, h, ih]
    · simp [clip, h]

theorem byteSize_clip_le (budget : Nat) (s : List Char) : byteSize (clip budget s) ≤ budget := by
  induction s generalizing budget with
  | nil => simp [clip, byteSize]
  | cons c s ih =>
    by_cases h : c.utf8Size ≤ budget
    · have := ih (budget - c.utf8Size)
      simp only [clip, h, if_true, byteSize]
      omega
    · simp [clip, h, byteSize]

theorem clip_eq_self {budget : Nat} {s : List Char} (h : byteSize s ≤ budget) :
    clip budget s = s := by
  induction s generalizing budget with
  | nil => simp [clip]
  | cons c s ih =>
    simp only [byteSize] at h
    have fits : c.utf8Size ≤ budget := by omega
    have rest : byteSize s ≤ budget - c.utf8Size := by omega
    simp only [clip, fits, if_true, ih rest]

/-! ### Reading bytes -/

/-- A byte that continues a character. -/
def isContinuation (b : UInt8) : Bool := 0x80 ≤ b && b ≤ 0xbf

/-- What the first byte of a character asks for: how many bytes continue it, the bits it holds,
and the range of its second byte, which is narrower where a longer form than needed, a surrogate
or a value past U+10FFFF would be spelt. -/
structure Lead where
  continuations : Nat
  bits : Nat
  low : UInt8
  high : UInt8
deriving Repr

/-- The demands of a first byte; none for a byte that begins no character. -/
def Lead.ofByte? (b : UInt8) : Option Lead :=
  if b < 0x80 then some ⟨0, b.toNat, 0, 0⟩
  else if 0xc2 ≤ b && b ≤ 0xdf then some ⟨1, b.toNat - 0xc0, 0x80, 0xbf⟩
  else if b == 0xe0 then some ⟨2, 0, 0xa0, 0xbf⟩
  else if b == 0xed then some ⟨2, 0xd, 0x80, 0x9f⟩
  else if 0xe1 ≤ b && b ≤ 0xef then some ⟨2, b.toNat - 0xe0, 0x80, 0xbf⟩
  else if b == 0xf0 then some ⟨3, 0, 0x90, 0xbf⟩
  else if 0xf1 ≤ b && b ≤ 0xf3 then some ⟨3, b.toNat - 0xf0, 0x80, 0xbf⟩
  else if b == 0xf4 then some ⟨3, 4, 0x80, 0x8f⟩
  else none

/-- Take up to `n` continuation bytes into `value`: the value if all `n` are there, and the bytes
after those taken. -/
def takeContinuations : Nat → Nat → List UInt8 → Option Nat × List UInt8
  | 0, value, bs => (some value, bs)
  | _ + 1, _, [] => (none, [])
  | n + 1, value, b :: bs =>
    if isContinuation b then takeContinuations n (value * 64 + (b.toNat - 0x80)) bs
    else (none, b :: bs)

theorem length_takeContinuations_le (n value : Nat) (bs : List UInt8) :
    (takeContinuations n value bs).2.length ≤ bs.length := by
  induction n generalizing value bs with
  | zero => simp [takeContinuations]
  | succ n ih =>
    cases bs with
    | nil => simp [takeContinuations]
    | cons b bs =>
      simp only [takeContinuations]
      split
      · exact Nat.le_succ_of_le (ih _ bs)
      · simp

/-- Read the character that begins with the byte `b`: the character, if one is spelt, and the
bytes after it, or after the longest run that could have begun one. -/
def readChar (b : UInt8) (bs : List UInt8) : Option Char × List UInt8 :=
  match Lead.ofByte? b with
  | none => (none, bs)
  | some lead =>
    match lead.continuations, bs with
    | 0, bs => (some (Char.ofNat lead.bits), bs)
    | _ + 1, [] => (none, [])
    | n + 1, c :: rest =>
      if lead.low ≤ c && c ≤ lead.high then
        let r := takeContinuations n (lead.bits * 64 + (c.toNat - 0x80)) rest
        (r.1.map Char.ofNat, r.2)
      else (none, c :: rest)

theorem length_readChar_le (b : UInt8) (bs : List UInt8) :
    (readChar b bs).2.length ≤ bs.length := by
  unfold readChar
  split
  · simp
  · split
    · simp
    · simp
    · split
      · exact Nat.le_succ_of_le (length_takeContinuations_le ..)
      · simp

/-- The text that the bytes spell, with U+FFFD where they spell none. -/
def decodeLossy : List UInt8 → List Char
  | [] => []
  | b :: bs => ((readChar b bs).1.getD '\ufffd') :: decodeLossy (readChar b bs).2
termination_by bs => bs.length
decreasing_by exact Nat.lt_succ_of_le (length_readChar_le b bs)

/-- The text that the bytes spell, if they spell one throughout. -/
def decode? : List UInt8 → Option (List Char)
  | [] => some []
  | b :: bs =>
    match (readChar b bs).1 with
    | none => none
    | some c => (decode? (readChar b bs).2).map (c :: ·)
termination_by bs => bs.length
decreasing_by exact Nat.lt_succ_of_le (length_readChar_le b bs)

end Vigil.Text
