/-!
# Hexadecimal text

Numbers and bytes by hexadecimal digits, which are lower case throughout.

* `hexDigits` — a number without padding; `hexPadded` — with a least number of digits;
* `hexValue?`, `hexNumber?`, `hexBytes?` — reading them back.
-/

namespace Vigil.Text

/-- The last digit of a number. -/
def hexDigit (n : Nat) : Char := Nat.digitChar (n % 16)

/-- The digits of a number, without leading zeros. -/
def hexDigits (n : Nat) : List Char := Nat.toDigits 16 n

/-- The digits of a number, at least `width` of them. -/
def hexPadded (width n : Nat) : List Char :=
  let ds := hexDigits n
  List.replicate (width - ds.length) '0' ++ ds

/-- The value of a digit. -/
def hexValue? (c : Char) : Option Nat :=
  if '0' ≤ c && c ≤ '9' then some (c.toNat - '0'.toNat)
  else if 'a' ≤ c && c ≤ 'f' then some (c.toNat - 'a'.toNat + 10)
  else none

/-- The number that digits spell behind the digits of `n`. -/
def hexNumber? : Nat → List Char → Option Nat
  | n, [] => some n
  | n, c :: s =>
    match hexValue? c with
    | none => none
    | some d => hexNumber? (n * 16 + d) s

/-- The bytes that pairs of digits spell. -/
def hexBytes? : List Char → Option (List UInt8)
  | [] => some []
  | [_] => none
  | c :: d :: s =>
    match hexNumber? 0 [c, d], hexBytes? s with
    | some b, some bs => some (UInt8.ofNat b :: bs)
    | _, _ => none

end Vigil.Text
