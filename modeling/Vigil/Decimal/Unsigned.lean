/-!
# Reading unsigned decimals

An unsigned decimal is one or more ASCII digits, with at most one plus sign in front; leading
zeros are allowed and nothing else is.

* `digitValue?`, `ofDigits?` — digits to a number;
* `readUnsigned?` — an unsigned decimal below a bound.
-/

namespace Vigil.Decimal

/-- The value of an ASCII digit. -/
def digitValue? (c : Char) : Option Nat :=
  if '0' ≤ c ∧ c ≤ '9' then some (c.toNat - '0'.toNat) else none

/-- Read further digits behind the number `n`. -/
def continueDigits? (n : Nat) : List Char → Option Nat
  | [] => some n
  | c :: s =>
    match digitValue? c with
    | none => none
    | some d => continueDigits? (n * 10 + d) s

/-- The number that one or more digits spell. -/
def ofDigits? : List Char → Option Nat
  | [] => none
  | c :: s => continueDigits? 0 (c :: s)

/-- Read digits, with or without a plus sign in front, that spell a number below `bound`. -/
def readUnsigned? (bound : Nat) (s : List Char) : Option Nat :=
  let digits := match s with
    | '+' :: t => t
    | t => t
  (ofDigits? digits).filter (· < bound)

/-- The decimal digits of a number, without leading zeros. -/
def digits (n : Nat) : List Char := Nat.toDigits 10 n

end Vigil.Decimal
