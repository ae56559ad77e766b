import Vigil.Decimal.Shortest

/-!
# Layouts: how the digits of a number are written

A layout fixes everything about a written number that its digits leave open: where positional
writing ends and exponents begin, whether a whole number keeps a point, how exponents look, which
of two equally short decimals is taken, and what stands for a value that is no number.

* `Layout` — those decisions;
* `Layout.write` — the text of a double;
* `Layout.plain` — positional always, no point behind whole numbers;
* `Layout.json` — a JSON number, which has no way to write what is not finite.
-/

namespace Vigil.Decimal

/-- How numbers are written. -/
structure Layout where
  /-- First digits at this power of ten or above are written positionally, if a bound is set. -/
  lowest : Option Int
  /-- First digits at this power of ten or above are written with an exponent, if set. -/
  limit : Option Int
  /-- What a whole number has behind its digits. -/
  wholeTail : String
  /-- Which of two equally near decimals is taken. -/
  tie : Tie
  /-- The text of what is no number. -/
  nan : String
  /-- The texts of the infinities. -/
  infinity : String
  negativeInfinity : String
deriving Repr

namespace Layout

/-- The layout of numbers in running text: positional throughout, whole numbers bare. -/
def plain : Layout :=
  { lowest := none, limit := none, wholeTail := "", tie := .up
    nan := "NaN", infinity := "inf", negativeInfinity := "-inf" }

/-- The layout of JSON numbers: positional from `10⁻⁵` up to below `10¹⁶`, whole numbers with a
point and a zero, `null` for what is not finite. -/
def json : Layout :=
  { lowest := some (-5), limit := some 16, wholeTail := ".0", tie := .even
    nan := "null", infinity := "null", negativeInfinity := "null" }

/-- First digits at this power of ten are written positionally. -/
def positional (l : Layout) (exponent : Int) : Bool :=
  l.lowest.all (· ≤ exponent) && l.limit.all (exponent < ·)

/-- Digits with the decimal point at its place. -/
def writePositional (l : Layout) (s : Scientific) : List Char :=
  if s.exponent < 0 then
    ['0', '.'] ++ List.replicate (-s.exponent - 1).toNat '0' ++ s.digits
  else
    let whole := s.exponent.toNat + 1
    if s.digits.length ≤ whole then
      s.digits ++ List.replicate (whole - s.digits.length) '0' ++ l.wholeTail.toList
    else s.digits.take whole ++ '.' :: s.digits.drop whole

/-- One digit, the others behind a point, and a signed power of ten. -/
def writeExponent (s : Scientific) : List Char :=
  let fraction := if s.digits.length ≤ 1 then [] else '.' :: s.digits.drop 1
  let sign := if s.exponent < 0 then '-' else '+'
  s.digits.take 1 ++ fraction ++ ['e', sign] ++ Nat.toDigits 10 s.exponent.natAbs

/-- The text of a double in a layout. -/
def write (l : Layout) (x : Float) : String :=
  match Binary64.ofFloat x with
  | .nan => l.nan
  | .infinite negative => if negative then l.negativeInfinity else l.infinity
  | .finite negative mantissa exponent =>
    let sign := if negative then ['-'] else []
    if mantissa = 0 then String.ofList (sign ++ '0' :: l.wholeTail.toList)
    else
      let s := Scientific.shortest l.tie mantissa exponent
      let body := if l.positional s.exponent then l.writePositional s else writeExponent s
      String.ofList (sign ++ body)

end Layout

end Vigil.Decimal
