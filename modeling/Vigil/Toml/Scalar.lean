import Vigil.Toml.Value
import Vigil.Toml.Quoted
import Vigil.Text.Blank
import Vigil.Decimal.Unsigned

/-!
# Scalars without quotes

Numbers, truth values and dates are words without quotes.  Underscores may stand between the digits
of a number.  A number whose form is right but whose value cannot be held is a value too.

* `underscoresFit` — underscores have digits beside them;
* `readInteger?`, `readBased?`, `readFloat?`, `isDate` — the kinds with a form;
* `readScalar?` — a word as a value.
-/

namespace Vigil.Toml

open Text Decimal

/-- The pieces of a text between underscores. -/
def pieces : List Char → List (List Char)
  | [] => [[]]
  | c :: s =>
    if c = '_' then [] :: pieces s
    else
      match pieces s with
      | [] => [[c]]
      | p :: ps => (c :: p) :: ps

/-- Underscores stand between digits: every piece behind the first begins with a digit, and every
piece in front of the last ends in one. -/
def underscoresFit (isDigit : Char → Bool) (s : List Char) : Bool :=
  (pieces s).tail.all (fun piece => piece.head?.any isDigit) &&
    (pieces s).dropLast.all fun piece => piece.getLast?.any isDigit

/-- A text without its underscores. -/
def withoutUnderscores (s : List Char) : List Char := s.filter (· != '_')

/-- A digit in a base. -/
def isDigitIn (base : Nat) (c : Char) : Bool := (digitIn? base c).isSome

/-- Digits in a base, read behind the number `n`. -/
def digitsFrom? (base : Nat) : Nat → List Char → Option Nat
  | n, [] => some n
  | n, c :: s =>
    match digitIn? base c with
    | none => none
    | some d => digitsFrom? base (n * base + d) s

/-- One or more digits in a base. -/
def readDigits? (base : Nat) : List Char → Option Nat
  | [] => none
  | s => digitsFrom? base 0 s

/-- The sign of a number and the rest. -/
def splitSign : List Char → Bool × List Char
  | '+' :: s => (false, s)
  | '-' :: s => (true, s)
  | s => (false, s)

/-- Integers can be held if they fit into 128 bits, with a sign or without. -/
def integerFits (n : Int) : Bool := -((1 <<< 127 : Nat) : Int) ≤ n && n < ((1 <<< 128 : Nat) : Int)

/-- An integer as a value, if there is one. -/
def Value.ofInteger : Option Int → Value
  | some n => if integerFits n then .integer n else .unreadable
  | none => .unreadable

/-- An integer in base sixteen, eight or two, read behind `0x`, `0o` or `0b`. -/
def readBased? (base : Nat) (s : List Char) : Option Value :=
  if (withoutUnderscores s).all (isDigitIn base) && underscoresFit (isDigitIn 16) s then
    some (.ofInteger ((readDigits? base (withoutUnderscores s)).map Int.ofNat))
  else none

/-- A decimal integer, which has no zero in front of other digits.  Without an underscore behind its
first digits it has nothing but them behind its sign. -/
def readInteger? (s : List Char) : Option Value :=
  let (negative, body) := splitSign s
  let digits := body.takeWhile Char.isDigit
  let rest := body.dropWhile Char.isDigit
  let held := (readDigits? 10 (withoutUnderscores body)).map fun n =>
    if negative then -(n : Int) else n
  if body = ['0'] then some (.ofInteger held)
  else if digits.head? = some '0' then none
  else
    match rest with
    | [] => some (.ofInteger held)
    | '_' :: _ => if underscoresFit (isDigitIn 16) s then some (.ofInteger held) else none
    | _ => none

/-- A double cannot come near the number `digits · 10 ^ exponent`. -/
def overflows (n : Nat) (exponent : Int) : Bool :=
  let size : Int := (Nat.toDigits 10 n).length + exponent
  if n = 0 ∨ size < 300 then false
  else if 320 < size then true
  else
    (1 <<< 1024 - 1 <<< 970) * Nat.pow 10 (-exponent).toNat ≤ n * Nat.pow 10 exponent.toNat

/-- The digits and underscores in front of a text, of which at least one must be a digit, and what is
behind them. -/
def splitDigits? (s : List Char) : Option (List Char × List Char) :=
  let run := s.takeWhile fun c => c.isDigit || c == '_'
  if run.any Char.isDigit then
    some (withoutUnderscores run, s.dropWhile fun c => c.isDigit || c == '_')
  else none

/-- The fraction in front of a text, if there is one. -/
def splitFraction? : List Char → Option (List Char × List Char)
  | '.' :: s => splitDigits? s
  | s => some ([], s)

/-- The exponent that a text is, if it is not empty. -/
def readExponent? : List Char → Option Int
  | [] => some 0
  | c :: s =>
    if c = 'e' ∨ c = 'E' then
      let (negative, s) := splitSign s
      match splitDigits? s with
      | some (ds, []) => (readDigits? 10 ds).map fun n => if negative then -(n : Int) else n
      | _ => none
    else none

/-- A float: digits with a fraction, an exponent or both.  There is no zero in front of other
digits. -/
def readFloat? (s : List Char) : Option Value :=
  let (_, body) := splitSign s
  if !underscoresFit Char.isDigit s then none
  else
    match splitDigits? body with
    | none => none
    | some (whole, rest) =>
      if rest = [] || (body.head? = some '0' && whole.length != 1) then none
      else
        match splitFraction? rest with
        | none => none
        | some (fraction, rest) =>
          match readExponent? rest, readDigits? 10 (whole ++ fraction) with
          | some e, some n =>
            some (if overflows n (e - fraction.length) then .unreadable else .float)
          | _, _ => none

/-! ### Dates -/

/-- Exactly `n` digits in front of a text, as a number, and the rest. -/
def takeDigits? : Nat → Nat → List Char → Option (Nat × List Char)
  | 0, value, s => some (value, s)
  | _ + 1, _, [] => none
  | n + 1, value, c :: s =>
    match digitValue? c with
    | none => none
    | some d => takeDigits? n (value * 10 + d) s

/-- A year is a leap year. -/
def isLeap (year : Nat) : Bool := year % 4 = 0 && (year % 100 != 0 || year % 400 = 0)

/-- The days of a month. -/
def daysIn (year month : Nat) : Nat :=
  match month with
  | 2 => if isLeap year then 29 else 28
  | 4 | 6 | 9 | 11 => 30
  | _ => 31

/-- A full date in front of a text; what is behind it. -/
def afterDate? (s : List Char) : Option (List Char) :=
  match takeDigits? 4 0 s with
  | some (year, '-' :: s) =>
    match takeDigits? 2 0 s with
    | some (month, '-' :: s) =>
      match takeDigits? 2 0 s with
      | some (day, s) =>
        if 1 ≤ month ∧ month ≤ 12 ∧ 1 ≤ day ∧ day ≤ daysIn year month then some s else none
      | none => none
    | _ => none
  | _ => none

/-- A fraction of a second in front of a text, if there is one; what is behind it. -/
def afterFraction? : List Char → Option (List Char)
  | '.' :: s =>
    match takeDigits? 1 0 s with
    | none => none
    | some (_, s) => some (s.dropWhile fun c => '0' ≤ c && c ≤ '9')
  | s => some s

/-- A time of day in front of a text, with or without seconds; what is behind it. -/
def afterTime? (s : List Char) : Option (List Char) :=
  match takeDigits? 2 0 s with
  | some (hour, ':' :: s) =>
    match takeDigits? 2 0 s with
    | some (minute, s) =>
      if 23 < hour ∨ 59 < minute then none
      else
        match s with
        | ':' :: s =>
          match takeDigits? 2 0 s with
          | some (second, s) => if 60 < second then none else afterFraction? s
          | none => none
        | s => some s
    | none => none
  | _ => none

/-- A shift from universal time, and nothing else. -/
def isOffset (s : List Char) : Bool :=
  match s with
  | ['Z'] | ['z'] => true
  | sign :: s =>
    (sign == '+' || sign == '-') &&
      match takeDigits? 2 0 s with
      | some (hour, ':' :: s) =>
        match takeDigits? 2 0 s with
        | some (minute, []) => hour ≤ 23 && minute ≤ 59
        | _ => false
      | _ => false
  | [] => false

/-- A date, a time of day, or both with or without an offset. -/
def isDate (s : List Char) : Bool :=
  match afterDate? s with
  | some [] => true
  | some (mark :: s) =>
    (mark == 'T' || mark == 't' || mark == ' ') &&
      match afterTime? s with
      | some [] => true
      | some s => isOffset s
      | none => false
  | none => afterTime? s == some []

/-- A word that is a float by name. -/
def isNamedFloat (s : List Char) : Bool :=
  let body := (splitSign s).2
  body == "inf".toList || body == "nan".toList

/-- A word without quotes as a value.  Apart from those that are known by name it begins with a digit,
perhaps behind a sign. -/
def readScalar? (s : List Char) : Option Value :=
  if s = "true".toList then some (.boolean true)
  else if s = "false".toList then some (.boolean false)
  else if isNamedFloat s then some .float
  else
    match s with
    | '0' :: 'x' :: ds => readBased? 16 ds
    | '0' :: 'o' :: ds => readBased? 8 ds
    | '0' :: 'b' :: ds => readBased? 2 ds
    | s =>
      if !(splitSign s).2.head?.any Char.isDigit then none
      else if isDate s then some .date
      else if s.contains ' ' then none
      else if s.any fun c => c == '.' || c == 'e' || c == 'E' then readFloat? s
      else readInteger? s

end Vigil.Toml
