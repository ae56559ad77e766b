import Vigil.Toml.Word

/-!
# Quoted texts

A text stands between double quotes, where a backslash begins an escape, or between single quotes,
where nothing does.  Between three quotes it may go over several lines.  Control characters other
than the tab are not allowed in it.

* `isAllowed` — the characters that may stand in a text or a comment;
* `readEscape?` — one escape;
* `basic?`, `literal?`, `basicLines?`, `literalLines?` — the four kinds of texts, each read behind
  its opening quotes and up to the end of its closing ones;
* `Word.quoted?` — the text that a quoted word says.
-/

namespace Vigil.Toml

/-- A character that may stand in a text on one line. -/
def isAllowed (c : Char) : Bool := c == '\t' || (0x20 ≤ c.toNat && c.toNat != 0x7f)

/-- The value of a digit in a base up to sixteen, in either case. -/
def digitIn? (base : Nat) (c : Char) : Option Nat :=
  let value :=
    if '0' ≤ c ∧ c ≤ '9' then c.toNat - '0'.toNat
    else if 'a' ≤ c ∧ c ≤ 'f' then c.toNat - 'a'.toNat + 10
    else if 'A' ≤ c ∧ c ≤ 'F' then c.toNat - 'A'.toNat + 10
    else base
  if value < base then some value else none

/-- Exactly `n` hexadecimal digits in front of a text, as a number, and the rest. -/
def takeHex? : Nat → Nat → List Char → Option (Nat × List Char)
  | 0, value, s => some (value, s)
  | _ + 1, _, [] => none
  | n + 1, value, c :: s =>
    match digitIn? 16 c with
    | none => none
    | some d => takeHex? n (value * 16 + d) s

/-- The character with a number, if there is one. -/
def scalarOf? (n : Nat) : Option Char :=
  if n < 0xd800 ∨ (0xdfff < n ∧ n < 0x110000) then some (Char.ofNat n) else none

/-- The character that `digits` hexadecimal digits name. -/
def readNumbered? (digits : Nat) (s : List Char) : Option (Char × List Char) :=
  match takeHex? digits 0 s with
  | none => none
  | some (n, s) => (scalarOf? n).map fun c => (c, s)

/-- The character that an escape stands for, read behind its backslash. -/
def readEscape? (s : List Char) : Option (Char × List Char) :=
  match s with
  | 'b' :: s => some ('\x08', s)
  | 't' :: s => some ('\t', s)
  | 'n' :: s => some ('\n', s)
  | 'f' :: s => some ('\x0c', s)
  | 'r' :: s => some ('\r', s)
  | 'e' :: s => some ('\x1b', s)
  | '"' :: s => some ('"', s)
  | '\\' :: s => some ('\\', s)
  | 'x' :: s => readNumbered? 2 s
  | 'u' :: s => readNumbered? 4 s
  | 'U' :: s => readNumbered? 8 s
  | _ => none

/-- What is behind a line break. -/
def afterBreak? : List Char → Option (List Char)
  | '\n' :: s => some s
  | '\r' :: '\n' :: s => some s
  | _ => none

/-- What is behind a line break in front of a text, which a text over several lines may begin
with. -/
def dropBreak (s : List Char) : List Char := (afterBreak? s).getD s

/-- A text up to its double quote, which is the last character. -/
def basic? : Nat → List Char → Option (List Char)
  | 0, _ => none
  | _ + 1, [] => none
  | _ + 1, ['"'] => some []
  | fuel + 1, '\\' :: s =>
    match readEscape? s with
    | none => none
    | some (c, s) => (basic? fuel s).map (c :: ·)
  | fuel + 1, c :: s => if isAllowed c && c != '"' then (basic? fuel s).map (c :: ·) else none

/-- A text up to its single quote, which is the last character. -/
def literal? : List Char → Option (List Char)
  | [] => none
  | ['\''] => some []
  | c :: s => if isAllowed c && c != '\'' then (literal? s).map (c :: ·) else none

/-- The quotes in front of a text that close it: three, and up to two more in front of them that
belong to it. -/
def closing? (quote : Char) (s : List Char) : Option (List Char) :=
  if s.all (· == quote) && 3 ≤ s.length && s.length ≤ 5 then some (s.drop 3) else none

/-- What is behind the line breaks, spaces and tabs in front of a text, of which at least one must
be a line break unless there was one before.  A carriage return must belong to a line break. -/
def afterContinuation? : Bool → List Char → Option (List Char)
  | broken, ' ' :: s => afterContinuation? broken s
  | broken, '\t' :: s => afterContinuation? broken s
  | _, '\n' :: s => afterContinuation? true s
  | _, '\r' :: '\n' :: s => afterContinuation? true s
  | _, '\r' :: _ => none
  | broken, s => if broken then some s else none

/-- A text over several lines up to its double quotes, which are the last characters.  A backslash
at the end of a line takes the line break and the blanks behind it away. -/
def basicLines? : Nat → List Char → Option (List Char)
  | 0, _ => none
  | _ + 1, [] => none
  | fuel + 1, '\\' :: s =>
    match readEscape? s with
    | some (c, s) => (basicLines? fuel s).map (c :: ·)
    | none =>
      match afterContinuation? false s with
      | some s => basicLines? fuel s
      | none => none
  | fuel + 1, c :: s =>
    match closing? '"' (c :: s) with
    | some quotes => some quotes
    | none =>
      match afterBreak? (c :: s) with
      | some rest => (basicLines? fuel rest).map ('\n' :: ·)
      | none => if isAllowed c then (basicLines? fuel s).map (c :: ·) else none

/-- A text over several lines up to its single quotes, which are the last characters. -/
def literalLines? : Nat → List Char → Option (List Char)
  | 0, _ => none
  | _ + 1, [] => none
  | fuel + 1, c :: s =>
    match closing? '\'' (c :: s) with
    | some quotes => some quotes
    | none =>
      match afterBreak? (c :: s) with
      | some rest => (literalLines? fuel rest).map ('\n' :: ·)
      | none => if isAllowed c then (literalLines? fuel s).map (c :: ·) else none

/-- The text that a word in quotes says. -/
def Word.quoted? (w : Word) : Option (List Char) :=
  match w.quoting with
  | .bare => none
  | .basic => basic? (w.text.length + 1) w.text
  | .literal => literal? w.text
  | .basicLines => basicLines? (w.text.length + 1) (dropBreak w.text)
  | .literalLines => literalLines? (w.text.length + 1) (dropBreak w.text)

end Vigil.Toml
