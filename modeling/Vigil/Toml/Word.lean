/-!
# Words

Keys and simple values are words: runs of characters without quotes, or texts in one of four kinds
of quotes.  Where a word ends can be told without looking at what it says; a text whose closing
quotes are missing goes to the end of its line, or of the document if it may go over several lines.

* `Quoting`, `Word` — a word as it stands;
* `isBareChar` — the characters of words without quotes;
* `Word.split?` — the quoted word in front of a text.
-/

namespace Vigil.Toml

/-- How a word is written. -/
inductive Quoting where
  /-- Without quotes. -/
  | bare
  /-- Between double quotes, on one line. -/
  | basic
  /-- Between single quotes, on one line. -/
  | literal
  /-- Between three double quotes. -/
  | basicLines
  /-- Between three single quotes. -/
  | literalLines
deriving DecidableEq, Repr

/-- A word as it stands, without its opening quotes but with those that close it. -/
structure Word where
  quoting : Quoting
  text : List Char
deriving DecidableEq, Repr

/-- What stands where a word is missing. -/
def Word.missing : Word := ⟨.bare, []⟩

/-- A character of a word without quotes: no blank, no line break, and none of the marks. -/
def isBareChar (c : Char) : Bool :=
  !(c == '.' || c == '=' || c == ',' || c == '[' || c == ']' || c == '\x7b' || c == '\x7d'
    || c == ' ' || c == '\t' || c == '#' || c == '\r' || c == '\n')

/-- At most `n` times the character `c` in front of a text, and what is behind. -/
def takeUpTo (c : Char) : Nat → List Char → List Char × List Char
  | n + 1, d :: s =>
    if d = c then
      let r := takeUpTo c n s
      (d :: r.1, r.2)
    else ([], d :: s)
  | _, s => ([], s)

/-- A text in double quotes, read behind the opening one. -/
def splitBasic : List Char → List Char × List Char
  | [] => ([], [])
  | '\n' :: s => ([], '\n' :: s)
  | '"' :: s => (['"'], s)
  | '\\' :: '"' :: s =>
    let r := splitBasic s
    ('\\' :: '"' :: r.1, r.2)
  | '\\' :: '\\' :: s =>
    let r := splitBasic s
    ('\\' :: '\\' :: r.1, r.2)
  | c :: s =>
    let r := splitBasic s
    (c :: r.1, r.2)

/-- A text in single quotes, read behind the opening one. -/
def splitLiteral : List Char → List Char × List Char
  | [] => ([], [])
  | '\n' :: s => ([], '\n' :: s)
  | '\'' :: s => (['\''], s)
  | c :: s =>
    let r := splitLiteral s
    (c :: r.1, r.2)

/-- A text in three double quotes, read behind the opening ones.  Up to two quotes in front of
those that close it belong to it. -/
def splitBasicLines : List Char → List Char × List Char
  | [] => ([], [])
  | '"' :: '"' :: '"' :: s =>
    let r := takeUpTo '"' 2 s
    ('"' :: '"' :: '"' :: r.1, r.2)
  | '\\' :: '"' :: s =>
    let r := splitBasicLines s
    ('\\' :: '"' :: r.1, r.2)
  | '\\' :: '\\' :: s =>
    let r := splitBasicLines s
    ('\\' :: '\\' :: r.1, r.2)
  | c :: s =>
    let r := splitBasicLines s
    (c :: r.1, r.2)

/-- A text in three single quotes, read behind the opening ones. -/
def splitLiteralLines : List Char → List Char × List Char
  | [] => ([], [])
  | '\'' :: '\'' :: '\'' :: s =>
    let r := takeUpTo '\'' 2 s
    ('\'' :: '\'' :: '\'' :: r.1, r.2)
  | c :: s =>
    let r := splitLiteralLines s
    (c :: r.1, r.2)

/-- The quoted word in front of a text, and what is behind it. -/
def Word.split? : List Char → Option (Word × List Char)
  | '"' :: '"' :: '"' :: s =>
    let r := splitBasicLines s
    some (⟨.basicLines, r.1⟩, r.2)
  | '\'' :: '\'' :: '\'' :: s =>
    let r := splitLiteralLines s
    some (⟨.literalLines, r.1⟩, r.2)
  | '"' :: s =>
    let r := splitBasic s
    some (⟨.basic, r.1⟩, r.2)
  | '\'' :: s =>
    let r := splitLiteral s
    some (⟨.literal, r.1⟩, r.2)
  | _ => none

end Vigil.Toml
