import Vigil.Toml.Quoted

/-!
# Tokens

A document is cut into words, the marks between them, blanks, comments and line breaks, before
anything is said about how these go together.

* `Token`;
* `tokens?` — the tokens of a text; none if a comment holds a character that may not stand in it, or
  if a carriage return stands alone.
-/

namespace Vigil.Toml

/-- One piece of a document. -/
inductive Token where
  | dot
  | equals
  | comma
  | openBracket
  | closeBracket
  | openBrace
  | closeBrace
  /-- Spaces and tabs. -/
  | blanks (s : List Char)
  /-- A comment, up to its line break. -/
  | comment
  | lineBreak
  | word (w : Word)
deriving DecidableEq, Repr

/-- The mark that a character is. -/
def Token.mark? (c : Char) : Option Token :=
  if c = '.' then some .dot
  else if c = '=' then some .equals
  else if c = ',' then some .comma
  else if c = '[' then some .openBracket
  else if c = ']' then some .closeBracket
  else if c = '\x7b' then some .openBrace
  else if c = '\x7d' then some .closeBrace
  else none

/-- A space or a tab. -/
def isSpace (c : Char) : Bool := c == ' ' || c == '\t'

/-- A character of a comment. -/
def isInLine (c : Char) : Bool := c != '\n' && c != '\r'

/-- The token in front of a text that is not empty, and what is behind it. -/
def Token.split? (c : Char) (s : List Char) : Option (Token × List Char) :=
  match Token.mark? c with
  | some t => some (t, s)
  | none =>
    match afterBreak? (c :: s) with
    | some s => some (.lineBreak, s)
    | none =>
      match Word.split? (c :: s) with
      | some (w, s) => some (.word w, s)
      | none =>
        if isSpace c then some (.blanks (c :: s.takeWhile isSpace), s.dropWhile isSpace)
        else if c = '#' then
          if (s.takeWhile isInLine).all isAllowed then some (.comment, s.dropWhile isInLine)
          else none
        else if isBareChar c then
          some (.word ⟨.bare, c :: s.takeWhile isBareChar⟩, s.dropWhile isBareChar)
        else none

/-- The tokens of a text, at most one for each unit of fuel. -/
def tokensWithin? : Nat → List Char → Option (List Token)
  | 0, _ => some []
  | _ + 1, [] => some []
  | fuel + 1, c :: s =>
    match Token.split? c s with
    | none => none
    | some (t, s) => (tokensWithin? fuel s).map (t :: ·)

/-- The tokens of a text.  Each takes at least one character, so there are no more of them than
characters. -/
def tokens? (s : List Char) : Option (List Token) := tokensWithin? s.length s

end Vigil.Toml
