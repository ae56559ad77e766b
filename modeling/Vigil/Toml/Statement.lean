import Vigil.Toml.Token

/-!
# Statements

A document is a sequence of statements: headers, which name the table that what follows stands in,
and assignments of values to keys.  A statement is told by its marks alone; what its words say, and
whether they say anything, is not looked at.  Where only a word is missing, in a key or as a value,
there is an empty one.

* `Form` — a value as it is written; `Statement`;
* `readKey` — a key with its dots;
* `readForm?` — a value; lists and tables in braces hold values, down to a fixed depth;
* `statements?` — all statements of a document.
-/

namespace Vigil.Toml

/-- A value as it is written. -/
inductive Form where
  | word (w : Word)
  | list (items : List Form)
  | table (members : List (List Word × Form))

/-- One statement of a document. -/
inductive Statement where
  /-- A header, in single or doubled brackets. -/
  | header (repeated : Bool) (key : List Word)
  | assignment (key : List Word) (value : Form)

/-- What is behind blanks. -/
def skipBlanks : List Token → List Token
  | .blanks _ :: ts => skipBlanks ts
  | ts => ts

/-- What is behind blanks, comments and line breaks. -/
def skipGap : List Token → List Token
  | .blanks _ :: ts => skipGap ts
  | .comment :: ts => skipGap ts
  | .lineBreak :: ts => skipGap ts
  | ts => ts

/-- The words of a key, with dots between them and blanks around the dots, from the part `current`
on, and what is behind the key. -/
def keyFrom : Option Word → List Token → List Word × List Token
  | current, .blanks _ :: ts => keyFrom current ts
  | none, .word w :: ts => keyFrom (some w) ts
  | current, .dot :: ts =>
    let r := keyFrom none ts
    (current.getD .missing :: r.1, r.2)
  | current, ts => ([current.getD .missing], ts)

/-- A key in front of tokens. -/
def readKey (ts : List Token) : List Word × List Token := keyFrom none ts

/-- The word without quotes that pieces without quotes and dots make together, and what is behind it.
Blanks belong to it if a piece without quotes follows them. -/
def bareRun : List Token → List Char × List Token
  | .word ⟨.bare, s⟩ :: ts =>
    let r := bareRun ts
    (s ++ r.1, r.2)
  | .dot :: ts =>
    let r := bareRun ts
    ('.' :: r.1, r.2)
  | .blanks s :: .word ⟨.bare, s'⟩ :: ts =>
    let r := bareRun ts
    (s ++ s' ++ r.1, r.2)
  | ts => ([], ts)

/-- Values up to a closing bracket, with commas between them and perhaps behind the last one. -/
def readItems? (item : List Token → Option (Form × List Token)) :
    Nat → List Token → Option (List Form × List Token)
  | 0, _ => none
  | fuel + 1, ts =>
    match skipGap ts with
    | .closeBracket :: ts => some ([], ts)
    | ts =>
      match item ts with
      | none => none
      | some (v, ts) =>
        match skipGap ts with
        | .comma :: ts => (readItems? item fuel ts).map fun r => (v :: r.1, r.2)
        | .closeBracket :: ts => some ([v], ts)
        | _ => none

/-- Keys with values up to a closing brace, with commas between them and perhaps behind the last
one.  Line breaks may stand around all but the parts of a key.  Of the last key the value may be
missing, also together with its equals sign. -/
def readMembers? (item : List Token → Option (Form × List Token)) :
    Nat → List Token → Option (List (List Word × Form) × List Token)
  | 0, _ => none
  | fuel + 1, ts =>
    match skipGap ts with
    | .closeBrace :: ts => some ([], ts)
    | ts =>
      let (key, ts) := readKey ts
      match skipGap ts with
      | .equals :: ts =>
        match skipGap ts with
        | .closeBrace :: ts => some ([(key, .word .missing)], ts)
        | ts =>
          match item ts with
          | none => none
          | some (v, ts) =>
            match skipGap ts with
            | .comma :: ts => (readMembers? item fuel ts).map fun r => ((key, v) :: r.1, r.2)
            | .closeBrace :: ts => some ([(key, v)], ts)
            | _ => none
      | .closeBrace :: ts => some ([(key, .word .missing)], ts)
      | _ => none

/-- A value, with at most `depth` brackets and braces around what is innermost. -/
def readForm? (depth : Nat) (ts : List Token) : Option (Form × List Token) :=
  match ts with
  | .openBracket :: ts =>
    match depth with
    | 0 => none
    | depth + 1 =>
      (readItems? (readForm? depth) (ts.length + 1) ts).map fun r => (.list r.1, r.2)
  | .openBrace :: ts =>
    match depth with
    | 0 => none
    | depth + 1 =>
      (readMembers? (readForm? depth) (ts.length + 1) ts).map fun r => (.table r.1, r.2)
  | .word ⟨.bare, s⟩ :: ts =>
    let r := bareRun ts
    some (.word ⟨.bare, s ++ r.1⟩, r.2)
  | .word w :: ts => some (.word w, ts)
  | .dot :: ts =>
    let r := bareRun ts
    some (.word ⟨.bare, '.' :: r.1⟩, r.2)
  | _ => none
termination_by depth

/-- How deep brackets and braces may stand in one another. -/
def maxDepth : Nat := 80

/-- What is behind the rest of a line that holds nothing but blanks and a comment. -/
def afterLine? : List Token → Option (List Token)
  | [] => some []
  | .blanks _ :: ts => afterLine? ts
  | .comment :: ts => afterLine? ts
  | .lineBreak :: ts => some ts
  | _ => none

/-- What is behind the next line break. -/
def skipLine : List Token → List Token
  | [] => []
  | .lineBreak :: ts => ts
  | _ :: ts => skipLine ts

/-- A header, read behind its opening brackets up to the end of its line.  If its brackets are not
closed because the key breaks off, the rest of its line is not looked at. -/
def readHeader? (repeated : Bool) (ts : List Token) : Option (Statement × List Token) :=
  let (key, ts) := readKey ts
  let header := Statement.header repeated key
  match ts with
  | .closeBracket :: ts =>
    match repeated, ts with
    | false, ts => (afterLine? ts).map fun ts => (header, ts)
    | true, .closeBracket :: ts => (afterLine? ts).map fun ts => (header, ts)
    | true, _ => none
  | ts => if key.getLast? = some .missing then some (header, skipLine ts) else none

/-- An assignment, read up to the end of its line. -/
def readAssignment? (ts : List Token) : Option (Statement × List Token) :=
  match readKey ts with
  | (key, .equals :: ts) =>
    let value : Option (Form × List Token) :=
      match skipBlanks ts with
      | [] => some (.word .missing, [])
      | .comment :: ts => some (.word .missing, .comment :: ts)
      | .lineBreak :: ts => some (.word .missing, .lineBreak :: ts)
      | ts => readForm? maxDepth ts
    match value with
    | none => none
    | some (v, ts) => (afterLine? ts).map fun ts => (.assignment key v, ts)
  | _ => none

/-- The statement in front of tokens, of which the first is `t`. -/
def readStatement? (t : Token) (ts : List Token) : Option (Statement × List Token) :=
  match t, ts with
  | .openBracket, .openBracket :: ts => readHeader? true ts
  | .openBracket, ts => readHeader? false ts
  | t, ts => readAssignment? (t :: ts)

/-- The statements that tokens make, at most one for each unit of fuel. -/
def statementsWithin? : Nat → List Token → Option (List Statement)
  | 0, _ => some []
  | fuel + 1, ts =>
    match skipGap ts with
    | [] => some []
    | t :: ts =>
      match readStatement? t ts with
      | none => none
      | some (statement, ts) => (statementsWithin? fuel ts).map (statement :: ·)

/-- The statements of a document, which may begin with a byte order mark; none if its marks do not
go together. -/
def statements? (s : List Char) : Option (List Statement) :=
  let s := match s with
    | '\ufeff' :: s => s
    | s => s
  match tokens? s with
  | none => none
  | some ts => statementsWithin? (ts.length + 1) ts

end Vigil.Toml
