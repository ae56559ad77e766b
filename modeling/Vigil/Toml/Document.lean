import Vigil.Toml.Statement
import Vigil.Toml.Scalar
import Vigil.Toml.Tree

/-!
# Documents

What the statements of a document say, in order: words are read as keys and values, and values are
put into the tree of tables.  The first flaw ends the reading.  That the statements are statements at
all is settled before for the whole document, so a flaw of form anywhere comes first.

* `Flaw` — what can be wrong with a document;
* `Word.key?`, `readPath` — words as keys; `Form.value` — what is written as a value;
* `Place`, `Draft` — a document half read;
* `readDocument` — all of a document.
-/

namespace Vigil.Toml

/-- What is wrong with a document. -/
inductive Flaw where
  /-- It is malformed, or says two things about the same. -/
  | malformed
  /-- A key has too many parts. -/
  | longKey
deriving DecidableEq, Repr

/-- What is there, or a flaw of form. -/
def orMalformed {α : Type} : Option α → Except Flaw α
  | some a => .ok a
  | none => .error .malformed

/-- A character of a key without quotes. -/
def isKeyChar (c : Char) : Bool := c.isAlphanum || c == '_' || c == '-'

/-- The part of a key that a word says. -/
def Word.key? (w : Word) : Option Key :=
  match w.quoting with
  | .bare => if w.text != [] && w.text.all isKeyChar then some w.text else none
  | .basic => w.quoted?
  | .literal => w.quoted?
  | _ => none

/-- The value that a word says. -/
def Word.value? (w : Word) : Option Value :=
  match w.quoting with
  | .bare => readScalar? w.text
  | _ => w.quoted?.map .text

/-- How many parts a key may have. -/
def maxParts : Nat := 80

/-- The key that words say.  Its length is looked at when every part is known to be one. -/
def readPath (words : List Word) : Except Flaw (List Key) := do
  let path ← orMalformed (words.mapM Word.key?)
  if maxParts < path.length then .error .longKey else .ok path

mutual

/-- What is written as a value. -/
def Form.value : Form → Except Flaw Value
  | .word w => orMalformed w.value?
  | .list items => do return .array (← Form.values items)
  | .table members => do return .table .inline (← Form.members [] members)

/-- What is written in a list. -/
def Form.values : List Form → Except Flaw (List Value)
  | [] => .ok []
  | form :: forms => do
    let v ← form.value
    return v :: (← Form.values forms)

/-- What is written in a table in braces, put into `ms`. -/
def Form.members (ms : Members) : List (List Word × Form) → Except Flaw Members
  | [] => .ok ms
  | (words, form) :: rest => do
    let key ← readPath words
    let v ← form.value
    Form.members (← orMalformed (ms.set? v key)) rest

end

/-- Where the keys of an assignment stand. -/
inductive Place where
  /-- In the table of the tree that a path leads to. -/
  | within (path : List Key)
  /-- In a new element of the list of tables at a path.  It joins the tree when it is complete. -/
  | element (path : List Key) (members : Members)

/-- A document read up to some statement. -/
structure Draft where
  root : Members := []
  place : Place := .within []

/-- The tree when no further keys come to the present place. -/
def Draft.complete (d : Draft) : Except Flaw Members :=
  match d.place with
  | .within _ => .ok d.root
  | .element path members => orMalformed (d.root.atHeader? (Members.addElement? members) path)

/-- What a statement makes of a document. -/
def Draft.apply (d : Draft) : Statement → Except Flaw Draft
  | .header repeated words => do
    let root ← d.complete
    let path ← readPath words
    if repeated then return ⟨root, .element path []⟩
    else return ⟨← orMalformed (root.atHeader? Members.openTable? path), .within path⟩
  | .assignment words form => do
    let key ← readPath words
    let v ← form.value
    match d.place with
    | .within path =>
      return ⟨← orMalformed (d.root.descend? (Members.set? v key) path), .within path⟩
    | .element path members => return ⟨d.root, .element path (← orMalformed (members.set? v key))⟩

/-- The tables of a document. -/
def readDocument (s : List Char) : Except Flaw Members :=
  match statements? s with
  | none => .error .malformed
  | some statements => do (← statements.foldlM Draft.apply {}).complete

end Vigil.Toml
