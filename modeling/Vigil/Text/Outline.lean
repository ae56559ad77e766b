/-!
# Outlines: how a value introduces itself

Values are shown on one line as their name with their parts in braces, and lists in brackets.

* `listOutline` — `[a, b]`;
* `outline` — `Name { part: text, part: text }`, or with `..` behind the parts when some are not
  shown.
-/

namespace Vigil.Text

/-- Texts in brackets, with a comma and a space between them. -/
def listOutline (items : List String) : String :=
  "[" ++ ", ".intercalate items ++ "]"

/-- A name with named parts in braces. -/
def outline (name : String) (parts : List (String × String)) : String :=
  name ++ " \x7b " ++ ", ".intercalate (parts.map fun p => p.1 ++ ": " ++ p.2) ++ " \x7d"

/-- A name with the parts that are shown; the two dots stand for those that are not. -/
def partialOutline (name : String) (parts : List (String × String)) : String :=
  name ++ " \x7b " ++ ", ".intercalate ((parts.map fun p => p.1 ++ ": " ++ p.2) ++ [".."])
    ++ " \x7d"

/-- An optional part. -/
def optionOutline : Option String → String
  | none => "None"
  | some text => "Some(" ++ text ++ ")"

end Vigil.Text
