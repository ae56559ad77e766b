import Vigil.Text.Hex

/-!
# JSON strings and layout

A JSON string escapes the quote, the backslash and the controls below U+0020, five of them by
name and the others by four hexadecimal digits; every other character stands for itself.

* `jsonChar`, `jsonString` — the string;
* `jsonArray`, `jsonObject` — members that are JSON already, without spaces.
-/

namespace Vigil.Text

/-- How one character stands in a JSON string. -/
def jsonChar (c : Char) : List Char :=
  match c with
  | '"' => ['\\', '"']
  | '\\' => ['\\', '\\']
  | '\x08' => ['\\', 'b']
  | '\x0c' => ['\\', 'f']
  | '\n' => ['\\', 'n']
  | '\r' => ['\\', 'r']
  | '\t' => ['\\', 't']
  | c =>
    if c.toNat < 0x20 then
      ['\\', 'u', '0', '0', hexDigit (c.toNat / 16), hexDigit c.toNat]
    else [c]

/-- A JSON string. -/
def jsonString (s : String) : String :=
  String.ofList ('"' :: s.toList.flatMap jsonChar ++ ['"'])

/-- A JSON array of members that are written already. -/
def jsonArray (members : List String) : String :=
  "[" ++ ",".intercalate members ++ "]"

/-- A JSON object of values that are written already. -/
def jsonObject (members : List (String × String)) : String :=
  "\x7b" ++ ",".intercalate (members.map fun m => jsonString m.1 ++ ":" ++ m.2) ++ "\x7d"

end Vigil.Text
