import Vigil.Text.Hex
import Vigil.Text.Veiled

/-!
# Quoted text

A text between double quotes that shows every character it holds: a quote and a backslash are
escaped, the common controls have short names, every other veiled code point is written as its
hexadecimal number, and all else stands for itself (single quotes too).

* `quoteChar`, `quote` — the quoted form.
-/

namespace Vigil.Text

/-- How one character stands between the quotes. -/
def quoteChar (c : Char) : List Char :=
  match c with
  | '\x00' => ['\\', '0']
  | '\t' => ['\\', 't']
  | '\n' => ['\\', 'n']
  | '\r' => ['\\', 'r']
  | '"' => ['\\', '"']
  | '\\' => ['\\', '\\']
  | c => if isVeiled c then ['\\', 'u', '\x7b'] ++ hexDigits c.toNat ++ ['\x7d'] else [c]

/-- A text between double quotes, with everything in it made visible. -/
def quote (s : String) : String :=
  String.ofList ('"' :: s.toList.flatMap quoteChar ++ ['"'])

end Vigil.Text
