/-!
# Lines of a text

A text is cut into lines at its newlines. A newline ends a line and does not start another one,
so a final newline adds no empty line; a carriage return right before a newline belongs to the
end of the line and is dropped with it. Any other carriage return is text.

## Main definitions

* `Text.lineChars`, `Text.lines`: the lines of a text
-/

namespace GradleScript.Text

/-- The lines of a text given as characters. -/
def lineChars : List Char → List (List Char)
  | [] => []
  | '\n' :: rest => [] :: lineChars rest
  | '\r' :: '\n' :: rest => [] :: lineChars rest
  | c :: rest =>
    match lineChars rest with
    | [] => [[c]]
    | line :: others => (c :: line) :: others

/-- The lines of a text. -/
def lines (text : String) : List String :=
  (lineChars text.toList).map String.ofList

@[simp] theorem lineChars_nil : lineChars [] = [] := by
  simp [lineChars]

@[simp] theorem lineChars_newline (rest : List Char) :
    lineChars ('\n' :: rest) = [] :: lineChars rest := by
  simp [lineChars]

@[simp] theorem lineChars_return_newline (rest : List Char) :
    lineChars ('\r' :: '\n' :: rest) = [] :: lineChars rest := by
  simp [lineChars]

@[simp] theorem lines_empty : lines "" = [] := by
  simp [lines]

end GradleScript.Text
