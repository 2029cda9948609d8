import GradleScript.Text.Hidden

/-!
# Quoted texts in messages

A message shows a text between double quotation marks, on one line and with nothing invisible in
it: a quotation mark, a backslash and the usual control characters are written with a backslash
and one more character, any other hidden character by its number.

## Main definitions

* `Text.escape`: how one character is written
* `Text.quote`: a text between quotation marks
-/

namespace GradleScript.Text

/-- The digits of a number in base 16, in small letters, without leading zeros. -/
def hexDigits (n : Nat) : List Char :=
  Nat.toDigits 16 n

/-- How one character is written between quotation marks. -/
def escape (c : Char) : List Char :=
  match c with
  | '\x00' => ['\\', '0']
  | '\t' => ['\\', 't']
  | '\n' => ['\\', 'n']
  | '\r' => ['\\', 'r']
  | '"' => ['\\', '"']
  | '\\' => ['\\', '\\']
  | c => if isHidden c then ['\\', 'u', '{'] ++ hexDigits c.toNat ++ ['}'] else [c]

/-- A text between quotation marks, as a message shows it. -/
def quote (text : String) : String :=
  String.ofList ('"' :: text.toList.flatMap escape ++ ['"'])

end GradleScript.Text
