/-!
# Reports in JSON

Reports for other programs are written in JSON, with two spaces of indentation for each level.

## Main definitions

* `Report`: the values that reports are made of
* `Report.pretty`: the text of a value
-/

namespace GradleScript

/-- A value of a report. -/
inductive Report where
  | null
  | text (value : String)
  | list (items : List Report)
  | object (fields : List (String × Report))

namespace Report

/-- How one character is written in a JSON string: quotation mark, backslash and control
characters are escaped, everything else stands for itself. -/
def escape (c : Char) : List Char :=
  match c with
  | '"' => ['\\', '"']
  | '\\' => ['\\', '\\']
  | '\n' => ['\\', 'n']
  | '\r' => ['\\', 'r']
  | '\t' => ['\\', 't']
  | '\x08' => ['\\', 'b']
  | '\x0c' => ['\\', 'f']
  | c =>
    if c.toNat < 0x20 then
      ['\\', 'u', '0', '0', Nat.digitChar (c.toNat / 16), Nat.digitChar (c.toNat % 16)]
    else [c]

/-- A JSON string. -/
def string (value : String) : String :=
  String.ofList ('"' :: value.toList.flatMap escape ++ ['"'])

/-- A new line at depth `level`. -/
def newLine (level : Nat) : String :=
  "\n" ++ String.join (List.replicate level "  ")

/-- Items between brackets, each on a line of its own at depth `level + 1`; brackets without
items stand together. -/
def enclose (opening closing : Char) (level : Nat) : List String → String
  | [] => String.ofList [opening, closing]
  | items =>
    String.singleton opening ++ newLine (level + 1) ++
      ("," ++ newLine (level + 1)).intercalate items ++ (newLine level).push closing

mutual

/-- The text of a value at depth `level`. -/
def render (level : Nat) : Report → String
  | .null => "null"
  | .text value => string value
  | .list items => enclose '[' ']' level (renderItems (level + 1) items)
  | .object fields => enclose '{' '}' level (renderFields (level + 1) fields)

/-- The texts of the items of a list. -/
def renderItems (level : Nat) : List Report → List String
  | [] => []
  | item :: rest => render level item :: renderItems level rest

/-- The texts of the fields of an object. -/
def renderFields (level : Nat) : List (String × Report) → List String
  | [] => []
  | (key, value) :: rest => (string key ++ ": " ++ render level value) :: renderFields level rest

end

/-- The text of a value on lines of its own. -/
def pretty (value : Report) : String := render 0 value

end Report

end GradleScript
