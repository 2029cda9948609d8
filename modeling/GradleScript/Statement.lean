import GradleScript.Indent

/-!
# Statements of a build script

A script is a list of statements. A statement is a line of text, a key with its value, or a named
block of further statements. Rendering is a function of the statements and the indentation unit
alone.

## Main definitions

* `Statement.render`, `Script.render`: the text of a statement and of a script
* `findBlock`: the children of the first block of a name
* `doubleQuoted`, `singleQuoted`: a text between quotation marks
-/

namespace GradleScript

/-- One statement of a build script. -/
inductive Statement where
  /-- A line of text that is written as it stands. -/
  | line (text : String)
  /-- A key and its value, as in `minSdkVersion 21`. -/
  | keyValue (key value : String)
  /-- A named block of statements in braces. -/
  | block (name : String) (children : List Statement)
  deriving Repr

namespace Statement

mutual

/-- Statements can be compared. -/
def decEq : (a b : Statement) → Decidable (a = b)
  | .line s, .line t => decidable_of_iff (s = t) (by simp)
  | .keyValue k v, .keyValue l w => decidable_of_iff (k = l ∧ v = w) (by simp)
  | .block m as, .block n bs =>
    have := decEqList as bs
    decidable_of_iff (m = n ∧ as = bs) (by simp)
  | .line .., .keyValue .. => isFalse (by simp)
  | .line .., .block .. => isFalse (by simp)
  | .keyValue .., .line .. => isFalse (by simp)
  | .keyValue .., .block .. => isFalse (by simp)
  | .block .., .line .. => isFalse (by simp)
  | .block .., .keyValue .. => isFalse (by simp)

/-- Lists of statements can be compared. -/
def decEqList : (as bs : List Statement) → Decidable (as = bs)
  | [], [] => isTrue rfl
  | [], _ :: _ => isFalse (by simp)
  | _ :: _, [] => isFalse (by simp)
  | a :: as, b :: bs =>
    have := decEq a b
    have := decEqList as bs
    decidable_of_iff (a = b ∧ as = bs) (by simp)

end

instance : DecidableEq Statement := decEq

/-- What a block starts with, after the indentation. -/
def opening (name : String) : String := name ++ " ".push '{'

/-- What a block ends with, after the indentation. -/
def closing : String := String.singleton '}'

mutual

/-- The text of a statement at depth `level`. The children of a block stand one unit deeper, one
below the other; a block without children keeps an empty line between its braces. -/
def render (indent : Indent) (level : Nat) : Statement → String
  | .line text => indent.times level ++ text
  | .keyValue key value => indent.times level ++ key ++ " " ++ value
  | .block name children =>
    indent.times level ++ opening name ++ "\n" ++
      "\n".intercalate (renderAll indent (level + 1) children) ++
      "\n" ++ indent.times level ++ closing

/-- The texts of several statements at one depth. -/
def renderAll (indent : Indent) (level : Nat) : List Statement → List String
  | [] => []
  | s :: rest => render indent level s :: renderAll indent level rest

end

theorem renderAll_eq_map (indent : Indent) (level : Nat) (statements : List Statement) :
    renderAll indent level statements = statements.map (render indent level) := by
  induction statements with
  | nil => simp [renderAll]
  | cons s rest ih => simp [renderAll, ih]

end Statement

/-- The children of the first block named `name`, if there is such a block. -/
def findBlock (name : String) : List Statement → Option (List Statement)
  | [] => none
  | .block n children :: rest => if n = name then some children else findBlock name rest
  | .line _ :: rest => findBlock name rest
  | .keyValue _ _ :: rest => findBlock name rest

/-- The list of statements of one build script. -/
structure Script where
  statements : List Statement
  deriving DecidableEq, Repr

namespace Script

/-- The text of a script: its statements at depth 0, one below the other, with no final newline. -/
def render (script : Script) (indent : Indent) : String :=
  "\n".intercalate (Statement.renderAll indent 0 script.statements)

/-- The children of the first top-level block named `name`. -/
def block? (script : Script) (name : String) : Option (List Statement) :=
  findBlock name script.statements

end Script

/-- The text between double quotation marks; nothing in it is escaped. -/
def doubleQuoted (text : String) : String :=
  "\"" ++ text ++ "\""

/-- The text between single quotation marks; nothing in it is escaped. -/
def singleQuoted (text : String) : String :=
  "'" ++ text ++ "'"

end GradleScript
