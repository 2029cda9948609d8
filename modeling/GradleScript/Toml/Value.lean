import GradleScript.Toml.DateTime

/-!
# Values of a TOML document

A document is a table of values; a value is a scalar, an array or a table. Every value and every
key knows where in the text it stands, and every table how it came to be, since that decides what
may be added to it later.

## Main definitions

* `Toml.Value`: the values
* `Toml.Entries`: the keys of a table with their values, in the order of the text
-/

namespace GradleScript.Toml

/-- A stretch of a text, counted in bytes. -/
structure Span where
  offset : Nat
  length : Nat
  deriving DecidableEq, Repr

/-- The stretch between two offsets. -/
def Span.between (start stop : Nat) : Span := ⟨start, stop - start⟩

/-- A number with a point or an exponent, as it is written. -/
inductive FloatNumber where
  | nan
  | infinity (negative : Bool)
  /-- The number `digits · 10 ^ scale`. -/
  | decimal (negative : Bool) (digits : Nat) (scale : Int)
  deriving DecidableEq, Repr

/-- A value without parts. -/
inductive Scalar where
  | text (value : String)
  /-- A whole number of any size; it has no value if a radix is announced and no digit follows, or
  if a digit does not belong to the radix. -/
  | integer (value : Option Int)
  | float (value : FloatNumber)
  | boolean (value : Bool)
  | dateTime (value : DateTime)
  deriving DecidableEq, Repr

/-- How a table came to be. -/
inductive Origin where
  /-- By a header of its own; so did the document itself. -/
  | header
  /-- By the header of a table inside it. -/
  | implied
  /-- By a dotted key. -/
  | dotted
  /-- In braces. -/
  | inline
  deriving DecidableEq, Repr

/-- A key, or one part of a dotted key. -/
structure Key where
  name : String
  span : Span
  deriving DecidableEq, Repr

/-- A value of a document. -/
inductive Value where
  | scalar (span : Span) (value : Scalar)
  /-- A list of values. `ofTables` tells an array made by headers from one in brackets. -/
  | array (span : Span) (ofTables : Bool) (items : List Value)
  | table (span : Span) (origin : Origin) (entries : List (Key × Value))

/-- The keys of a table with their values, in the order of their first mention. -/
abbrev Entries := List (Key × Value)

/-- Where a value stands in the text. -/
def Value.span : Value → Span
  | .scalar span _ => span
  | .array span _ _ => span
  | .table span _ _ => span

namespace Entries

/-- The value of a key. -/
def get? (name : String) (entries : Entries) : Option Value :=
  (entries.find? fun e => e.1.name == name).map (·.2)

/-- The entries with a new value for a key that they have. -/
def set (name : String) (value : Value) (entries : Entries) : Entries :=
  entries.map fun e => if e.1.name = name then (e.1, value) else e

/-- The entries without a key. -/
def erase (name : String) (entries : Entries) : Entries :=
  entries.filter fun e => e.1.name != name

/-- The entries with one more at the end. -/
def add (key : Key) (value : Value) (entries : Entries) : Entries :=
  entries ++ [(key, value)]

@[simp] theorem get?_nil (name : String) : get? name [] = none := rfl

theorem get?_cons (name : String) (e : Key × Value) (entries : Entries) :
    get? name (e :: entries) = if e.1.name = name then some e.2 else get? name entries := by
  by_cases h : e.1.name = name <;> simp [get?, h]

theorem get?_add (name : String) (key : Key) (value : Value) (entries : Entries) :
    get? name (entries.add key value) =
      (get? name entries).or (if key.name = name then some value else none) := by
  induction entries with
  | nil => simp [add, get?_cons]
  | cons e rest ih =>
    simp only [add, List.cons_append, get?_cons] at ih ⊢
    split
    · simp
    · exact ih

end Entries

end GradleScript.Toml
