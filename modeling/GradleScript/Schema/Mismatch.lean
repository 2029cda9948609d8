import GradleScript.Decimal.Shortest
import GradleScript.Text.Quoted
import GradleScript.Toml.Value

/-!
# How a document fails to fit

A mismatch is the first place at which a document does not have the form that is asked for, and
what is wrong there.

## Main definitions

* `Mismatch`: a place with what is wrong there
* `Fault.message`: what is said about it
-/

namespace GradleScript

open Toml

/-- A number with a point, without an exponent; nothing if it is too large for 64 bits. -/
def Toml.FloatNumber.text? : FloatNumber → Option String
  | .nan => some "NaN"
  | .infinity negative => some (if negative then "-inf" else "inf")
  | .decimal negative digits scale =>
    let sign := if negative then "-" else ""
    match Binary64.ofDecimal digits scale with
    | .overflow => none
    | .zero => some (sign ++ Decimal.positional 0 0)
    | .positive mantissa exponent =>
      let (digits, scale) := Decimal.shortest mantissa exponent
      some (sign ++ Decimal.positional digits scale)

/-- Something found where something else is wanted. -/
inductive Found where
  | text (value : String)
  | integer (value : Int)
  | float (numeral : String)
  | boolean (value : Bool)
  | sequence
  | map
  deriving DecidableEq, Repr

/-- What is wrong at a place of a document. -/
inductive Fault where
  /-- A value is of the wrong kind. -/
  | wrongType (found : Found) (wanted : String)
  /-- A whole number is outside the range that is wanted. -/
  | outOfRange (value : Int) (wanted : String)
  /-- A whole number does not fit in 128 bits, or has no digits. -/
  | integerOverflow
  /-- A number with a point is too large for 64 bits. -/
  | floatOverflow
  /-- A key is not among the known ones. -/
  | unknownField (name : String) (known : List String)
  /-- A key appears twice. -/
  | repeatedField (name : String)
  /-- A key is not there. -/
  | missingField (name : String)
  /-- An array ends before its last required item. -/
  | wrongLength (length : Nat) (record : String) (fields : Nat)
  deriving DecidableEq, Repr

/-- A place of a document with what is wrong there. -/
structure Mismatch where
  fault : Fault
  span : Span
  deriving DecidableEq, Repr

/-- Whether a whole number fits in 64 bits, with or without a sign. -/
def fits64 (n : Int) : Bool :=
  -twoTo 63 ≤ n && n < twoTo 64

/-- Whether a whole number fits in 128 bits with a sign. -/
def fitsSigned128 (n : Int) : Bool :=
  -twoTo 127 ≤ n && n < twoTo 127

/-- Whether a whole number fits in 128 bits, with or without a sign. -/
def fits128 (n : Int) : Bool :=
  -twoTo 127 ≤ n && n < twoTo 128

/-- A whole number as a message names it: one that does not fit in 64 bits is named with its
width. -/
def integerText (n : Int) : String :=
  "integer `" ++ toString n ++ "`" ++
    if fits64 n then "" else if fitsSigned128 n then " as i128" else " as u128"

/-- What was found, as a message names it. -/
def Found.label : Found → String
  | .text value => "string " ++ Text.quote value
  | .integer value => integerText value
  | .float numeral => "floating point `" ++ numeral ++ "`"
  | .boolean value => "boolean `" ++ toString value ++ "`"
  | .sequence => "sequence"
  | .map => "map"

/-- A name between backticks. -/
def ticked (name : String) : String := "`" ++ name ++ "`"

/-- The names that are known, as a message lists them. -/
def knownText : List String → String
  | [] => "there are no fields"
  | [a] => "expected " ++ ticked a
  | [a, b] => "expected " ++ ticked a ++ " or " ++ ticked b
  | names => "expected one of " ++ ", ".intercalate (names.map ticked)

/-- What is said about a fault. -/
def Fault.message : Fault → String
  | .wrongType found wanted => "invalid type: " ++ found.label ++ ", expected " ++ wanted
  | .outOfRange value wanted => "invalid value: " ++ integerText value ++ ", expected " ++ wanted
  | .integerOverflow => "integer number overflowed"
  | .floatOverflow => "floating-point number overflowed"
  | .unknownField name known => "unknown field " ++ ticked name ++ ", " ++ knownText known
  | .repeatedField name => "duplicate field " ++ ticked name
  | .missingField name => "missing field " ++ ticked name
  | .wrongLength length record fields =>
    "invalid length " ++ toString length ++ ", expected struct " ++ record ++ " with " ++
      toString fields ++ " element" ++ if fields = 1 then "" else "s"

/-- What is wrong with a value where something else is wanted: a number that cannot be held is
wrong wherever it stands, any other value has the wrong kind. A date or time counts as a map. -/
def Toml.Value.unwanted (wanted : String) : Value → Mismatch
  | .scalar span (.text s) => ⟨.wrongType (.text s) wanted, span⟩
  | .scalar span (.integer none) => ⟨.integerOverflow, span⟩
  | .scalar span (.integer (some n)) =>
    if fits128 n then ⟨.wrongType (.integer n) wanted, span⟩ else ⟨.integerOverflow, span⟩
  | .scalar span (.float x) =>
    match x.text? with
    | some numeral => ⟨.wrongType (.float numeral) wanted, span⟩
    | none => ⟨.floatOverflow, span⟩
  | .scalar span (.boolean b) => ⟨.wrongType (.boolean b) wanted, span⟩
  | .scalar span (.dateTime _) => ⟨.wrongType .map wanted, span⟩
  | .array span _ _ => ⟨.wrongType .sequence wanted, span⟩
  | .table span _ _ => ⟨.wrongType .map wanted, span⟩

end GradleScript
