import GradleScript.Toml.Value

/-!
# Scalars without quotation marks

What a value without quotation marks and brackets stands for: a truth value, a number, a date or
a time. Underscores may stand between the digits of a number and do not count.

## Main definitions

* `Scalar.ofChars?`: the scalar that a text writes
-/

namespace GradleScript.Toml

/-- Whether a character is a digit in base 16. -/
def isHexDigit (c : Char) : Bool :=
  c.isDigit || ('a' ≤ c && c ≤ 'f') || ('A' ≤ c && c ≤ 'F')

/-- The value of a digit in base 16. -/
def hexValue (c : Char) : Nat :=
  if c.isDigit then c.toNat - '0'.toNat
  else if 'a' ≤ c then c.toNat - 'a'.toNat + 10
  else c.toNat - 'A'.toNat + 10

namespace Numeral

/-- The text after the character `before` without its underscores. An underscore needs a digit on
each side of it. -/
def joinAfter (isDigit : Char → Bool) (before : Char) : List Char → Option (List Char)
  | [] => some []
  | ['_'] => none
  | '_' :: c :: rest =>
    if isDigit before && isDigit c then (joinAfter isDigit c rest).map (c :: ·) else none
  | c :: rest => (joinAfter isDigit c rest).map (c :: ·)

/-- A number without its underscores, if they are where they may be. -/
def join? (isDigit : Char → Bool) : List Char → Option (List Char)
  | [] => some []
  | '_' :: _ => none
  | c :: rest => (joinAfter isDigit c rest).map (c :: ·)

/-- Whether a number has more than one digit and starts with zero. -/
def hasLeadingZero : List Char → Bool
  | '0' :: _ :: _ => true
  | _ => false

/-- The number that digits write in some base, if there is a digit and all belong to the base. -/
def natOfDigits? (base : Nat) (digits : List Char) : Option Nat :=
  if digits.isEmpty then none
  else if digits.all fun c => isHexDigit c && hexValue c < base then
    some (digits.foldl (fun n c => base * n + hexValue c) 0)
  else none

/-- The whole number that a sign and decimal digits write. -/
def intOfDigits? : List Char → Option Int
  | '-' :: digits => (natOfDigits? 10 digits).map fun n => -(n : Int)
  | '+' :: digits => (natOfDigits? 10 digits).map fun n => (n : Int)
  | digits => (natOfDigits? 10 digits).map fun n => (n : Int)

/-- The whole number of a text in base 10, whose digits without the sign are given too. -/
def integer? (text unsigned : List Char) : Option Scalar :=
  if hasLeadingZero unsigned then none
  else (join? isHexDigit text).map fun digits => .integer (intOfDigits? digits)

/-- The whole number of digits in another base. -/
def radix? (base : Nat) (digits : List Char) : Option Scalar :=
  if digits.all fun c => c = '_' || (isHexDigit c && hexValue c < base) then
    (join? isHexDigit digits).map fun ds =>
      .integer ((natOfDigits? base ds).map fun n => (n : Int))
  else none

/-- A run of digits and underscores, without its underscores, and what follows it. -/
def digitRun (cs : List Char) : List Char × List Char :=
  ((cs.takeWhile fun c => c.isDigit || c = '_').filter Char.isDigit,
    cs.dropWhile fun c => c.isDigit || c = '_')

/-- Reads the places after a point, if there is one. -/
def readPlaces? : List Char → Option (List Char × List Char)
  | '.' :: cs =>
    let (digits, rest) := digitRun cs
    if digits.isEmpty then none else some (digits, rest)
  | cs => some ([], cs)

/-- Reads the digits of an exponent. -/
def readExponentDigits? (cs : List Char) : Option (Nat × List Char) :=
  let (digits, rest) := digitRun cs
  if digits.isEmpty then none else some (decimalValue digits, rest)

/-- Reads an exponent with its letter, if there is one. -/
def readExponent? : List Char → Option (Int × List Char)
  | [] => some (0, [])
  | c :: cs =>
    if c = 'e' ∨ c = 'E' then
      match cs with
      | '-' :: cs => (readExponentDigits? cs).map fun p => (-(p.1 : Int), p.2)
      | '+' :: cs => (readExponentDigits? cs).map fun p => ((p.1 : Int), p.2)
      | cs => (readExponentDigits? cs).map fun p => ((p.1 : Int), p.2)
    else some (0, c :: cs)

/-- The number with a point or an exponent that a text writes. The text without its sign is given
too. -/
def float? (text unsigned : List Char) : Option Scalar := do
  let (whole, cs) := digitRun unsigned
  if whole.isEmpty || hasLeadingZero whole then none
  let (places, cs) ← readPlaces? cs
  let (exponent, cs) ← readExponent? cs
  if !cs.isEmpty then none
  let _ ← join? Char.isDigit text
  some (.float (.decimal (text.head? == some '-') (decimalValue (whole ++ places))
    (exponent - places.length)))

/-- The number, date or time of a text. The text without its sign is given too; what follows its
first digits tells which it is. -/
def number? (text unsigned : List Char) : Option Scalar :=
  match unsigned.dropWhile Char.isDigit with
  | [] => integer? text unsigned
  | c :: rest =>
    if c = '-' ∨ c = ':' then (DateTime.parse? text).map .dateTime
    else if rest.contains ' ' || c = ' ' then none
    else if (c :: rest).any fun d => d = '.' || d = 'e' || d = 'E' then float? text unsigned
    else if c = '_' then integer? text unsigned
    else none

/-- The number of a text that starts with zero after its sign. A letter after the zero announces
a radix, which goes with no sign. -/
def zero? (text unsigned : List Char) (signed : Bool) : Option Scalar :=
  match unsigned.drop 1 with
  | 'x' :: digits => if signed then none else radix? 16 digits
  | 'o' :: digits => if signed then none else radix? 8 digits
  | 'b' :: digits => if signed then none else radix? 2 digits
  | _ => number? text unsigned

/-- The number of a text with a sign, which is given without it too. -/
def signed? (text unsigned : List Char) : Option Scalar :=
  match unsigned with
  | [] => none
  | c :: _ =>
    if c = '0' then zero? text unsigned true
    else if c.isDigit || c = '_' then number? text unsigned
    else if unsigned = ['i', 'n', 'f'] then some (.float (.infinity (text.head? == some '-')))
    else if unsigned = ['n', 'a', 'n'] then some (.float .nan)
    else none

end Numeral

/-- The scalar that a text without quotation marks writes. -/
def Scalar.ofChars? (text : List Char) : Option Scalar :=
  match text with
  | [] => none
  | c :: rest =>
    if c = '+' ∨ c = '-' then Numeral.signed? text rest
    else if c = '0' then Numeral.zero? text text false
    else if c.isDigit then Numeral.number? text text
    else if text = ['t', 'r', 'u', 'e'] then some (.boolean true)
    else if text = ['f', 'a', 'l', 's', 'e'] then some (.boolean false)
    else if text = ['i', 'n', 'f'] then some (.float (.infinity false))
    else if text = ['n', 'a', 'n'] then some (.float .nan)
    else none

end GradleScript.Toml
