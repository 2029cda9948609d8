import GradleScript.Decimal.Binary64

/-!
# The shortest decimal of a number in 64 bits

A number in 64 bits stands for all the decimals that are nearer to it than to any other such
number. It is written with the coarsest power of ten that has a multiple among them, as the
nearest such multiple, in positional notation with at least one place after the point.

## Main definitions

* `Decimal.shortest`: the digits and the power of ten
* `Decimal.positional`: a decimal without an exponent
-/

namespace GradleScript.Decimal

/-- The multiple of `10 ^ scale` that stands for `mantissa · 2 ^ exponent`, divided by
`10 ^ scale`; of the multiples right below and right above, the nearer one that rounds back to the
number, and the upper one if they are equally near. Rounding back includes the ends of the
interval when the mantissa is even. -/
def multiple? (mantissa : Nat) (exponent scale : Int) : Option Nat :=
  let quarter := twoTo (exponent - 2) * tenTo (-scale)
  let unit := twoTo (2 - exponent) * tenTo scale
  let value := 4 * mantissa * quarter
  let atPower := mantissa = twoTo 52 ∧ exponent > Binary64.minExponent
  let least := value - (if atPower then 1 else 2) * quarter
  let greatest := value + 2 * quarter
  let closed := mantissa % 2 = 0
  let below := value / unit
  let lower := below * unit
  let upper := (below + 1) * unit
  let lowerFits := if closed then least ≤ lower else least < lower
  let upperFits := if closed then upper ≤ greatest else upper < greatest
  if lowerFits ∧ (¬ upperFits ∨ value - lower < upper - value) then some below
  else if upperFits then some (below + 1)
  else none

/-- The powers of ten that are tried, the coarsest one first. -/
def scales : List Int :=
  (List.range 660).map fun (k : Nat) => 309 - (k : Int)

/-- Digits and a power of ten that stand for `mantissa · 2 ^ exponent`, with the coarsest power
of ten that can. -/
def shortest (mantissa : Nat) (exponent : Int) : Nat × Int :=
  (scales.findSome? fun s => (multiple? mantissa exponent s).map fun d => (d, s)).getD (0, 0)

/-- The digits of a number in base 10, with zeros in front up to `width` digits. -/
def padded (width n : Nat) : List Char :=
  let digits := Nat.toDigits 10 n
  List.replicate (width - digits.length) '0' ++ digits

/-- Digits without the zeros they end with. -/
def dropZeros (digits : List Char) : List Char :=
  (digits.reverse.dropWhile (· == '0')).reverse

/-- The number `digits · 10 ^ scale` with a point, at least one place after it, and neither an
exponent nor further final zeros. -/
def positional (digits : Nat) (scale : Int) : String :=
  let places := (-scale).toNat
  let all := padded (places + 1) (digits * tenTo scale)
  let whole := all.take (all.length - places)
  let part := dropZeros (all.drop (all.length - places))
  String.ofList (whole ++ '.' :: if part.isEmpty then ['0'] else part)

end GradleScript.Decimal
