/-!
# Decimal numbers in 64 bits

A decimal number is held in 64 bits as the nearest `mantissa · 2 ^ exponent` with a mantissa of at
most 53 bits; of two that are equally near, the one with the even mantissa. Everything is computed
exactly, in natural numbers.

## Main definitions

* `twoTo`, `tenTo`: powers of two and of ten
* `Binary64`: zero, a positive number, or a number too large to be held
* `Binary64.ofDecimal`: the number nearest to a decimal one
-/

namespace GradleScript

/-- The power `2 ^ n`; 1 if `n` is negative. -/
def twoTo (n : Int) : Nat := Nat.pow 2 n.toNat

/-- The power `10 ^ n`; 1 if `n` is negative. -/
def tenTo (n : Int) : Nat := Nat.pow 10 n.toNat

/-- A number without its sign, as 64 bits hold it. -/
inductive Binary64 where
  | zero
  /-- The number `mantissa · 2 ^ exponent`. The mantissa has 53 bits, or fewer if the exponent is
  the least one. -/
  | positive (mantissa : Nat) (exponent : Int)
  /-- More than the largest number that can be held. -/
  | overflow
  deriving DecidableEq, Repr

namespace Binary64

/-- The least exponent. -/
def minExponent : Int := -1074

/-- The greatest exponent. -/
def maxExponent : Int := 971

/-- The integer nearest to `num / den`; a half goes to the even neighbour. -/
def roundHalfEven (num den : Nat) : Nat :=
  let below := num / den
  let rest := 2 * (num % den)
  if rest > den ∨ (rest = den ∧ below % 2 = 1) then below + 1 else below

/-- The greatest `e` with `2 ^ e ≤ num / den`, for positive `num` and `den`. -/
def floorLog2 (num den : Nat) : Int :=
  let e : Int := (Nat.log2 num : Int) - Nat.log2 den
  if num * twoTo (-e) < den * twoTo e then e - 1 else e

/-- The number nearest to `num / den`, for positive `num` and `den`. -/
def ofFraction (num den : Nat) : Binary64 :=
  let e := max (floorLog2 num den - 52) minExponent
  let m := roundHalfEven (num * twoTo (-e)) (den * twoTo e)
  let (m, e) := if m = twoTo 53 then (twoTo 52, e + 1) else (m, e)
  if m = 0 then .zero else if e > maxExponent then .overflow else .positive m e

/-- The number nearest to `digits · 10 ^ scale`. Numbers from `10 ^ 310` on are too large and
numbers below `10 ^ (-330)` are nearest to zero, so their powers of ten are never computed. -/
def ofDecimal (digits : Nat) (scale : Int) : Binary64 :=
  if digits = 0 then .zero
  else
    let magnitude : Int := (Nat.toDigits 10 digits).length + scale
    if magnitude > 310 then .overflow
    else if magnitude < -330 then .zero
    else ofFraction (digits * tenTo scale) (tenTo (-scale))

end Binary64

end GradleScript
