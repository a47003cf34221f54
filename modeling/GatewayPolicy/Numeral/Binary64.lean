/-!
# Finite binary64 numbers

A number with a fraction or an exponent is kept as the IEEE 754 binary64 number nearest to it. Here
such a number is exact data: a sign, a significand and an exponent, standing for
`± significand * 2 ^ exponent`. Every operation computes with natural numbers and rounds once, to
nearest with ties to the even significand; a result beyond the largest finite number is refused.
-/

namespace GatewayPolicy

/-- A finite binary64 number `± significand * 2 ^ exponent`. The significand has 53 bits, or the
exponent is the least one. -/
structure Binary64 where
  /-- The sign; zero has one too. -/
  negative : Bool
  /-- The digits, below `2 ^ 53`. -/
  significand : Nat
  /-- The power of two of the last digit, from -1074 to 971. -/
  exponent : Int
  deriving DecidableEq, Repr

namespace Binary64

/-- The number of bits of a full significand. -/
def precision : Nat := 53

/-- The least exponent. -/
def minExponent : Int := -1074

/-- The greatest exponent. -/
def maxExponent : Int := 971

/-- Zero with the given sign. -/
def zero (negative : Bool) : Binary64 := ⟨negative, 0, minExponent⟩

/-- The number is zero, of either sign. -/
def isZero (x : Binary64) : Bool := x.significand == 0

/-- Numerator of `num / den` after division by `2 ^ e`. -/
def scaledNum (num : Nat) (e : Int) : Nat := num * Nat.pow 2 (-e).toNat

/-- Denominator of `num / den` after division by `2 ^ e`. -/
def scaledDen (den : Nat) (e : Int) : Nat := den * Nat.pow 2 e.toNat

/-- The greatest `k` with `2 ^ k ≤ num / den`, for positive numerator and denominator. -/
def floorLog2 (num den : Nat) : Int :=
  let k : Int := (num.log2 : Int) - den.log2
  if scaledDen den k ≤ scaledNum num k then k else k - 1

/-- The quotient rounded to nearest, a half going to the even neighbour. -/
def roundDiv (num den : Nat) : Nat :=
  let q := num / den
  let r := num % den
  if den < 2 * r || (2 * r == den && q % 2 == 1) then q + 1 else q

/-- The binary64 number nearest to `± num / den`; none if it would not be finite. -/
def ofRatio? (negative : Bool) (num den : Nat) : Option Binary64 :=
  if num = 0 then some (zero negative)
  else
    let e := max (floorLog2 num den - (precision - 1)) minExponent
    let m := roundDiv (scaledNum num e) (scaledDen den e)
    let (m, e) := if m = Nat.pow 2 precision then (Nat.pow 2 (precision - 1), e + 1) else (m, e)
    if e ≤ maxExponent then some ⟨negative, m, e⟩ else none

/-- Numerator of the magnitude. -/
def num (x : Binary64) : Nat := x.significand * Nat.pow 2 x.exponent.toNat

/-- Denominator of the magnitude. -/
def den (x : Binary64) : Nat := Nat.pow 2 (-x.exponent).toNat

/-- The product, rounded once. -/
def mul? (x y : Binary64) : Option Binary64 :=
  ofRatio? (x.negative != y.negative) (x.num * y.num) (x.den * y.den)

/-- The quotient by a number that is not zero, rounded once. -/
def div? (x y : Binary64) : Option Binary64 :=
  ofRatio? (x.negative != y.negative) (x.num * y.den) (x.den * y.num)

end Binary64

end GatewayPolicy
