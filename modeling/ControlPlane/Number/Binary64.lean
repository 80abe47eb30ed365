import ControlPlane.Number.Power

/-!
# Finite binary64 numbers

A finite binary64 number is a sign, a mantissa and an exponent of two, and stands for
`mantissa * 2 ^ exponent`. Each operation computes its exact result as a quotient of natural
numbers and rounds once, to the nearest representable number, a half going to the even
neighbour. A result too large for the format is `none`: the numbers of this library are never
infinite.
-/
namespace ControlPlane

/-- Round a quotient to the nearest whole number, a half going to the even neighbour. -/
def roundHalfEven (numerator denominator : Nat) : Nat :=
  let quotient := numerator / denominator
  let doubled := 2 * (numerator % denominator)
  if doubled < denominator then quotient
  else if denominator < doubled then quotient + 1
  else if quotient % 2 = 0 then quotient else quotient + 1

/-- A finite binary64 number. -/
structure Binary64 where
  /-- Whether the sign is negative; zero has both signs. -/
  negative : Bool
  /-- The significant bits, below `2 ^ 53`. -/
  mantissa : Nat
  /-- The power of two, from `-1074` to `971`. -/
  exponent : Int
deriving DecidableEq, Repr

namespace Binary64

/-- The least exponent, shared by zero and the subnormal numbers. -/
def leastExponent : Int := -1074

/-- The greatest exponent of a finite number. -/
def greatestExponent : Int := 971

/-- Zero of either sign. -/
def zero (negative : Bool) : Binary64 := ⟨negative, 0, leastExponent⟩

/-- A quotient divided by a power of two. -/
def scaleDown (numerator denominator : Nat) (exponent : Int) : Nat × Nat :=
  if 0 ≤ exponent then (numerator, denominator * twoTo exponent.toNat)
  else (numerator * twoTo (-exponent).toNat, denominator)

/-- The exponent at which a positive quotient is rounded: 53 bits before the point, fewer only
at the least exponent. -/
def roundingExponent (numerator denominator : Nat) : Int :=
  let estimate : Int := numerator.log2 - denominator.log2 - 53
  let scaled := scaleDown numerator denominator estimate
  let exponent := if scaled.2 * twoTo 53 ≤ scaled.1 then estimate + 1 else estimate
  max exponent leastExponent

/-- The representable number nearest to a quotient, `none` if that is beyond the greatest. -/
def ofRatio? (negative : Bool) (numerator denominator : Nat) : Option Binary64 :=
  if numerator = 0 then some (zero negative)
  else
    let exponent := roundingExponent numerator denominator
    let scaled := scaleDown numerator denominator exponent
    let mantissa := roundHalfEven scaled.1 scaled.2
    let carried := mantissa = twoTo 53
    let rounded : Binary64 :=
      if carried then ⟨negative, twoTo 52, exponent + 1⟩ else ⟨negative, mantissa, exponent⟩
    if greatestExponent < rounded.exponent then none else some rounded

/-- The magnitude as a numerator and a denominator. -/
def ratio (number : Binary64) : Nat × Nat :=
  if 0 ≤ number.exponent then (number.mantissa * twoTo number.exponent.toNat, 1)
  else (number.mantissa, twoTo (-number.exponent).toNat)

/-- Whether the number is zero of either sign. -/
def isZero (number : Binary64) : Bool := number.mantissa = 0

/-- The rounded product of two magnitudes, with the sign of the first. -/
def scaleBy? (number factor : Binary64) : Option Binary64 :=
  ofRatio? number.negative (number.ratio.1 * factor.ratio.1) (number.ratio.2 * factor.ratio.2)

/-- The rounded quotient of two magnitudes, with the sign of the first. -/
def divideBy? (number divisor : Binary64) : Option Binary64 :=
  ofRatio? number.negative (number.ratio.1 * divisor.ratio.2) (number.ratio.2 * divisor.ratio.1)

/-- Equality of values: the two zeros are equal. -/
def same (first second : Binary64) : Bool :=
  (first.isZero && second.isZero) || first == second

end Binary64

end ControlPlane
