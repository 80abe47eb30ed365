import ControlPlane.Number.Binary64
import ControlPlane.Number.Digits

/-!
# Shortest decimal digits

The decimal digits of a binary64 number are the fewest that read back as the same number and,
among those, the ones nearest to it. The search tries one digit, then two, up to seventeen: on
the grid of decimals with that many digits only the two neighbours of the number matter.

Two layouts write the digits: `Decimal.plain` never uses an exponent, and
`Decimal.scientificBeyond` does for very large and very small numbers.
-/
namespace ControlPlane

/-- A positive decimal number `coefficient * 10 ^ scale`. -/
structure Decimal where
  /-- The digits, read as a whole number. -/
  coefficient : Nat
  /-- The power of ten of the last digit. -/
  scale : Int
deriving DecidableEq, Repr

namespace Decimal

/-- The digits of the coefficient. -/
def text (decimal : Decimal) : List Char := Digits.ofNat decimal.coefficient

/-- The power of ten of the first digit. -/
def magnitude (decimal : Decimal) : Int := decimal.text.length - 1 + decimal.scale

/-- Drop zeros at the end of the coefficient, at most as many as the fuel says. -/
def trim : Nat → Decimal → Decimal
  | 0, decimal => decimal
  | fuel + 1, decimal =>
    if decimal.coefficient % 10 = 0 ∧ decimal.coefficient ≠ 0 then
      trim fuel ⟨decimal.coefficient / 10, decimal.scale + 1⟩
    else decimal

/-- The power of ten of the first digit of a positive quotient. -/
def leadingPower (numerator denominator : Nat) : Int :=
  if denominator ≤ numerator then (Digits.ofNat (numerator / denominator)).length - 1
  else
    let inverse := (denominator + numerator - 1) / numerator
    Int.negOfNat (Digits.ofNat (inverse - 1)).length

/-- A quotient divided by a power of ten. -/
def scaleDown (numerator denominator : Nat) (power : Int) : Nat × Nat :=
  if 0 ≤ power then (numerator, denominator * tenTo power.toNat)
  else (numerator * tenTo (-power).toNat, denominator)

/-- The interval of quotients that round to a number: twice the lower half gap, the number and
twice the upper half gap, as numerators over a common denominator. Below a power of two the gap
is half as wide. -/
def roundingInterval (number : Binary64) : Nat × Nat × Nat × Nat :=
  let lowerGap := if number.mantissa = twoTo 52 ∧ Binary64.leastExponent < number.exponent
    then 1 else 2
  let exponent := number.exponent - 2
  let factor := if 0 ≤ exponent then twoTo exponent.toNat else 1
  let denominator := if 0 ≤ exponent then 1 else twoTo (-exponent).toNat
  ((4 * number.mantissa - lowerGap) * factor, 4 * number.mantissa * factor,
    (4 * number.mantissa + 2) * factor, denominator)

/-- The neighbour of a number on the grid of decimals with a given power of the last digit that
rounds to the number; of two, the nearer one, and the even one of two equally near. -/
def onGrid (number : Binary64) (power : Int) : Option Decimal :=
  let (low, value, high, denominator) := roundingInterval number
  let closed := number.mantissa % 2 = 0
  let point (coefficient : Nat) : Nat × Nat :=
    if 0 ≤ power then (coefficient * tenTo power.toNat * denominator, 1)
    else (coefficient * denominator, tenTo (-power).toNat)
  let inside (coefficient : Nat) : Bool :=
    let (top, bottom) := point coefficient
    if closed then low * bottom ≤ top && top ≤ high * bottom
    else low * bottom < top && top < high * bottom
  let scaled := scaleDown value denominator power
  let below := scaled.1 / scaled.2
  let above := below + 1
  let doubled := 2 * (scaled.1 % scaled.2)
  let lowerNearer := doubled < scaled.2 || (doubled = scaled.2 && below % 2 = 0)
  match inside below, inside above with
  | true, true => some ⟨if lowerNearer then below else above, power⟩
  | true, false => some ⟨below, power⟩
  | false, true => some ⟨above, power⟩
  | false, false => none

/-- Try grids with more and more digits. -/
def search (number : Binary64) (leading : Int) : Nat → Nat → Decimal
  | 0, _ => ⟨0, 0⟩
  | fuel + 1, count =>
    match onGrid number (leading - count + 1) with
    | some decimal => trim 17 decimal
    | none => search number leading fuel (count + 1)

/-- The shortest digits that read back as a positive number. -/
def shortest (number : Binary64) : Decimal :=
  let (numerator, denominator) := number.ratio
  search number (leadingPower numerator denominator) 17 1

/-- Positional digits without an exponent and, for a whole number, without a point. -/
def plain (decimal : Decimal) : List Char :=
  let text := decimal.text
  if 0 ≤ decimal.scale then text ++ List.replicate decimal.scale.toNat '0'
  else
    let places := (-decimal.scale).toNat
    if places < text.length then
      text.take (text.length - places) ++ '.' :: text.drop (text.length - places)
    else '0' :: '.' :: List.replicate (places - text.length) '0' ++ text

/-- Positional digits with at least one after the point while the first digit stands for a power
of ten from `-5` to `15`, and else one digit, the others after a point, and a signed exponent. -/
def scientificBeyond (decimal : Decimal) : List Char :=
  let magnitude := decimal.magnitude
  if -5 ≤ magnitude ∧ magnitude ≤ 15 then
    if 0 ≤ decimal.scale then decimal.plain ++ ['.', '0'] else decimal.plain
  else
    let mantissa := match decimal.text with
      | [] => []
      | [first] => [first]
      | first :: rest => first :: '.' :: rest
    let sign := if magnitude < 0 then '-' else '+'
    mantissa ++ 'e' :: sign :: Digits.ofNat magnitude.natAbs

end Decimal

namespace Binary64

/-- The sign of a number as it is written. -/
def signText (number : Binary64) : List Char := if number.negative then ['-'] else []

/-- Shortest digits, with a point or an exponent so that the text is never that of an integer. -/
def text (number : Binary64) : List Char :=
  number.signText ++
    (if number.isZero then ['0', '.', '0'] else (Decimal.shortest number).scientificBeyond)

/-- Shortest digits in positional notation. -/
def plainText (number : Binary64) : List Char :=
  number.signText ++ (if number.isZero then ['0'] else (Decimal.shortest number).plain)

end Binary64

end ControlPlane
