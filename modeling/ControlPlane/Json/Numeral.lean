import ControlPlane.Json.Transcript
import ControlPlane.Number.Digits

/-!
# Numbers in JSON texts

A numeral is an integer of the 64-bit ranges if it has neither a fraction nor an exponent and
fits; minus zero does not. Any other numeral is read in two roundings: its first digits, as many
as an unsigned 64-bit integer holds, are rounded to binary64 and then multiplied or divided by
the rounded power of ten. Digits beyond those are counted if they stand before the point and
dropped if they stand after it.
-/
namespace ControlPlane

/-- What was read from the front of a text. -/
inductive Token (α : Type) where
  /-- A complete token and the text after it. -/
  | read (value : α) (rest : List Char)
  /-- The reading stopped inside the token. -/
  | stopped (cause : Break)

namespace Numeral

/-- One more digit than a number, if an unsigned 64-bit integer still holds it. -/
def extend? (significand : Nat) (digit : Char) : Option Nat :=
  let extended := 10 * significand + Digits.digitValue digit
  if extended < twoTo 64 then some extended else none

/-- The leading digits before the point, and the number of digits beyond them. -/
def gatherWhole : List Char → Nat → Nat × Nat
  | [], significand => (significand, 0)
  | digit :: rest, significand =>
    match extend? significand digit with
    | some extended => gatherWhole rest extended
    | none => (significand, rest.length + 1)

/-- The digits extended by those after the point, and the number of digits used. -/
def gatherFraction : List Char → Nat → Nat × Nat
  | [], significand => (significand, 0)
  | digit :: rest, significand =>
    match extend? significand digit with
    | some extended =>
      let (gathered, used) := gatherFraction rest extended
      (gathered, used + 1)
    | none => (significand, 0)

/-- The greatest power of ten that is divided by at once. -/
def greatestPower : Nat := 308

/-- A power of ten, rounded. -/
@[irreducible] def powerOfTen (power : Nat) : Binary64 :=
  (Binary64.ofRatio? false (tenTo power) 1).getD (Binary64.zero false)

/-- Divide by the greatest power again and again, until nothing is left. -/
def divideFar : Nat → Binary64 → Option Binary64
  | 0, number => some number
  | steps + 1, number =>
    if number.isZero then some number
    else do
      let smaller ← number.divideBy? (powerOfTen greatestPower)
      divideFar steps smaller

/-- Multiply or divide by a power of ten; `none` if the result is too large. Beyond the greatest
power the number is first divided by that power as often as it fits. -/
def scaleTen (number : Binary64) (exponent : Int) : Option Binary64 :=
  let size := exponent.natAbs
  if size ≤ greatestPower then
    if 0 ≤ exponent then number.scaleBy? (powerOfTen size)
    else number.divideBy? (powerOfTen size)
  else if number.isZero then some number
  else if 0 ≤ exponent then none
  else do
    let steps := (size - 1) / greatestPower
    let smaller ← divideFar steps number
    smaller.divideBy? (powerOfTen (size - steps * greatestPower))

/-- A significand times a power of ten. -/
def real? (negative : Bool) (significand : Nat) (exponent : Int) : Option JsonNumber := do
  let rounded ← Binary64.ofRatio? negative significand 1
  let scaled ← scaleTen rounded exponent
  return .real scaled

/-- The exponent written after the mark. -/
structure Exponent where
  /-- Whether there is a minus sign. -/
  negative : Bool
  /-- The digits after the sign. -/
  digits : List Char

/-- The greatest exponent that is computed with. -/
def greatestExponent : Nat := twoTo 31 - 1

/-- The number of a numeral, `none` if it is too large. -/
def value? (negative : Bool) (whole fraction : List Char) (exponent : Option Exponent) :
    Option JsonNumber :=
  let (leading, dropped) := gatherWhole whole 0
  let (significand, used) := gatherFraction fraction leading
  let scale : Int := dropped - used
  match exponent with
  | some written =>
    let power := Digits.value written.digits
    if greatestExponent < power then
      if significand ≠ 0 ∧ ¬ written.negative then none
      else some (.real (Binary64.zero negative))
    else real? negative significand (if written.negative then scale - power else scale + power)
  | none =>
    if fraction.isEmpty ∧ dropped = 0 then
      if negative then
        if significand = 0 ∨ twoTo 63 < significand then real? true significand 0
        else some (.ofInt (-significand))
      else some (.ofInt significand)
    else real? negative significand scale

/-- Stop at the end of the text inside a number, or at a character that is no digit. -/
def missingDigit (text : List Char) : Token (Option JsonNumber) :=
  .stopped (if text.isEmpty then .endedInNumber else .unexpected)

/-- Read the exponent of a numeral, if there is one. -/
def readExponent (negative : Bool) (whole fraction : List Char) :
    List Char → Token (Option JsonNumber)
  | [] => .read (value? negative whole fraction none) []
  | mark :: rest =>
    if mark = 'e' ∨ mark = 'E' then
      let (minus, unsigned) := match rest with
        | '+' :: more => (false, more)
        | '-' :: more => (true, more)
        | more => (false, more)
      let digits := unsigned.takeWhile Char.isDigit
      if digits.isEmpty then missingDigit unsigned
      else .read (value? negative whole fraction (some ⟨minus, digits⟩))
        (unsigned.dropWhile Char.isDigit)
    else .read (value? negative whole fraction none) (mark :: rest)

/-- Read the fraction of a numeral, if there is one, and its exponent. -/
def readFraction (negative : Bool) (whole : List Char) : List Char → Token (Option JsonNumber)
  | '.' :: rest =>
    let digits := rest.takeWhile Char.isDigit
    if digits.isEmpty then missingDigit rest
    else readExponent negative whole digits (rest.dropWhile Char.isDigit)
  | rest => readExponent negative whole [] rest

/-- Read a numeral after its sign. A zero stands only alone before the point. -/
def read (negative : Bool) (text : List Char) : Token (Option JsonNumber) :=
  match text.takeWhile Char.isDigit with
  | [] => missingDigit text
  | '0' :: _ :: _ => .stopped .unexpected
  | whole => readFraction negative whole (text.dropWhile Char.isDigit)

end Numeral

end ControlPlane
