import ControlPlane.Number.Digits
import ControlPlane.Number.Power

/-!
# Durations

A length of time as a whole number of nanoseconds. Its text uses the largest unit that gives at
least one, with as many decimals as are needed and no more.
-/
namespace ControlPlane

/-- A length of time. -/
structure Duration where
  /-- The number of nanoseconds. -/
  nanoseconds : Nat
deriving DecidableEq, Repr, Inhabited

namespace Duration

/-- The nanoseconds of a second. -/
def nanosPerSecond : Nat := 1000000000

/-- A number of seconds. -/
def ofSeconds (seconds : Nat) : Duration := ⟨seconds * nanosPerSecond⟩

/-- A number of milliseconds. -/
def ofMillis (millis : Nat) : Duration := ⟨millis * 1000000⟩

/-- The whole seconds. -/
def seconds (duration : Duration) : Nat := duration.nanoseconds / nanosPerSecond

/-- The nanoseconds beyond the whole seconds. -/
def subsecond (duration : Duration) : Nat := duration.nanoseconds % nanosPerSecond

/-- The digits of a number below a power of ten, with the zeros in front. -/
def padded (width value : Nat) : List Char :=
  let digits := Digits.ofNat value
  List.replicate (width - digits.length) '0' ++ digits

/-- A number divided by a power of ten, without zeros at the end of the decimals. -/
def decimalText (value places : Nat) : List Char :=
  let whole := Digits.ofNat (value / tenTo places)
  let decimals := (padded places (value % tenTo places)).reverse.dropWhile (· == '0')
  if decimals.isEmpty then whole else whole ++ '.' :: decimals.reverse

/-- The text of a duration. -/
def text (duration : Duration) : String :=
  let nanos := duration.nanoseconds
  if nanosPerSecond ≤ nanos then String.ofList (decimalText nanos 9 ++ ['s'])
  else if 1000000 ≤ nanos then String.ofList (decimalText nanos 6 ++ ['m', 's'])
  else if 1000 ≤ nanos then String.ofList (decimalText nanos 3 ++ ['µ', 's'])
  else String.ofList (Digits.ofNat nanos ++ ['n', 's'])

end Duration

end ControlPlane
