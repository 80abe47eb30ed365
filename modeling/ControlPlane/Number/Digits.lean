/-!
# Decimal digits

The digits of a number and the number of its digits; reading the digits of a number gives the
number back (`value_ofNat`).
-/
namespace ControlPlane.Digits

/-- The decimal digits of a number, most significant first. -/
def ofNat (number : Nat) : List Char := Nat.toDigits 10 number

/-- The value of a digit. -/
def digitValue (digit : Char) : Nat := digit.toNat - '0'.toNat

/-- The value of digits, most significant first. -/
def value (digits : List Char) : Nat :=
  digits.foldl (fun value digit => 10 * value + digitValue digit) 0

/-- The value of digits, if they are some and nothing but digits. -/
def value? (digits : List Char) : Option Nat :=
  if digits.isEmpty || !digits.all Char.isDigit then none else some (value digits)

/-- The digit written for a number is worth that number. -/
theorem digitValue_digitChar {digit : Nat} (small : digit < 10) :
    digitValue digit.digitChar = digit := by
  revert digit
  decide

/-- A digit at the end counts once, and those before it ten times what they did. -/
theorem value_append_singleton (digits : List Char) (digit : Char) :
    value (digits ++ [digit]) = 10 * value digits + digitValue digit := by
  simp [value]

/-- The digits of a number are worth that number. -/
theorem value_ofNat (number : Nat) : value (ofNat number) = number := by
  induction number using Nat.strongRecOn with
  | ind number ih =>
    unfold ofNat
    by_cases small : number < 10
    · rw [Nat.toDigits_of_lt_base small]
      simpa [value] using digitValue_digitChar small
    · rw [Nat.toDigits_eq_if (by decide), if_neg small, value_append_singleton,
        digitValue_digitChar (Nat.mod_lt _ (by decide))]
      have := ih (number / 10) (by omega)
      unfold ofNat at this
      omega

end ControlPlane.Digits
