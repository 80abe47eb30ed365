import ControlPlane.Json.Printer
import ControlPlane.Json.Transcribe
import Mathlib.Data.List.TakeWhile
import Mathlib.Tactic.IntervalCases

/-!
# Literals of compact texts

The text of an integer and the text of a string are read back as they were written, whatever
follows them in a compact text (`Numeral.read_ofNat`, `StringLiteral.read_escaped`). An integer ends
where no digit follows, and neither a fraction nor an exponent; a string ends with its closing quote.
-/
namespace ControlPlane

namespace Digits

/-- The text of a number has nothing but digits. -/
theorem isDigit_of_mem_ofNat {number : Nat} {digit : Char} (member : digit ∈ ofNat number) :
    digit.isDigit = true :=
  Nat.isDigit_of_mem_toDigits (by decide) (by decide) member

/-- There are ten digits. -/
theorem exists_digitChar_of_isDigit {digit : Char} (isDigit : digit.isDigit = true) :
    ∃ value < 10, digit = Nat.digitChar value := by
  have bounds := Char.isDigit_iff_toNat.mp isDigit
  have same : digit = Char.ofNat digit.toNat := (Char.ofNat_toNat digit).symm
  generalize digit.toNat = code at bounds same
  subst same
  obtain ⟨least, most⟩ : 48 ≤ code ∧ code ≤ 57 := bounds
  refine ⟨code - 48, by omega, ?_⟩
  interval_cases code <;> rfl

/-- Only zero is written with a zero in front. -/
theorem eq_nil_of_ofNat_eq_zero_cons {number : Nat} {rest : List Char}
    (leading : ofNat number = '0' :: rest) : rest = [] := by
  induction number using Nat.strongRecOn generalizing rest with
  | ind number ih =>
    unfold ofNat at leading ih
    by_cases small : number < 10
    · rw [Nat.toDigits_of_lt_base small] at leading
      exact (List.cons.inj leading).2.symm
    · rw [Nat.toDigits_eq_if (by decide), if_neg small] at leading
      cases front : Nat.toDigits 10 (number / 10) with
      | nil => exact absurd front Nat.toDigits_ne_nil
      | cons first others =>
        rw [front] at leading
        obtain ⟨rfl, -⟩ := List.cons.inj leading
        obtain rfl := ih (number / 10) (by omega) front
        have zero := value_ofNat (number / 10)
        rw [ofNat, front] at zero
        have nothing : value ['0'] = 0 := by decide
        omega

/-- More digits give no smaller number. -/
theorem le_foldl (digits : List Char) (start : Nat) :
    start ≤ digits.foldl (fun value digit => 10 * value + digitValue digit) start := by
  induction digits generalizing start with
  | nil => exact Nat.le_refl start
  | cons digit rest ih => exact Nat.le_trans (by omega) (ih (10 * start + digitValue digit))

end Digits

namespace Numeral

/-- What ends an integer: the end of the text, or a character that continues no number. -/
def Ends : List Char → Prop
  | [] => True
  | next :: _ => next.isDigit = false ∧ next ≠ '.' ∧ next ≠ 'e' ∧ next ≠ 'E'

/-- A digit is gathered before those after it. -/
theorem gatherWhole_cons (digit : Char) (rest : List Char) (start : Nat) :
    gatherWhole (digit :: rest) start = match extend? start digit with
      | some extended => gatherWhole rest extended
      | none => (start, rest.length + 1) := by
  rfl

/-- Digits whose number an unsigned 64-bit integer holds are gathered as a whole. -/
theorem gatherWhole_eq {digits : List Char} {start : Nat}
    (fits : digits.foldl (fun value digit => 10 * value + Digits.digitValue digit) start <
      twoTo 64) :
    gatherWhole digits start =
      (digits.foldl (fun value digit => 10 * value + Digits.digitValue digit) start, 0) := by
  induction digits generalizing start with
  | nil => rfl
  | cons digit rest ih =>
    rw [List.foldl_cons] at fits ⊢
    have small := Nat.lt_of_le_of_lt (Digits.le_foldl rest _) fits
    rw [gatherWhole_cons, extend?, if_pos small]
    exact ih fits

/-- The digits of a number are a numeral of that number. -/
theorem value?_ofNat {negative : Bool} {number : Nat} (fits : number < twoTo 64)
    (inRange : negative = true → number ≠ 0 ∧ number ≤ twoTo 63) :
    value? negative (Digits.ofNat number) [] none =
      some (.ofInt (if negative then -number else number)) := by
  have whole : gatherWhole (Digits.ofNat number) 0 = (number, 0) := by
    have total : (Digits.ofNat number).foldl
        (fun value digit => 10 * value + Digits.digitValue digit) 0 = number :=
      Digits.value_ofNat number
    rw [gatherWhole_eq (by rwa [total]), total]
  have none : ∀ significand, gatherFraction [] significand = (significand, 0) := fun _ => rfl
  unfold value?
  rw [whole]
  simp only [none, List.isEmpty_nil, true_and, if_true]
  cases negative with
  | false => rfl
  | true =>
    obtain ⟨nonzero, small⟩ := inRange rfl
    rw [if_pos rfl, if_neg (by omega)]
    rfl

/-- Without a fraction and an exponent the digits are all of a numeral. -/
theorem readFraction_of_ends {negative : Bool} {whole rest : List Char} (ends : Ends rest) :
    readFraction negative whole rest = .read (value? negative whole [] none) rest := by
  cases rest with
  | nil => rfl
  | cons next more =>
    obtain ⟨-, point, lower, upper⟩ := ends
    have noMark : ¬ (next = 'e' ∨ next = 'E') := by simp [lower, upper]
    unfold readFraction
    split
    next same => exact absurd (List.cons.inj same).1 point
    next => exact if_neg noMark

/-- The text of a number is read back. -/
theorem read_ofNat (negative : Bool) (number : Nat) {rest : List Char} (ends : Ends rest)
    (fits : number < twoTo 64) (inRange : negative = true → number ≠ 0 ∧ number ≤ twoTo 63) :
    read negative (Digits.ofNat number ++ rest) =
      .read (some (.ofInt (if negative then -number else number))) rest := by
  have digits : ∀ digit ∈ Digits.ofNat number, digit.isDigit = true :=
    fun _ => Digits.isDigit_of_mem_ofNat
  have taken : rest.takeWhile Char.isDigit = [] ∧ rest.dropWhile Char.isDigit = rest := by
    cases rest with
    | nil => exact ⟨rfl, rfl⟩
    | cons next more => simp [ends.1]
  unfold read
  rw [List.takeWhile_append_of_pos digits, List.dropWhile_append_of_pos digits, taken.1, taken.2,
    List.append_nil]
  split
  next nothing => exact absurd nothing Nat.toDigits_ne_nil
  next leading => cases Digits.eq_nil_of_ofNat_eq_zero_cons leading
  next => rw [readFraction_of_ends ends, value?_ofNat fits inRange]

end Numeral

namespace StringLiteral

/-- The four digits of a control character are read as its code unit. -/
theorem codeUnit?_hexDigits {value : Nat} (small : value < 32) :
    codeUnit? '0' '0' (Json.hexDigit (value / 16)) (Json.hexDigit (value % 16)) = some value := by
  revert value
  decide

/-- A character that stands for itself is read back. -/
theorem read_plain {character : Char} (quote : character ≠ '"') (backslash : character ≠ '\\')
    (printable : ¬ character.toNat < 32) (gathered rest : List Char) :
    read gathered true (character :: rest) = read (character :: gathered) true rest := by
  rw [read]
  all_goals first
    | rw [if_neg printable]
    | simp [quote, backslash]

/-- The digits of a control character are read back. -/
theorem read_control {character : Char} (small : character.toNat < 32)
    (gathered rest : List Char) :
    read gathered true ('\\' :: 'u' :: '0' :: '0' :: Json.hexDigit (character.toNat / 16) ::
      Json.hexDigit (character.toNat % 16) :: rest) = read (character :: gathered) true rest := by
  have noTrailing : isTrailing character.toNat = false := by
    simp only [isTrailing, Bool.and_eq_false_iff, decide_eq_false_iff_not]
    omega
  have noLeading : isLeading character.toNat = false := by
    simp only [isLeading, Bool.and_eq_false_iff, decide_eq_false_iff_not]
    omega
  rw [read, codeUnit?_hexDigits small]
  simp [noTrailing, noLeading]

/-- The text of a character in a string is read back. -/
theorem read_escape (character : Char) (gathered rest : List Char) :
    read gathered true (Json.escape character ++ rest) =
      read (character :: gathered) true rest := by
  unfold Json.escape
  split
  case h_8 quote backslash _ _ _ _ _ =>
    split
    next small => exact read_control small gathered rest
    next printable => exact read_plain quote backslash printable gathered rest
  all_goals
    rw [List.cons_append, List.cons_append, List.nil_append, read]
    all_goals simp [shortEscape?]

/-- The text of a string is read back up to its closing quote. -/
theorem read_escaped (text gathered rest : List Char) :
    read gathered true (Json.escaped text ++ '"' :: rest) =
      .read (some (String.ofList (gathered.reverse ++ text))) rest := by
  induction text generalizing gathered with
  | nil => simp [Json.escaped, read]
  | cons character text ih =>
    rw [Json.escaped, List.flatMap_cons, List.append_assoc, read_escape, ← Json.escaped, ih]
    simp

end StringLiteral

end ControlPlane
