import ControlPlane.Proofs.Json.Literal
import ControlPlane.Proofs.Time.Calendar
import ControlPlane.Time.Rfc3339

/-!
# Times read back from their texts

A time whose year has four digits is read back from its text, leap seconds and all decimals included
(`Instant.parseStrict?_offsetText`). Each part of the text has a fixed width and is read by itself;
the parts are put together by the laws of the calendar.
-/
namespace ControlPlane

namespace Digits

/-- Zeros in front of digits make no difference. -/
theorem value_replicate_zero (count : Nat) (digits : List Char) :
    value (List.replicate count '0' ++ digits) = value digits := by
  induction count with
  | zero => rfl
  | succ count ih => exact ih

end Digits

namespace Duration

variable {width number : Nat}

/-- A number below a power of ten fills its width. -/
theorem length_padded (positive : 0 < width) (fits : number < 10 ^ width) :
    (padded width number).length = width := by
  have short : (Digits.ofNat number).length ≤ width :=
    (Nat.length_toDigits_le_iff (by decide) positive).mpr fits
  simp only [padded, List.length_append, List.length_replicate]
  omega

/-- A number is written with nothing but digits. -/
theorem isDigit_of_mem_padded {digit : Char} (member : digit ∈ padded width number) :
    digit.isDigit = true := by
  rcases List.mem_append.mp member with zero | digit
  · rw [List.eq_of_mem_replicate zero]
    decide
  · exact Digits.isDigit_of_mem_ofNat digit

/-- The digits of a number have its value. -/
theorem value_padded : Digits.value (padded width number) = number := by
  rw [padded, Digits.value_replicate_zero, Digits.value_ofNat]

end Duration

namespace Instant

/-- A number of a fixed width is read back, whatever follows. -/
theorem readDigits_padded {width number : Nat} (positive : 0 < width) (fits : number < 10 ^ width)
    (rest : List Char) :
    readDigits width width (Duration.padded width number ++ rest) = some (number, rest) := by
  have length := Duration.length_padded positive fits
  have digits : (Duration.padded width number).takeWhile Char.isDigit =
      Duration.padded width number :=
    List.takeWhile_eq_self_iff.mpr fun _ => Duration.isDigit_of_mem_padded
  simp only [readDigits, List.take_left' length, digits, length]
  rw [if_neg (Nat.lt_irrefl _), Duration.value_padded, List.drop_left' length]

/-- Decimals are read back up to the sign of the zone. -/
theorem readDecimals_padded {width number : Nat} (positive : 0 < width) (atMost : width ≤ 9)
    (fits : number < 10 ^ width) (zone : List Char) :
    readDecimals ('.' :: Duration.padded width number ++ '+' :: zone) =
      some (number * tenTo (9 - width), '+' :: zone) := by
  have length := Duration.length_padded positive fits
  have stops : (('+' :: zone).take (9 - width)).takeWhile Char.isDigit = [] := by
    cases 9 - width <;> rfl
  have digits : ((Duration.padded width number ++ '+' :: zone).take 9).takeWhile Char.isDigit =
      Duration.padded width number := by
    rw [List.take_append, List.take_of_length_le (by omega), length,
      List.takeWhile_append_of_pos fun _ => Duration.isDigit_of_mem_padded, stops, List.append_nil]
  have some_digits : (Duration.padded width number).isEmpty = false := by
    refine Bool.eq_false_iff.mpr fun empty => ?_
    rw [List.isEmpty_iff.mp empty] at length
    exact absurd length (Nat.ne_of_lt positive)
  simp only [readDecimals, List.cons_append, digits, some_digits, length, List.drop_left' length,
    Duration.value_padded]
  rfl

/-- The decimals of a second are read back. -/
theorem readDecimals_decimals {nanos : Nat} (fits : nanos < 1000000000) (zone : List Char) :
    readDecimals (decimals nanos ++ '+' :: zone) = some (nanos, '+' :: zone) := by
  unfold decimals
  split
  next none =>
    rw [none]
    rfl
  next =>
    split
    next millis =>
      rw [readDecimals_padded (by decide) (by decide) (by omega)]
      have whole : nanos / 1000000 * tenTo (9 - 3) = nanos := Nat.div_mul_cancel
        (Nat.dvd_of_mod_eq_zero millis)
      rw [whole]
    next =>
      split
      next micros =>
        rw [readDecimals_padded (by decide) (by decide) (by omega)]
        have whole : nanos / 1000 * tenTo (9 - 6) = nanos := Nat.div_mul_cancel
          (Nat.dvd_of_mod_eq_zero micros)
        rw [whole]
      next =>
        rw [readDecimals_padded (by decide) (by decide) (by omega)]
        exact congrArg _ (congrArg (·, _) (Nat.mul_one nanos))

/-- An instant is made of its parts. -/
theorem of?_eq (instant : Instant) : of? instant.seconds instant.nanos = some instant := by
  rw [of?, dif_pos instant.inCalendar, dif_pos instant.subsecond]

/-- The parts of an instant are put together again. -/
theorem ofParts?_eq (instant : Instant)
    (inYears : 0 ≤ (Date.ofNumber (instant.seconds / 86400)).year ∧
      (Date.ofNumber (instant.seconds / 86400)).year ≤ 9999) :
    let date := Date.ofNumber (instant.seconds / 86400)
    let ofDay := (instant.seconds % 86400).toNat
    ofParts? date.year.natAbs date.month date.day (ofDay / 3600) (ofDay / 60 % 60)
      (ofDay % 60 + instant.nanos / 1000000000) (instant.nanos % 1000000000) 0 = some instant := by
  intro date ofDay
  replace inYears : 0 ≤ date.year ∧ date.year ≤ 9999 := inYears
  have year : (date.year.natAbs : Int) = date.year := Int.natAbs_of_nonneg inYears.1
  have valid : date.Valid := Date.valid_ofNumber _
  have number : date.number = instant.seconds / 86400 := Date.number_ofNumber _
  have subsecond := instant.subsecond
  have elapsed : (ofDay : Int) = instant.seconds % 86400 := Int.toNat_of_nonneg (by omega)
  -- In a leap second the minute has ended, so its last second is written as 60.
  have leap : (ofDay % 60 + instant.nanos / 1000000000) / 60 = instant.nanos / 1000000000 := by
    omega
  have exists_parts : (-262143 ≤ date.year ∧ date.year ≤ 262142) ∧ date.Valid ∧
      (ofDay / 3600 < 24 ∧ ofDay / 60 % 60 < 60 ∧
        ofDay % 60 + instant.nanos / 1000000000 ≤ 60) ∧ -86400 < (0 : Int) ∧ (0 : Int) < 86400 :=
    ⟨by omega, valid, by omega, by decide, by decide⟩
  have seconds : date.number * 86400 + (ofDay / 3600 : Nat) * 3600 + (ofDay / 60 % 60 : Nat) * 60 +
      ((ofDay % 60 + instant.nanos / 1000000000 : Nat) - (instant.nanos / 1000000000 : Nat)) - 0 =
        instant.seconds := by
    rw [number]
    omega
  have nanos : instant.nanos % 1000000000 + instant.nanos / 1000000000 * 1000000000 =
      instant.nanos := by omega
  unfold ofParts?
  rw [year]
  simp only [leap]
  rw [if_pos exists_parts, seconds, nanos, of?_eq]

/-- A mark is read. -/
theorem readMark_cons (mark : Char) (rest : List Char) : readMark mark (mark :: rest) = some rest :=
  if_pos rfl

/-- What comes after a part goes on with what was read. -/
theorem bind_of_eq_some {α β : Type} {first : Option α} {found : α} (next : α → Option β)
    (read : first = some found) : (first >>= next) = next found := by
  rw [read]
  rfl

/-- The parts of a time are read back one by one. -/
theorem readStrict_parts {year month day hour minute second nanos : Nat} (years : year < 10 ^ 4)
    (months : month < 10 ^ 2) (days : day < 10 ^ 2) (hours : hour < 10 ^ 2)
    (minutes : minute < 10 ^ 2) (seconds : second < 10 ^ 2) (decimal : nanos < 1000000000) :
    readStrict (Duration.padded 4 year ++ '-' :: (Duration.padded 2 month ++ '-' ::
      (Duration.padded 2 day ++ 'T' :: (Duration.padded 2 hour ++ ':' ::
        (Duration.padded 2 minute ++ ':' :: (Duration.padded 2 second ++
          (decimals nanos ++ ['+', '0', '0', ':', '0', '0']))))))) =
      ofParts? year month day hour minute second nanos 0 := by
  have two : 0 < 2 := by decide
  have zone : readZone (readMark ':') ['+', '0', '0', ':', '0', '0'] = some (0, []) := by decide
  have separator (rest : List Char) : readSeparator ('T' :: rest) = some rest := rfl
  unfold readStrict
  refine (bind_of_eq_some _ (readDigits_padded (by decide) years _)).trans ?_
  refine (bind_of_eq_some _ (readMark_cons _ _)).trans ?_
  refine (bind_of_eq_some _ (readDigits_padded two months _)).trans ?_
  refine (bind_of_eq_some _ (readMark_cons _ _)).trans ?_
  refine (bind_of_eq_some _ (readDigits_padded two days _)).trans ?_
  refine (bind_of_eq_some _ (separator _)).trans ?_
  refine (bind_of_eq_some _ (readDigits_padded two hours _)).trans ?_
  refine (bind_of_eq_some _ (readMark_cons _ _)).trans ?_
  refine (bind_of_eq_some _ (readDigits_padded two minutes _)).trans ?_
  refine (bind_of_eq_some _ (readMark_cons _ _)).trans ?_
  refine (bind_of_eq_some _ (readDigits_padded two seconds _)).trans ?_
  refine (bind_of_eq_some _ (readDecimals_decimals decimal _)).trans ?_
  exact bind_of_eq_some _ zone

/-- A time of a year of four digits is read back from its text. -/
theorem parseStrict?_offsetText {instant : Instant}
    (inYears : 0 ≤ (Date.ofNumber (instant.seconds / 86400)).year ∧
      (Date.ofNumber (instant.seconds / 86400)).year ≤ 9999) :
    parseStrict? instant.offsetText = some instant := by
  have parts := ofParts?_eq instant inYears
  have valid := Date.valid_ofNumber (instant.seconds / 86400)
  have short := valid.day_le
  have subsecond := instant.subsecond
  have elapsed : (instant.seconds % 86400).toNat < 86400 := by omega
  rw [parseStrict?, offsetText, String.toList_ofList, offsetCharacters, textWith, yearText,
    if_pos inYears]
  generalize Date.ofNumber (instant.seconds / 86400) = date at inYears valid short parts ⊢
  obtain ⟨least, most, -, -⟩ := valid
  simp only [List.append_assoc, List.cons_append]
  rw [readStrict_parts (by omega) (by omega) (by omega) (by omega) (by omega) (by omega) (by omega)]
  exact parts

end Instant

end ControlPlane
