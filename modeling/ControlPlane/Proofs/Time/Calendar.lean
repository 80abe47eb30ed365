import ControlPlane.Time.Calendar

/-!
# Dates and their numbers

Every number is that of the date that is made from it, and that date exists (`number_ofNumber`,
`valid_ofNumber`). The years come first: a day lies in the year that is found for it, and is counted
from its first day (`yearOfDay_spec`). The months of that year follow by going through their lengths
(`ofDayOfYear_spec`).
-/
namespace ControlPlane.Date

/-- The leap years. -/
theorem isLeapYear_iff {year : Int} :
    isLeapYear year = true ↔ year % 4 = 0 ∧ (year % 100 ≠ 0 ∨ year % 400 = 0) := by
  simp [isLeapYear]

/-- The days before a year of a cycle, a century, four years and a year. -/
theorem daysBeforeYear_eq {cycle : Int} {century quad year : Nat} (centuries : century ≤ 3)
    (quads : quad ≤ 24) (years : year ≤ 3) :
    daysBeforeYear (cycle * 400 + (century * 100 + quad * 4 + year + 1 : Nat)) =
      cycle * 146097 + century * 36524 + quad * 1461 + year * 365 := by
  simp only [daysBeforeYear]
  omega

/-- A day lies in its year, after the days that are counted there. -/
theorem yearOfDay_spec (day : Int) :
    daysBeforeYear (yearOfDay day).1 + (yearOfDay day).2 = day ∧
      ((yearOfDay day).2 < 365 ∨
        (yearOfDay day).2 = 365 ∧ isLeapYear (yearOfDay day).1 = true) := by
  unfold yearOfDay
  generalize cycles : day / 146097 = cycle
  generalize cycled : (day % 146097).toNat = inCycle
  generalize centuries : min (inCycle / 36524) 3 = century
  generalize rest : inCycle - century * 36524 = inCentury
  generalize quads : inCentury / 1461 = quad
  generalize left : inCentury - quad * 1461 = inQuad
  generalize years : min (inQuad / 365) 3 = year
  dsimp only
  rw [daysBeforeYear_eq (by omega) (by omega) (by omega), isLeapYear_iff]
  constructor
  · omega
  · omega

/-- No month is longer than 31 days. -/
theorem Valid.day_le {date : Date} (valid : date.Valid) : date.day ≤ 31 := by
  obtain ⟨least, most, -, inMonth⟩ := valid
  have longest : ∀ leap, ∀ month < 12, (monthLengths leap).getD month 0 ≤ 31 := by decide
  rw [daysInMonth, if_neg (by omega)] at inMonth
  exact Nat.le_trans inMonth (longest _ _ (by omega))

/-- The days of some months. -/
def total (lengths : List Nat) : Nat := lengths.foldl (· + ·) 0

/-- A month comes before the others. -/
theorem total_cons (length : Nat) (rest : List Nat) : total (length :: rest) = length + total rest := by
  have shift (start : Nat) : rest.foldl (· + ·) start = start + rest.foldl (· + ·) 0 := by
    induction rest generalizing start with
    | nil => rfl
    | cons next rest ih =>
      rw [List.foldl_cons, List.foldl_cons, ih (start + next), ih (0 + next)]
      omega
  rw [total, List.foldl_cons, Nat.zero_add, shift]
  rfl

/-- A day of the year lies in its month, after the months before. -/
theorem ofDayOfYear_spec : ∀ (lengths : List Nat) (month day : Nat), day < total lengths →
    ∃ front length back, lengths = front ++ length :: back ∧
      (ofDayOfYear lengths month day).1 = month + front.length ∧
        1 ≤ (ofDayOfYear lengths month day).2 ∧ (ofDayOfYear lengths month day).2 ≤ length ∧
          total front + (ofDayOfYear lengths month day).2 = day + 1
  | [], _, _, inside => absurd inside (Nat.not_lt_zero _)
  | length :: rest, month, day, inside => by
    rw [ofDayOfYear]
    split
    next early => exact ⟨[], length, rest, rfl, rfl, Nat.succ_pos day, early, Nat.zero_add _⟩
    next late =>
      rw [total_cons] at inside
      obtain ⟨front, own, back, split, place, least, most, days⟩ :=
        ofDayOfYear_spec rest (month + 1) (day - length) (by omega)
      refine ⟨length :: front, own, back, by rw [split, List.cons_append], ?_, least, most, ?_⟩
      · rw [place, List.length_cons]
        omega
      · rw [total_cons]
        omega

/-- The date of a number, by its month: its length, and the months before it. -/
theorem ofNumber_spec (number : Int) : ∃ front length back,
    monthLengths (isLeapYear (ofNumber number).year) = front ++ length :: back ∧
      (ofNumber number).month = front.length + 1 ∧ 1 ≤ (ofNumber number).day ∧
        (ofNumber number).day ≤ length ∧
          daysBeforeYear (ofNumber number).year + total front + (ofNumber number).day =
            number + epoch + 1 := by
  obtain ⟨elapsed, inYear⟩ := yearOfDay_spec (number + epoch)
  have inside : (yearOfDay (number + epoch)).2 <
      total (monthLengths (isLeapYear (yearOfDay (number + epoch)).1)) := by
    cases leap : isLeapYear (yearOfDay (number + epoch)).1 with
    | false =>
      have length : total (monthLengths false) = 365 := by decide
      have short := inYear.resolve_right (by simp [leap])
      omega
    | true =>
      have length : total (monthLengths true) = 366 := by decide
      omega
  obtain ⟨front, length, back, split, place, least, most, days⟩ := ofDayOfYear_spec _ 1 _ inside
  refine ⟨front, length, back, split, ?_, least, most, ?_⟩
  · exact place.trans (Nat.add_comm 1 _)
  · change daysBeforeYear (yearOfDay (number + epoch)).1 + total front +
      (ofDayOfYear (monthLengths (isLeapYear (yearOfDay (number + epoch)).1)) 1
        (yearOfDay (number + epoch)).2).2 = number + epoch + 1
    omega

/-- The date of a number exists. -/
theorem valid_ofNumber (number : Int) : (ofNumber number).Valid := by
  obtain ⟨front, length, back, split, month, least, most, -⟩ := ofNumber_spec number
  have twelve : (monthLengths (isLeapYear (ofNumber number).year)).length = 12 := by
    cases isLeapYear (ofNumber number).year <;> rfl
  rw [split, List.length_append, List.length_cons] at twelve
  refine ⟨by omega, by omega, least, ?_⟩
  rw [daysInMonth, if_neg (by omega), split, month]
  simpa using most

/-- The number of the date of a number is that number. -/
theorem number_ofNumber (number : Int) : (ofNumber number).number = number := by
  obtain ⟨front, length, back, split, month, least, -, days⟩ := ofNumber_spec number
  have before : daysBeforeMonth (ofNumber number).year (ofNumber number).month = total front := by
    rw [daysBeforeMonth, split, month, Nat.add_sub_cancel, List.take_left' rfl]
    rfl
  rw [Date.number, before]
  omega

end ControlPlane.Date
