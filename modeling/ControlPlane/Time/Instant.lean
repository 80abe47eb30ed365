import ControlPlane.Time.Calendar
import ControlPlane.Time.Duration

/-!
# Instants

A point in universal time with nanoseconds, within the range of dates of the calendar. A leap
second is the second after the last one of a minute; it is kept as that last second with
nanoseconds beyond a whole second.

Outside leap seconds, the time between two instants and the instant after a time are plain
integer arithmetic on nanoseconds (`since_eq_sub`, `after?_eq_some`).
-/
namespace ControlPlane

/-- A point in time. -/
structure Instant where
  /-- Seconds since 1970-01-01, without leap seconds. -/
  seconds : Int
  /-- Nanoseconds of the second, beyond a whole one in a leap second. -/
  nanos : Nat
  /-- The date lies within the calendar. -/
  inCalendar : -96465292 * 86400 ≤ seconds ∧ seconds < 95026237 * 86400
  /-- Only the last second of a minute is followed by a leap second. -/
  subsecond : nanos < 1000000000 ∨ nanos < 2000000000 ∧ seconds % 60 = 59
deriving DecidableEq

namespace Instant

/-- The instant that seconds are counted from. -/
def epoch : Instant := ⟨0, 0, by decide, by decide⟩

/-- The instant with given parts, if they are in range. -/
def of? (seconds : Int) (nanos : Nat) : Option Instant :=
  if inCalendar : -96465292 * 86400 ≤ seconds ∧ seconds < 95026237 * 86400 then
    if subsecond : nanos < 1000000000 ∨ nanos < 2000000000 ∧ seconds % 60 = 59 then
      some ⟨seconds, nanos, inCalendar, subsecond⟩
    else none
  else none

/-- Whether the instant lies in a leap second. -/
def IsLeap (instant : Instant) : Prop := 1000000000 ≤ instant.nanos

/-- Whether an instant is in a leap second can be decided. -/
instance (instant : Instant) : Decidable instant.IsLeap :=
  inferInstanceAs (Decidable (_ ≤ _))

/-- The first instant is the second or earlier. -/
def le (first second : Instant) : Bool :=
  first.seconds < second.seconds ||
    (first.seconds = second.seconds && first.nanos ≤ second.nanos)

/-- Nanoseconds since 1970-01-01, a leap second running on into the next one. -/
def total (instant : Instant) : Int := instant.seconds * 1000000000 + instant.nanos

/-- The seconds since midnight. -/
def secondOfDay (instant : Instant) : Int := instant.seconds % 86400

/-- The leap second that lies between two times of day, counted with the sign of the time from
the second instant to the first. -/
def leapBetween (later earlier : Instant) : Int :=
  if earlier.secondOfDay < later.secondOfDay ∧ earlier.IsLeap then 1
  else if later.secondOfDay < earlier.secondOfDay ∧ later.IsLeap then -1
  else 0

/-- The nanoseconds from an earlier instant to a later one, negative if they are in the other
order. -/
def since (later earlier : Instant) : Int :=
  later.total - earlier.total + leapBetween later earlier * 1000000000

/-- The instant a duration later, `none` if it lies outside the calendar. A leap second counts as
the second before it, unless the result still lies in it. -/
def after? (instant : Instant) (duration : Duration) : Option Instant :=
  let nanos := instant.nanos + duration.subsecond
  if instant.IsLeap ∧ duration.seconds = 0 ∧ nanos < 2000000000 then of? instant.seconds nanos
  else
    let nanos := if instant.IsLeap then nanos - 1000000000 else nanos
    of? (instant.seconds + duration.seconds + (nanos / 1000000000 : Nat)) (nanos % 1000000000)

/-- The instant a number of seconds later, or earlier if it is negative. -/
def shift? (instant : Instant) (seconds : Int) : Option Instant :=
  of? (instant.seconds + seconds) instant.nanos

/-- Outside leap seconds the time between two instants is the difference of their totals. -/
theorem since_eq_sub {later earlier : Instant} (laterPlain : ¬ later.IsLeap)
    (earlierPlain : ¬ earlier.IsLeap) : later.since earlier = later.total - earlier.total := by
  simp [since, leapBetween, laterPlain, earlierPlain]

/-- Outside leap seconds, and within the calendar, a later instant has the sum as its total. -/
theorem after?_eq_some {instant result : Instant} {duration : Duration}
    (plain : ¬ instant.IsLeap) (found : instant.after? duration = some result) :
    result.total = instant.total + duration.nanoseconds := by
  simp only [after?, plain, false_and, if_false, of?] at found
  split at found
  · split at found
    · cases found
      simp only [total, Duration.seconds, Duration.subsecond, Duration.nanosPerSecond]
      omega
    · cases found
  · cases found

/-- No time after an instant outside leap seconds leads into one. -/
theorem not_isLeap_of_after? {instant result : Instant} {duration : Duration}
    (plain : ¬ instant.IsLeap) (found : instant.after? duration = some result) :
    ¬ result.IsLeap := by
  simp only [after?, plain, false_and, if_false, of?] at found
  split at found
  · split at found
    · cases found
      simp only [IsLeap]
      omega
    · cases found
  · cases found

/-- Outside leap seconds, instants are in the order of their totals. -/
theorem total_lt_of_le_eq_false {first second : Instant} (plain : ¬ second.IsLeap)
    (after : first.le second = false) : second.total < first.total := by
  simp only [le, Bool.or_eq_false_iff, Bool.and_eq_false_iff, decide_eq_false_iff_not] at after
  simp only [IsLeap] at plain
  simp only [total]
  omega

end Instant

end ControlPlane
