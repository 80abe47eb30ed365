import ControlPlane.Session.Credentials

/-!
# Expiry within a margin

Outside leap seconds the check of an expiration agrees with integer arithmetic on nanoseconds
wherever it answers. It has no answer exactly for the margins that are calendar durations but lead
beyond the last date of the calendar; the margins beyond those are answered, since they are longer
than the calendar is. Wherever there is no answer the expiration would be within the margin, so no
longer margin and no later instant turns an expiration within it into one that is not
(`expiry_exact`).
-/
namespace ControlPlane

namespace Instant

/-- The nanoseconds from 1970-01-01 to the end of the calendar. -/
def calendarEnd : Int := 95026237 * 86400 * 1000000000

variable {first second instant : Instant} {duration : Duration}

/-- Outside leap seconds an instant lies before the end of the calendar. -/
theorem total_lt_calendarEnd (plain : ¬ instant.IsLeap) : instant.total < calendarEnd := by
  have bound := instant.inCalendar.2
  simp only [IsLeap] at plain
  simp only [total, calendarEnd]
  omega

/-- Outside leap seconds instants are compared by their totals. -/
theorem le_iff_total_le (firstPlain : ¬ first.IsLeap) (secondPlain : ¬ second.IsLeap) :
    first.le second = true ↔ first.total ≤ second.total := by
  simp only [IsLeap] at firstPlain secondPlain
  simp only [le, Bool.or_eq_true, Bool.and_eq_true, decide_eq_true_eq, total]
  omega

/-- Outside leap seconds there is an instant a duration later if it is before the end of the
calendar. -/
theorem after?_eq_none_iff (plain : ¬ instant.IsLeap) :
    instant.after? duration = none ↔ calendarEnd ≤ instant.total + duration.nanoseconds := by
  have begins := instant.inCalendar.1
  have parts : duration.nanoseconds = duration.seconds * 1000000000 + duration.subsecond :=
    (Nat.div_add_mod' duration.nanoseconds 1000000000).symm
  have carried := Nat.div_add_mod' (instant.nanos + duration.subsecond) 1000000000
  have subsecond := Nat.mod_lt (instant.nanos + duration.subsecond) (y := 1000000000) (by decide)
  simp only [after?, plain, false_and, if_false, of?]
  split
  · rename_i inside
    rw [dif_pos (Or.inl subsecond)]
    simp only [reduceCtorEq, false_iff, total, calendarEnd]
    omega
  · rename_i outside
    simp only [true_iff, total, calendarEnd]
    omega

end Instant

namespace Credentials

variable {credentials : Credentials} {expiration now : Instant} {margin : Duration}

/-- The margin is a calendar duration, but the instant the margin later is not in the calendar. -/
def Overruns (margin : Duration) (now : Instant) : Prop :=
  margin.nanoseconds ≤ longestMarginMillis * 1000000 ∧
    Instant.calendarEnd ≤ now.total + margin.nanoseconds

/-- Whether a margin overruns the calendar can be decided. -/
instance (margin : Duration) (now : Instant) : Decidable (Overruns margin now) :=
  inferInstanceAs (Decidable (_ ∧ _))

/-- Beyond the calendar every expiration is within the margin. -/
theorem total_le_of_calendarEnd_le (plain : ¬ expiration.IsLeap)
    (beyond : Instant.calendarEnd ≤ now.total + margin.nanoseconds) :
    expiration.total ≤ now.total + margin.nanoseconds := by
  have before := Instant.total_lt_calendarEnd plain
  omega

/-- A margin that is not a calendar duration leads beyond the calendar from every instant. -/
theorem calendarEnd_le_of_long (long : longestMarginMillis * 1000000 < margin.nanoseconds) :
    Instant.calendarEnd ≤ now.total + margin.nanoseconds := by
  have longest : longestMarginMillis = 9223372036854775807 := by decide
  have begins := now.inCalendar.1
  rw [longest] at long
  simp only [Instant.total, Instant.calendarEnd]
  omega

/-- The longest calendar duration leads beyond the calendar from every instant too. -/
theorem overruns_longest (now : Instant) : Overruns ⟨longestMarginMillis * 1000000⟩ now := by
  have longest : longestMarginMillis = 9223372036854775807 := by decide
  have begins := now.inCalendar.1
  refine ⟨Nat.le_refl _, ?_⟩
  rw [longest]
  simp only [Instant.total, Instant.calendarEnd]
  omega

/-- The check of an expiration, by integer arithmetic. -/
theorem isReached?_eq (plain : ¬ expiration.IsLeap) (nowPlain : ¬ now.IsLeap) :
    isReached? expiration margin now =
      if Overruns margin now then none
      else some (decide (expiration.total ≤ now.total + margin.nanoseconds)) := by
  unfold isReached?
  by_cases long : longestMarginMillis * 1000000 < margin.nanoseconds
  · have reached : expiration.total ≤ now.total + margin.nanoseconds :=
      total_le_of_calendarEnd_le plain (calendarEnd_le_of_long long)
    have answers : ¬ Overruns margin now := fun overruns => by
      have short := overruns.1
      omega
    rw [if_pos long, if_neg answers, decide_eq_true reached]
  · rw [if_neg long]
    have calendar : margin.nanoseconds ≤ longestMarginMillis * 1000000 := by omega
    cases later : now.after? margin with
    | none =>
      rw [if_pos ⟨calendar, (Instant.after?_eq_none_iff nowPlain).mp later⟩, Option.map_none]
    | some limit =>
      have answers : ¬ Overruns margin now := fun overruns => by
        rw [(Instant.after?_eq_none_iff nowPlain).mpr overruns.2] at later
        cases later
      have limitPlain : ¬ limit.IsLeap := Instant.not_isLeap_of_after? nowPlain later
      have compared : expiration.le limit =
          decide (expiration.total ≤ now.total + margin.nanoseconds) := by
        rw [← Instant.after?_eq_some nowPlain later, Bool.eq_iff_iff, decide_eq_true_eq]
        exact Instant.le_iff_total_le plain limitPlain
      rw [if_neg answers, Option.map_some, compared]

/-- Outside leap seconds, credentials with an expiration expire within a margin exactly if it is no
later than the margin from now. There is no answer exactly if the margin overruns the calendar,
which some margin does from every instant; the expiration is within it then. Credentials that expire
within a margin are never found to last beyond a longer one, or at a later instant. -/
theorem expiry_exact (expires : credentials.expiration = some expiration)
    (plain : ¬ expiration.IsLeap) :
    (∀ margin now, ¬ now.IsLeap →
      credentials.expiresWithin? margin now =
        if Overruns margin now then none
        else some (decide (expiration.total ≤ now.total + margin.nanoseconds))) ∧
    (∀ margin now, Overruns margin now → expiration.total ≤ now.total + margin.nanoseconds) ∧
    (∀ now, Overruns ⟨longestMarginMillis * 1000000⟩ now) ∧
    ∀ margin longer now later, ¬ now.IsLeap → ¬ later.IsLeap →
      margin.nanoseconds ≤ longer.nanoseconds → now.total ≤ later.total →
      credentials.expiresWithin? margin now = some true →
      credentials.expiresWithin? longer later =
        if Overruns longer later then none else some true := by
  have answer (margin : Duration) (now : Instant) (nowPlain : ¬ now.IsLeap) :
      credentials.expiresWithin? margin now =
        if Overruns margin now then none
        else some (decide (expiration.total ≤ now.total + margin.nanoseconds)) := by
    simp only [expiresWithin?, expires]
    exact isReached?_eq plain nowPlain
  refine ⟨answer, ?_, overruns_longest, ?_⟩
  · intro margin now overruns
    exact total_le_of_calendarEnd_le plain overruns.2
  · intro margin longer now later nowPlain laterPlain extended passed within
    rw [answer margin now nowPlain] at within
    split at within
    · cases within
    · have reached : expiration.total ≤ now.total + margin.nanoseconds := by
        simpa using within
      have still : expiration.total ≤ later.total + longer.nanoseconds := by omega
      rw [answer longer later laterPlain, decide_eq_true still]

/-- Noon on 2024-03-01. -/
def noon : Instant := ⟨1709294400, 0, by decide, by decide⟩

/-- Credentials that expire five minutes after noon. -/
def shortLived : Credentials :=
  ⟨"AKIA", "secret", none, some ⟨1709294700, 0, by decide, by decide⟩⟩

/-- At noon they expire within five minutes, but not within a nanosecond less. -/
theorem expiry_exact_shortLived :
    shortLived.expiresWithin? (.ofSeconds 300) noon = some true ∧
      shortLived.expiresWithin? ⟨299999999999⟩ noon = some false ∧
      shortLived.expiresWithin? (.ofSeconds 9223372036854776) noon = some true := by
  have expires : shortLived.expiration = some ⟨1709294700, 0, by decide, by decide⟩ := rfl
  have exact := (expiry_exact expires (by decide)).1
  refine ⟨?_, ?_, ?_⟩
  · rw [exact _ noon (by decide)]
    decide
  · rw [exact _ noon (by decide)]
    decide
  · rw [exact _ noon (by decide)]
    decide

/-- Whether they expire within the 9223372036854775 seconds from noon has no answer, although the
instant these end is long after five minutes past noon. -/
theorem expiry_unanswered :
    ∃ expiration, shortLived.expiration = some expiration ∧ ¬ expiration.IsLeap ∧ ¬ noon.IsLeap ∧
      expiration.total ≤ noon.total + (Duration.ofSeconds 9223372036854775).nanoseconds ∧
      shortLived.expiresWithin? (.ofSeconds 9223372036854775) noon = none :=
  ⟨_, rfl, by decide, by decide, by decide, by decide⟩

end Credentials

end ControlPlane
