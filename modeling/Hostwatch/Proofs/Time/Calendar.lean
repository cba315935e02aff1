import Hostwatch.Time.Timestamp

/-!
# Days and dates

Each day has one date, and the date leads back to the day. The only rule of the calendar that is not
linear is the length of a year, so it is enough to look at the first and the last day of each of the
400 years of an era.
-/

namespace Hostwatch.Date

/-! ### Years of an era -/

/-- The first day of a year within its era. Years begin in March here. -/
def yearStart (y : Int) : Int := 365 * y + y / 4 - y / 100

/-- How many of the days of an era are no leap days, up to a day. -/
def commonDays (d : Int) : Int := d - d / 1460 + d / 36524 - d / 146096

theorem commonDays_le {a b : Int} (le : a ≤ b) : commonDays a ≤ commonDays b := by
  unfold commonDays
  have quarter (d : Int) : d / 146096 = d / 36524 / 4 := by omega
  have days : a - a / 1460 ≤ b - b / 1460 := by omega
  have centuries : a / 36524 ≤ b / 36524 := by omega
  rw [quarter a, quarter b]
  omega

theorem commonDays_years : ∀ y : Fin 400,
    commonDays (yearStart y) / 365 = y ∧ commonDays (yearStart (y + 1) - 1) / 365 = y := by
  decide +kernel

/-- The first and the last day of a year lie in it. -/
theorem commonDays_yearStart {n : Int} (least : 0 ≤ n) (less : n < 400) :
    commonDays (yearStart n) / 365 = n ∧ commonDays (yearStart (n + 1) - 1) / 365 = n := by
  have both := commonDays_years ⟨n.toNat, by omega⟩
  simpa [Int.toNat_of_nonneg least] using both

/-- The year of an era that a day lies in. -/
theorem exists_year {d : Int} (lower : 0 ≤ d) (upper : d < 146097) :
    ∃ y, y = commonDays d / 365 ∧ 0 ≤ y ∧ y < 400 ∧ yearStart y ≤ d ∧
      (d < yearStart (y + 1) ∨ y = 399 ∧ d = 146096) := by
  obtain ⟨y, year⟩ : ∃ y, y = commonDays d / 365 := ⟨_, rfl⟩
  have first : commonDays 0 ≤ commonDays d := commonDays_le lower
  have last : commonDays d ≤ commonDays 146096 := commonDays_le (by omega)
  have zero : commonDays 0 = 0 := by decide
  have all : commonDays 146096 = 145999 := by decide
  have low : 0 ≤ y := by omega
  have high : y < 400 := by omega
  refine ⟨y, year, low, high, ?_, ?_⟩
  · -- an earlier day would lie in the year before
    refine Int.not_lt.mp fun early => ?_
    have start : yearStart 0 = 0 := by decide
    have before : y ≠ 0 := by
      intro none
      rw [none, start] at early
      omega
    have le : commonDays d ≤ commonDays (yearStart (y - 1 + 1) - 1) := by
      refine commonDays_le ?_
      rw [Int.sub_add_cancel]
      omega
    have before := (commonDays_yearStart (n := y - 1) (by omega) (by omega)).2
    omega
  · rcases Int.lt_or_le d (yearStart (y + 1)) with within | late
    · exact .inl within
    · refine .inr ?_
      by_cases last_year : y = 399
      · have start : yearStart (399 + 1) = 146096 := by decide
        rw [last_year, start] at late
        exact ⟨last_year, by omega⟩
      · have le : commonDays (yearStart (y + 1)) ≤ commonDays d := commonDays_le late
        have after := (commonDays_yearStart (n := y + 1) (by omega) (by omega)).1
        omega

/-! ### Days of a year -/

/-- The month that a day of the year lies in, counted from March, and the day of the month. -/
def marchMonth (n : Int) : Int := (5 * n + 2) / 153

def dayOfMonth (n : Int) : Int := n - (153 * marchMonth n + 2) / 5 + 1

/-- The month as the calendar counts it. -/
def monthOf (n : Int) : Int := if marchMonth n < 10 then marchMonth n + 3 else marchMonth n - 9

/-- Only the last day of the year, the leap day, may be missing. -/
theorem dayOfMonth_le : ∀ n : Fin 366,
    1 ≤ monthOf n ∧ 1 ≤ dayOfMonth n ∧
      ((monthOf n + 9) % 12 = marchMonth n) ∧
      (dayOfMonth n ≤ daysInMonth 1 (monthOf n).toNat ∨
        (n : Int) = 365 ∧ monthOf n = 2 ∧ dayOfMonth n = 29) := by
  decide +kernel

/-! ### Dates -/

theorem bounds_of_isValid {d : Date} (valid : d.isValid = true) :
    (1 ≤ d.month ∧ d.month ≤ 12) ∧ 1 ≤ d.day ∧ d.day ≤ 31 := by
  simp only [isValid, Bool.and_eq_true, decide_eq_true_eq] at valid
  obtain ⟨first, last⟩ := valid
  unfold daysInMonth at last
  split at last
  · next february =>
      have long : d.day ≤ 29 := by
        split at last
        · exact last
        · omega
      omega
  all_goals omega

theorem daysInMonth_le (year : Int) (month : Nat) :
    daysInMonth 1 month ≤ daysInMonth year month := by
  have common : isLeapYear 1 = false := by decide
  unfold daysInMonth
  split
  · rw [common]
    cases isLeapYear year with
    | false => decide
    | true => decide
  all_goals exact Nat.le_refl _

/-- Where a day lies: in which era, in which of its years, and how many days after the first of
March. -/
structure Place (days era y n : Int) : Prop where
  days : days = era * 146097 + yearStart y + n - 719468
  year : 0 ≤ y ∧ y < 400
  day : 0 ≤ n ∧ n < 366
  leap : n = 365 → isLeapYear (y + era * 400 + 1) = true

theorem exists_place (days : Int) :
    ∃ era y n, Place days era y n ∧ ofDays days =
      ⟨y + era * 400 + (if monthOf n ≤ 2 then 1 else 0), (monthOf n).toNat,
        (dayOfMonth n).toNat⟩ := by
  obtain ⟨era, eras⟩ : ∃ era, era = (days + 719468) / 146097 := ⟨_, rfl⟩
  obtain ⟨d, rest⟩ : ∃ d, d = (days + 719468) % 146097 := ⟨_, rfl⟩
  obtain ⟨y, year, low, high, start, within⟩ := exists_year (d := d) (by omega) (by omega)
  have length : yearStart (y + 1) =
      yearStart y + 365 + ((y + 1) / 4 - y / 4) - ((y + 1) / 100 - y / 100) := by
    unfold yearStart
    omega
  refine ⟨era, y, d - yearStart y, ?_, ?_⟩
  · refine ⟨by omega, ⟨low, high⟩, ⟨by omega, ?_⟩, ?_⟩
    · rcases within with within | ⟨last_year, last⟩
      · omega
      · have begins : yearStart 399 = 145731 := by decide
        rw [last_year, begins]
        omega
    · intro leap_day
      simp only [isLeapYear, Bool.and_eq_true, Bool.or_eq_true, beq_iff_eq, bne_iff_ne]
      rcases within with within | ⟨last_year, last⟩
      · omega
      · omega
  · rw [year, rest, eras]
    rfl

theorem Place.dayOfMonth {days era y n : Int} (place : Place days era y n) :
    1 ≤ monthOf n ∧ 1 ≤ Date.dayOfMonth n ∧ (monthOf n + 9) % 12 = marchMonth n ∧
      (Date.dayOfMonth n ≤ daysInMonth 1 (monthOf n).toNat ∨
        n = 365 ∧ monthOf n = 2 ∧ Date.dayOfMonth n = 29) := by
  have bound := place.day
  have day := dayOfMonth_le ⟨n.toNat, by omega⟩
  simpa [Int.toNat_of_nonneg bound.1] using day

theorem isValid_ofDays (days : Int) : (ofDays days).isValid = true := by
  obtain ⟨era, y, n, place, date⟩ := exists_place days
  obtain ⟨month, day, -, fits⟩ := place.dayOfMonth
  rw [date]
  simp only [isValid, Bool.and_eq_true, decide_eq_true_eq]
  refine ⟨by omega, ?_⟩
  rcases fits with common | ⟨last, february, leap_day⟩
  · refine Nat.le_trans ?_ (daysInMonth_le _ _)
    omega
  · have leap := place.leap last
    rw [leap_day, february]
    simp [daysInMonth, leap]

/-- A day is told from its date. -/
theorem toDays_ofDays (days : Int) : (ofDays days).toDays = days := by
  obtain ⟨era, y, n, place, date⟩ := exists_place days
  obtain ⟨month, day, march, -⟩ := place.dayOfMonth
  have year := place.year
  have sum := place.days
  have number : Date.dayOfMonth n = n - (153 * marchMonth n + 2) / 5 + 1 := rfl
  rw [date]
  unfold toDays
  unfold yearStart at sum
  have months : ((monthOf n).toNat : Int) = monthOf n := Int.toNat_of_nonneg (by omega)
  have days : ((Date.dayOfMonth n).toNat : Int) = Date.dayOfMonth n :=
    Int.toNat_of_nonneg (by omega)
  dsimp only
  rw [months, days, march]
  have shift : (if (monthOf n).toNat ≤ 2 then
      y + era * 400 + (if monthOf n ≤ 2 then 1 else 0) - 1
      else y + era * 400 + (if monthOf n ≤ 2 then 1 else 0)) = y + era * 400 := by
    split
    · next early =>
        rw [if_pos (by omega)]
        omega
    · next late =>
        rw [if_neg (by omega)]
        omega
  rw [shift]
  omega

/-- January and February are the last months of a year that begins in March. -/
theorem monthOf_le_two {n : Int} (lower : 0 ≤ n) (upper : n < 366) : monthOf n ≤ 2 ↔ 306 ≤ n := by
  unfold monthOf marchMonth
  split
  · omega
  · omega

theorem year_ofDays_bounds {days : Int} (lower : (Date.mk (-262143) 1 1).toDays ≤ days)
    (upper : days < (Date.mk 262143 1 1).toDays) :
    -262143 ≤ (ofDays days).year ∧ (ofDays days).year ≤ 262142 := by
  have first : (Date.mk (-262143) 1 1).toDays = -96465292 := by decide
  have last : (Date.mk 262143 1 1).toDays = 95026237 := by decide
  obtain ⟨era, y, n, place, date⟩ := exists_place days
  have year := place.year
  have day := place.day
  have winter := monthOf_le_two day.1 day.2
  have sum := place.days
  unfold yearStart at sum
  have eras : -656 ≤ era ∧ era ≤ 655 := by omega
  rw [date]
  dsimp only
  constructor
  · -- the first year begins in an era of its own
    rcases Int.lt_or_eq_of_le eras.1 with later | rfl
    · split <;> omega
    · split <;> omega
  · rcases Int.lt_or_eq_of_le eras.2 with earlier | rfl
    · split <;> omega
    · split <;> omega

end Hostwatch.Date
