import Mathlib.Algebra.BigOperators.Group.Finset.Basic
import Mathlib.Algebra.Order.BigOperators.Group.Finset
import Mathlib.Algebra.Order.Group.Int
import Mathlib.Tactic.IntervalCases

set_option autoImplicit false

namespace AiWorld.Calendar

variable {month first : Int}

-- The proleptic Gregorian calendar, without time zones and leap seconds.
structure DateTime where
  year : Int
  month : Int
  day : Int
  hour : Int
  minute : Int
  second : Int
deriving DecidableEq, Repr

def isLeap (year : Int) : Bool := year % 4 = 0 ∧ (year % 100 ≠ 0 ∨ year % 400 = 0)

def yearLength (year : Int) : Int := if isLeap year then 366 else 365

def monthLength (year month : Int) : Int :=
  if month = 2 then if isLeap year then 29 else 28
  else if month = 4 ∨ month = 6 ∨ month = 9 ∨ month = 11 then 30
  else 31

structure DateTime.Valid (t : DateTime) : Prop where
  month : 1 ≤ t.month ∧ t.month ≤ 12
  day : 1 ≤ t.day ∧ t.day ≤ monthLength t.year t.month
  hour : 0 ≤ t.hour ∧ t.hour < 24
  minute : 0 ≤ t.minute ∧ t.minute < 60
  second : 0 ≤ t.second ∧ t.second < 60

-- The lengths of what comes from `first` on before `last`.
def lengthBefore (length : Int → Int) (first last : Int) : Int := ∑ count ∈ Finset.range (last - first).toNat, length (first + count)

def daysBeforeYear (first year : Int) : Int := lengthBefore yearLength first year

def daysBeforeMonth (year month : Int) : Int := lengthBefore (monthLength year) 1 month

-- From the first of January of the year `first` on.
def DateTime.daysSince (first : Int) (t : DateTime) : Int :=
  daysBeforeYear first t.year + daysBeforeMonth t.year t.month + (t.day - 1)

def DateTime.secondsSince (first : Int) (t : DateTime) : Int :=
  t.daysSince first * 86400 + t.hour * 3600 + t.minute * 60 + t.second

-- The lexicographic order of the fields.
def DateTime.Before (t u : DateTime) : Prop :=
  t.year < u.year ∨ t.year = u.year ∧ (t.month < u.month ∨ t.month = u.month ∧ (t.day < u.day ∨ t.day = u.day ∧
    (t.hour < u.hour ∨ t.hour = u.hour ∧ (t.minute < u.minute ∨ t.minute = u.minute ∧ t.second < u.second))))

theorem year_length_cases (year : Int) : yearLength year = 365 ∨ yearLength year = 366 := by
  unfold yearLength
  split
  · exact .inr rfl
  · exact .inl rfl

theorem month_length_positive (year month : Int) : 0 ≤ monthLength year month := by
  unfold monthLength
  repeat' split
  all_goals omega

theorem length_next (length : Int → Int) {last : Int} (inside : first ≤ last) :
    lengthBefore length first (last + 1) = lengthBefore length first last + length last := by
  have count : (last + 1 - first).toNat = (last - first).toNat + 1 := by omega
  have place : first + ((last - first).toNat : Int) = last := by omega
  rw [lengthBefore, lengthBefore, count, Finset.sum_range_succ, place]

-- Up to a later one, the lengths cover those before it and its own.
theorem length_covers (length : Int → Int) (positive : ∀ index, 0 ≤ length index) (first : Int) {middle : Int} (last : Int) (inside : first ≤ middle)
    (later : middle < last) : lengthBefore length first middle + length middle ≤ lengthBefore length first last := by
  rw [← length_next length inside]
  apply Finset.sum_le_sum_of_subset_of_nonneg
  · apply Finset.range_mono
    omega
  · exact fun index _ _ => positive _

theorem months_of_year (year : Int) : daysBeforeMonth year 13 = yearLength year := by
  have months : (13 - 1 : Int).toNat = 12 := rfl
  simp only [daysBeforeMonth, lengthBefore, yearLength, monthLength, months]
  cases isLeap year <;> decide

variable {t u : DateTime}

theorem days_of_month (valid : t.Valid) : daysBeforeMonth t.year t.month + t.day ≤ yearLength t.year := by
  have covers := length_covers (monthLength t.year) (month_length_positive t.year) 1 13 valid.month.1 (by have := valid.month; omega)
  have whole := months_of_year t.year
  have last := valid.day.2
  unfold daysBeforeMonth at whole ⊢
  omega

theorem months_positive (year month : Int) : 0 ≤ daysBeforeMonth year month := by
  rw [daysBeforeMonth, lengthBefore]
  exact Finset.sum_nonneg (fun _ _ => month_length_positive year _)

-- A day of the calendar is longer than any time of day.
theorem seconds_lt_of_days (valid : t.Valid) (validToo : u.Valid) (earlier : t.daysSince first < u.daysSince first) :
    t.secondsSince first < u.secondsSince first := by
  obtain ⟨-, -, ⟨-, hour⟩, ⟨-, minute⟩, ⟨-, second⟩⟩ := valid
  obtain ⟨-, -, ⟨hourToo, -⟩, ⟨minuteToo, -⟩, ⟨secondToo, -⟩⟩ := validToo
  unfold DateTime.secondsSince
  omega

theorem seconds_lt_of_before (valid : t.Valid) (validToo : u.Valid) (start : first ≤ t.year) (before : t.Before u) :
    t.secondsSince first < u.secondsSince first := by
  rcases before with year | ⟨year, month | ⟨month, day | ⟨day, time⟩⟩⟩
  · apply seconds_lt_of_days valid validToo
    have covers := length_covers yearLength (fun other => by rcases year_length_cases other with same | same <;> omega) first
      u.year start year
    have inside := days_of_month valid
    have natural := months_positive u.year u.month
    have firstDay := validToo.day.1
    unfold DateTime.daysSince daysBeforeYear
    omega
  · apply seconds_lt_of_days valid validToo
    have covers := length_covers (monthLength u.year) (month_length_positive u.year) 1 u.month valid.month.1 month
    have lastDay := valid.day.2
    have firstDay := validToo.day.1
    rw [year] at lastDay
    unfold DateTime.daysSince daysBeforeMonth
    rw [year]
    omega
  · apply seconds_lt_of_days valid validToo
    unfold DateTime.daysSince
    rw [year, month]
    omega
  · have days : t.daysSince first = u.daysSince first := by
      unfold DateTime.daysSince
      rw [year, month, day]
    obtain ⟨-, -, ⟨-, hour⟩, ⟨minute, minuteEnd⟩, ⟨second, secondEnd⟩⟩ := valid
    obtain ⟨-, -, ⟨-, hourToo⟩, ⟨minuteToo, minuteEndToo⟩, ⟨secondToo, secondEndToo⟩⟩ := validToo
    unfold DateTime.secondsSince
    rw [days]
    omega

theorem before_total (apart : t ≠ u) : t.Before u ∨ u.Before t := by
  by_contra neither
  apply apart
  unfold DateTime.Before at neither
  obtain ⟨year, month, day, hour, minute, second⟩ := t
  obtain ⟨yearToo, monthToo, dayToo, hourToo, minuteToo, secondToo⟩ := u
  simp only [DateTime.mk.injEq]
  simp only at neither
  omega

-- The seconds order valid dates as their fields do.
theorem before_iff_seconds (first : Int) (t u : DateTime) (valid : t.Valid) (validToo : u.Valid) (start : first ≤ t.year)
    (startToo : first ≤ u.year) : t.Before u ↔ t.secondsSince first < u.secondsSince first := by
  constructor
  · exact seconds_lt_of_before valid validToo start
  · intro less
    by_cases same : t = u
    · rw [same] at less
      exact absurd less (lt_irrefl _)
    · rcases before_total same with before | after
      · exact before
      · have greater := seconds_lt_of_before validToo valid startToo after
        omega

-- The leap days of the years up to `year`.
def leapDays (year : Int) : Int := year / 4 - year / 100 + year / 400

theorem year_length_leap_days (year : Int) : yearLength year = 365 + leapDays year - leapDays (year - 1) := by
  unfold yearLength leapDays
  by_cases leap : isLeap year = true
  · rw [if_pos leap]
    simp only [isLeap, decide_eq_true_eq] at leap
    omega
  · rw [if_neg leap]
    simp only [isLeap, decide_eq_true_eq] at leap
    omega

theorem days_before_year_eq {year : Int} (start : first ≤ year) :
    daysBeforeYear first year = 365 * (year - first) + leapDays (year - 1) - leapDays (first - 1) := by
  induction year, start using Int.leInduction with
  | base => simp [daysBeforeYear, lengthBefore]
  | succ year start ih =>
      unfold daysBeforeYear at ih ⊢
      rw [length_next yearLength start, ih, year_length_leap_days year, add_sub_cancel_right]
      omega

-- The months counted from March, so that the leap day is the last day of a year.
theorem days_before_month_late (year : Int) (march : 3 ≤ month) (december : month ≤ 12) :
    daysBeforeMonth year month = (153 * (month - 3) + 2) / 5 + yearLength year - 306 := by
  have months : ∀ last : Int, 3 ≤ last → last ≤ 12 → ∀ leap : Bool,
      lengthBefore (fun earlier => if earlier = 2 then if leap then 29 else 28
        else if earlier = 4 ∨ earlier = 6 ∨ earlier = 9 ∨ earlier = 11 then 30 else 31) 1 last =
      (153 * (last - 3) + 2) / 5 + (if leap then 366 else 365) - 306 := by
    intro last low high leap
    interval_cases last <;> cases leap <;> decide
  exact months month march december (isLeap year)

theorem days_before_month_early (year : Int) (january : 1 ≤ month) (february : month ≤ 2) :
    daysBeforeMonth year month = (153 * (month + 9) + 2) / 5 - 306 := by
  have first : month = 1 ∨ month = 2 := by omega
  rcases first with rfl | rfl
  · rfl
  · rfl

end AiWorld.Calendar
