import AiWorld.Calendar.Gregorian

set_option autoImplicit false

namespace AiWorld.Hook

open AiWorld.Calendar

variable {cycle : Int}

-- Bash divides towards zero.
def yearOfEra (doe : Int) : Int := (doe - doe.tdiv 1460 + doe.tdiv 36524 - doe.tdiv 146096).tdiv 365

def dayOfYear (doe yoe : Int) : Int := doe - (365 * yoe + yoe.tdiv 4 - yoe.tdiv 100)

def monthFromMarch (doy : Int) : Int := (5 * doy + 2).tdiv 153

-- The fields of `fmt_utc`, before they are printed.
def utcFields (e : Int) : DateTime :=
  let days := e.tdiv 86400
  let secs := e.tmod 86400
  let z := days + 719468
  let era := z.tdiv 146097
  let doe := z - era * 146097
  let yoe := yearOfEra doe
  let y := yoe + era * 400
  let doy := dayOfYear doe yoe
  let mp := monthFromMarch doy
  let d := doy - (153 * mp + 2).tdiv 5 + 1
  let m := if mp < 10 then mp + 3 else mp - 9
  let year := if m ≤ 2 then y + 1 else y
  ⟨year, m, d, secs.tdiv 3600, (secs.tmod 3600).tdiv 60, secs.tmod 60⟩

-- `%0<width>d` of printf.
def zeroPadded (width : Nat) (value : Int) : String :=
  let digits := toString value.natAbs
  if value < 0 then "-" ++ "".pushn '0' (width - 1 - digits.length) ++ digits
  else "".pushn '0' (width - digits.length) ++ digits

def fmtUtc (e : Int) : String :=
  let t := utcFields e
  zeroPadded 4 t.year ++ "-" ++ zeroPadded 2 t.month ++ "-" ++ zeroPadded 2 t.day ++ "T" ++ zeroPadded 2 t.hour ++ ":" ++
    zeroPadded 2 t.minute ++ ":" ++ zeroPadded 2 t.second ++ "Z"

-- A day of an era by its century, four-year cycle, year and day, from March on. Only the
-- last year of a cycle has a leap day, but for three of the four centuries.
structure EraDay (doe century cycle rest doy : Int) : Prop where
  split : doe = 36524 * century + 1461 * cycle + 365 * rest + doy
  centuries : 0 ≤ century ∧ century ≤ 3
  cycles : 0 ≤ cycle ∧ cycle ≤ 24
  rests : 0 ≤ rest ∧ rest ≤ 3
  days : 0 ≤ doy ∧ (doy ≤ 364 ∨ doy = 365 ∧ rest = 3 ∧ (cycle ≤ 23 ∨ century = 3))

theorem era_day_exists (doe : Int) (start : 0 ≤ doe) (finish : doe < 146097) :
    ∃ century cycle rest doy, EraDay doe century cycle rest doy := by
  obtain ⟨century, centuryEq⟩ : ∃ century, century = min (doe / 36524) 3 := ⟨_, rfl⟩
  obtain ⟨ofCentury, ofCenturyEq⟩ : ∃ ofCentury, ofCentury = doe - 36524 * century := ⟨_, rfl⟩
  obtain ⟨cycle, cycleEq⟩ : ∃ cycle, cycle = min (ofCentury / 1461) 24 := ⟨_, rfl⟩
  obtain ⟨ofCycle, ofCycleEq⟩ : ∃ ofCycle, ofCycle = ofCentury - 1461 * cycle := ⟨_, rfl⟩
  obtain ⟨rest, restEq⟩ : ∃ rest, rest = min (ofCycle / 365) 3 := ⟨_, rfl⟩
  have inCentury : 0 ≤ century ∧ century ≤ 3 ∧ 0 ≤ ofCentury ∧ (ofCentury ≤ 36523 ∨ ofCentury = 36524 ∧ century = 3) := by omega
  have inCycle : 0 ≤ cycle ∧ cycle ≤ 24 ∧ 0 ≤ ofCycle ∧ (ofCycle ≤ 1459 ∨ ofCycle = 1460 ∧ (cycle ≤ 23 ∨ century = 3)) := by omega
  refine ⟨century, cycle, rest, ofCycle - 365 * rest, ?_, ?_, ?_, ?_, ?_⟩ <;> omega

section
variable {doe century cycle rest doy : Int}

theorem year_of_era_eq (era : EraDay doe century cycle rest doy) : yearOfEra doe = 100 * century + 4 * cycle + rest := by
  obtain ⟨split, centuries, cycles, rests, days⟩ := era
  have positive : 0 ≤ doe := by omega
  obtain ⟨leap, quotient, late⟩ : ∃ leap, doe / 1460 = 25 * century + cycle + leap ∧
      (leap = 0 ∧ 24 * century + cycle + 365 * rest + doy < 1460 ∨ leap = 1 ∧ 1460 ≤ 24 * century + cycle + 365 * rest + doy) := by
    by_cases early : 24 * century + cycle + 365 * rest + doy < 1460
    · exact ⟨0, by omega, .inl ⟨rfl, early⟩⟩
    · exact ⟨1, by omega, .inr ⟨rfl, by omega⟩⟩
  have whole : doe / 36524 - doe / 146096 = century := by
    have inside : doe - 36524 * century ≤ 36523 ∨ doe = 146096 ∧ century = 3 := by omega
    rcases inside with inside | ⟨last, same⟩ <;> omega
  have numerator : doe - doe / 1460 + doe / 36524 - doe / 146096 =
      365 * (100 * century + 4 * cycle + rest) + (doy - leap) := by omega
  have remainder : 0 ≤ doy - leap ∧ doy - leap ≤ 364 := by omega
  rw [yearOfEra, Int.tdiv_eq_ediv_of_nonneg positive, Int.tdiv_eq_ediv_of_nonneg positive, Int.tdiv_eq_ediv_of_nonneg positive,
    numerator, Int.tdiv_eq_ediv_of_nonneg (by omega)]
  omega

theorem day_of_year_eq (era : EraDay doe century cycle rest doy) : dayOfYear doe (100 * century + 4 * cycle + rest) = doy := by
  obtain ⟨split, centuries, cycles, rests, days⟩ := era
  have positive : 0 ≤ 100 * century + 4 * cycle + rest := by omega
  rw [dayOfYear, Int.tdiv_eq_ediv_of_nonneg positive, Int.tdiv_eq_ediv_of_nonneg positive]
  omega

end

-- The day of a year that starts in March, as a month and a day of the calendar.
theorem month_from_march_bounds (doy : Int) (start : 0 ≤ doy) (finish : doy ≤ 365) :
    0 ≤ monthFromMarch doy ∧ monthFromMarch doy ≤ 11 ∧ monthFromMarch doy = (5 * doy + 2) / 153 := by
  rw [monthFromMarch, Int.tdiv_eq_ediv_of_nonneg (by omega)]
  omega

theorem march_year_leap (era century rest : Int) (cycles : 0 ≤ cycle ∧ cycle ≤ 24)
    (leap : rest = 3 ∧ (cycle ≤ 23 ∨ century = 3)) : isLeap (100 * century + 4 * cycle + rest + era * 400 + 1) = true := by
  simp only [isLeap, decide_eq_true_eq]
  omega

theorem march_day_valid {year : Int} (doy : Int) (start : 0 ≤ doy) (finish : doy ≤ 364 ∨ doy = 365 ∧ isLeap (year + 1) = true) (mp : Int)
    (month : mp = (5 * doy + 2) / 153) :
    1 ≤ doy - (153 * mp + 2) / 5 + 1 ∧
      doy - (153 * mp + 2) / 5 + 1 ≤
        monthLength (if (if mp < 10 then mp + 3 else mp - 9) ≤ 2 then year + 1 else year) (if mp < 10 then mp + 3 else mp - 9) := by
  have low : 0 ≤ mp := by omega
  have high : mp ≤ 11 := by omega
  refine ⟨by omega, ?_⟩
  by_cases february : mp = 11
  · subst february
    rcases finish with common | ⟨last, leap⟩
    · simp only [monthLength]
      split <;> simp_all <;> omega
    · simp [monthLength, leap]
      omega
  · interval_cases mp <;> simp [monthLength] <;> omega

theorem march_leap_days (era century rest : Int) (centuries : 0 ≤ century ∧ century ≤ 3) (cycles : 0 ≤ cycle ∧ cycle ≤ 24)
    (rests : 0 ≤ rest ∧ rest ≤ 3) :
    leapDays (100 * century + 4 * cycle + rest + era * 400) = 24 * century + cycle + 97 * era := by
  have fourth : (100 * century + 4 * cycle + rest + era * 400) / 4 = 25 * century + cycle + 100 * era := by omega
  have hundredth : (100 * century + 4 * cycle + rest + era * 400) / 100 = century + 4 * era := by omega
  have whole : (100 * century + 4 * cycle + rest + era * 400) / 400 = era := by omega
  rw [leapDays, fourth, hundredth, whole]
  omega

-- The closed form of the days up to a day of a year that starts in March.
theorem march_days (year : Int) {doy : Int} {mp : Int} (day : Int) (march : mp = (5 * doy + 2) / 153) (start : 0 ≤ doy) (finish : doy ≤ 365)
    (sameDay : day = doy - (153 * mp + 2) / 5 + 1) (since : 719468 ≤ 365 * year + leapDays year + doy) :
    1970 ≤ (if (if mp < 10 then mp + 3 else mp - 9) ≤ 2 then year + 1 else year) ∧
      daysBeforeYear 1970 (if (if mp < 10 then mp + 3 else mp - 9) ≤ 2 then year + 1 else year) +
        daysBeforeMonth (if (if mp < 10 then mp + 3 else mp - 9) ≤ 2 then year + 1 else year) (if mp < 10 then mp + 3 else mp - 9) +
        (day - 1) = 365 * year + leapDays year + doy - 719468 := by
  have low : 0 ≤ mp := by omega
  have high : mp ≤ 11 := by omega
  have base : leapDays 1969 = 477 := rfl
  by_cases late : mp < 10
  · have month : ¬ mp + 3 ≤ 2 := by omega
    have after : 1970 ≤ year := by
      unfold leapDays at since
      omega
    rw [if_pos late, if_neg month]
    refine ⟨after, ?_⟩
    rw [days_before_year_eq after, days_before_month_late year (by omega) (by omega),
      year_length_leap_days year, show (1970 : Int) - 1 = 1969 from rfl, base, show mp + 3 - 3 = mp by omega]
    omega
  · have month : mp - 9 ≤ 2 := by omega
    have after : 1970 ≤ year + 1 := by
      unfold leapDays at since
      omega
    rw [if_neg late, if_pos month]
    refine ⟨after, ?_⟩
    rw [days_before_year_eq after, days_before_month_early (year + 1) (by omega) month,
      add_sub_cancel_right, show (1970 : Int) - 1 = 1969 from rfl, base, show mp - 9 + 9 = mp by omega]
    omega

theorem utc_fields_exact (e : Int) (natural : 0 ≤ e) :
    1970 ≤ (utcFields e).year ∧ (utcFields e).Valid ∧ (utcFields e).secondsSince 1970 = e := by
  obtain ⟨z, zEq⟩ : ∃ z, z = e / 86400 + 719468 := ⟨_, rfl⟩
  have positive : 0 ≤ z := by omega
  obtain ⟨century, cycle, rest, doy, eraDay⟩ := era_day_exists (z - z / 146097 * 146097) (by omega) (by omega)
  have days := eraDay.days
  obtain ⟨mpLow, mpHigh, mpEq⟩ := month_from_march_bounds doy days.1 (by omega)
  obtain ⟨year, yearEq⟩ : ∃ year, year = 100 * century + 4 * cycle + rest + z / 146097 * 400 := ⟨_, rfl⟩
  have shape : utcFields e = ⟨if (if monthFromMarch doy < 10 then monthFromMarch doy + 3 else monthFromMarch doy - 9) ≤ 2 then year + 1
      else year, if monthFromMarch doy < 10 then monthFromMarch doy + 3 else monthFromMarch doy - 9,
      doy - (153 * monthFromMarch doy + 2) / 5 + 1, e % 86400 / 3600, e % 86400 % 3600 / 60, e % 86400 % 60⟩ := by
    simp only [utcFields]
    rw [Int.tdiv_eq_ediv_of_nonneg natural, Int.tmod_eq_emod_of_nonneg natural, ← zEq, Int.tdiv_eq_ediv_of_nonneg positive,
      year_of_era_eq eraDay, day_of_year_eq eraDay, ← yearEq, Int.tdiv_eq_ediv_of_nonneg (by omega),
      Int.tdiv_eq_ediv_of_nonneg (by omega), Int.tmod_eq_emod_of_nonneg (by omega), Int.tdiv_eq_ediv_of_nonneg (by omega),
      Int.tmod_eq_emod_of_nonneg (by omega)]
  have leap : doy ≤ 364 ∨ doy = 365 ∧ isLeap (year + 1) = true := by
    rcases days.2 with common | ⟨last, fourth⟩
    · exact .inl common
    · exact .inr ⟨last, yearEq ▸ march_year_leap (z / 146097) century rest eraDay.cycles fourth⟩
  have closed : 365 * year + leapDays year + doy = z := by
    rw [yearEq, march_leap_days (z / 146097) century rest eraDay.centuries eraDay.cycles eraDay.rests]
    have split := eraDay.split
    omega
  have dayValid := march_day_valid doy days.1 leap (monthFromMarch doy) mpEq
  obtain ⟨after, total⟩ := march_days year _ mpEq days.1 (by omega) rfl (by omega)
  rw [shape]
  refine ⟨after, ⟨?_, dayValid, ?_, ?_, ?_⟩, ?_⟩
  · dsimp only
    split <;> omega
  · dsimp only
    omega
  · dsimp only
    omega
  · dsimp only
    omega
  · simp only [DateTime.secondsSince, DateTime.daysSince]
    rw [total]
    omega

-- The seconds since the epoch are what is printed, so later times print later.
theorem utc_fields_faithful (e : Int) (natural : 0 ≤ e) :
    ((utcFields e).Valid ∧ 1970 ≤ (utcFields e).year ∧ (utcFields e).secondsSince 1970 = e) ∧
      ∀ later, 0 ≤ later → (utcFields e = utcFields later → e = later) ∧
        ((utcFields e).Before (utcFields later) ↔ e < later) := by
  obtain ⟨start, valid, exact⟩ := utc_fields_exact e natural
  refine ⟨⟨valid, start, exact⟩, fun later naturalToo => ?_⟩
  obtain ⟨startToo, validToo, exactToo⟩ := utc_fields_exact later naturalToo
  refine ⟨fun same => ?_, ?_⟩
  · rw [← exact, ← exactToo, same]
  · rw [before_iff_seconds 1970 _ _ valid validToo start startToo, exact, exactToo]

theorem utc_fields_of_leap_day :
    (0 : Int) ≤ 1709251199 ∧ utcFields 1709251199 = ⟨2024, 2, 29, 23, 59, 59⟩ ∧
      (utcFields 1709251199).secondsSince 1970 = 1709251199 :=
  ⟨by decide, by decide +kernel, (utc_fields_faithful 1709251199 (by decide)).1.2.2⟩

example : fmtUtc 0 = "1970-01-01T00:00:00Z" := by decide +kernel

example : fmtUtc 1709164799 = "2024-02-28T23:59:59Z" := by decide +kernel

end AiWorld.Hook
