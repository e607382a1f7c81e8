import HttpScript.Cookie.Date
import Mathlib.Tactic.IntervalCases

/-! # The calendar behind cookie dates

Seconds since 1970, counted year by year and month by month, against the closed form that a date is
read with. The closed form begins its years in March and groups them by 400.

* `Moment.elapsed`: the count, by adding up the lengths of years and months.
* `exactDays`, `exactSeconds`: the closed form over all integers.
* `daysBefore_year`, `daysBefore_month`: the closed form goes up by the length of a year and of a
  month.
* `exactSeconds_moment`: both counts agree at every moment since 1970. -/

namespace HttpScript.Cookie.Date

/-! ### Counting by years and months -/

/-- A leap year: every fourth one, but of the centuries only every fourth. -/
def IsLeap (year : Nat) : Prop := 4 ∣ year ∧ ¬ 100 ∣ year ∨ 400 ∣ year

instance (year : Nat) : Decidable (IsLeap year) :=
  inferInstanceAs (Decidable (4 ∣ year ∧ ¬ 100 ∣ year ∨ 400 ∣ year))

def yearLength (year : Nat) : Nat := if IsLeap year then 366 else 365

/-- The days of a month, which is counted from 1. -/
def monthLength (year : Nat) : Nat → Nat
  | 2 => if IsLeap year then 29 else 28
  | 4 | 6 | 9 | 11 => 30
  | _ => 31

/-- The days of the first `n` years from 1970 on. -/
def daysOfYears : Nat → Nat
  | 0 => 0
  | n + 1 => daysOfYears n + yearLength (1970 + n)

/-- The days of the first `n` months of a year. -/
def daysOfMonths (year : Nat) : Nat → Nat
  | 0 => 0
  | n + 1 => daysOfMonths year n + monthLength year (n + 1)

/-- **A moment** since the start of 1970, as calendar and clock show it. -/
structure Moment where
  year : Nat
  /-- The month, from 1. -/
  month : Nat
  /-- The day of the month, from 1. -/
  day : Nat
  hour : Nat
  minute : Nat
  second : Nat
  year_ge : 1970 ≤ year
  month_pos : 1 ≤ month
  month_le : month ≤ 12
  day_pos : 1 ≤ day
  day_le : day ≤ monthLength year month
  hour_lt : hour < 24
  minute_lt : minute < 60
  second_lt : second < 60

namespace Moment

variable (t : Moment)

/-- **The seconds from the start of 1970 to a moment**: the years and months that have passed, the
days before this one, and the time of the day. -/
def elapsed : Nat :=
  86400 * (daysOfYears (t.year - 1970) + daysOfMonths t.year (t.month - 1) + (t.day - 1)) +
    3600 * t.hour + 60 * t.minute + t.second

/-- The fields in which a moment is written. -/
def fields : Fields := ⟨t.year, t.month, t.day, t.hour, t.minute, t.second⟩

theorem day_le_31 : t.day ≤ 31 := by
  have h := t.day_le
  have hlength : monthLength t.year t.month ≤ 31 := by
    unfold monthLength
    split <;> (try split) <;> omega
  omega

end Moment

/-! ### The closed form -/

/-- The year to which a month belongs where years begin in March. -/
def marchYear (d : Fields) : Int := if d.month ≤ 2 then d.year - 1 else d.year

/-- The days from the start of March to the start of a month. -/
def monthStart (month : Int) : Int := (153 * ((month + 9) % 12) + 2) / 5

/-- **The days from the start of 1970 to a date**, over all integers. -/
def exactDays (d : Fields) : Int :=
  let y := marchYear d
  y / 400 * 146097 + ((y - y / 400 * 400) * 365 + (y - y / 400 * 400) / 4 -
    (y - y / 400 * 400) / 100 + (monthStart d.month + d.day - 1)) - 719468

/-- The seconds from the start of 1970 to a date, over all integers. -/
def exactSeconds (d : Fields) : Int :=
  exactDays d * 86400 + d.hour * 3600 + d.minute * 60 + d.second

/-- The groups of 400 years drop out of the count: a leap day for every fourth year, without the
centuries, but with every fourth of them. -/
theorem exactDays_eq (d : Fields) : exactDays d = 365 * marchYear d + marchYear d / 4 -
    marchYear d / 100 + marchYear d / 400 + monthStart d.month + d.day - 719469 := by
  unfold exactDays
  dsimp only
  omega

/-- The days before the first of a month. -/
def daysBefore (year month : Nat) : Int := exactDays ⟨year, month, 1, 0, 0, 0⟩

theorem exactDays_day (d : Fields) (year month : Nat) (hyear : d.year = year)
    (hmonth : d.month = month) : exactDays d = daysBefore year month + (d.day - 1) := by
  unfold daysBefore
  rw [exactDays_eq, exactDays_eq]
  simp only [marchYear, hyear, hmonth]
  omega

theorem daysBefore_1970 : daysBefore 1970 1 = 0 := by decide

/-- The leap day of a year is where the number of fourth years goes up, less that of centuries, with
that of every fourth of them. -/
theorem yearLength_eq (year : Nat) : (yearLength year : Int) =
    365 + ((year / 4 - (year - 1) / 4 : Int) - (year / 100 - (year - 1) / 100 : Int) +
      (year / 400 - (year - 1) / 400 : Int)) := by
  by_cases hleap : IsLeap year
  · rw [yearLength, if_pos hleap]
    unfold IsLeap at hleap
    omega
  · rw [yearLength, if_neg hleap]
    unfold IsLeap at hleap
    omega

theorem monthLength_february (year : Nat) : monthLength year 2 + 337 = yearLength year := by
  simp only [monthLength, yearLength]
  split <;> rfl

/-- **One year more.** -/
theorem daysBefore_year (year : Nat) :
    daysBefore (year + 1) 1 = daysBefore year 1 + yearLength year := by
  have hjanuary : ((1 : Nat) : Int) ≤ 2 := by decide
  unfold daysBefore
  rw [exactDays_eq, exactDays_eq, yearLength_eq]
  simp only [marchYear, hjanuary, if_true]
  omega

/-- **One month more.** Behind February the closed form counts in the next year. -/
theorem daysBefore_month (year : Nat) {month : Nat} (hpos : 1 ≤ month) (hlt : month < 12) :
    daysBefore year (month + 1) = daysBefore year month + monthLength year month := by
  unfold daysBefore
  rw [exactDays_eq, exactDays_eq]
  by_cases hfebruary : month = 2
  · subst hfebruary
    have hlength := monthLength_february year
    have hyear := yearLength_eq year
    simp only [marchYear, monthStart]
    omega
  · interval_cases month <;> first
      | exact absurd rfl hfebruary
      | (simp only [marchYear, monthStart, monthLength]; omega)

theorem daysBefore_years (n : Nat) : daysBefore (1970 + n) 1 = daysOfYears n := by
  induction n with
  | zero => exact daysBefore_1970
  | succ n ih =>
    have hstep := daysBefore_year (1970 + n)
    rw [← Nat.add_assoc, hstep, ih, daysOfYears]
    push_cast
    rfl

theorem daysBefore_months (year : Nat) {n : Nat} (h : n < 12) :
    daysBefore year (n + 1) = daysBefore year 1 + daysOfMonths year n := by
  induction n with
  | zero => simp [daysOfMonths]
  | succ n ih =>
    have hstep := daysBefore_month year (Nat.le_add_left 1 n) h
    rw [hstep, ih (by omega), daysOfMonths]
    push_cast
    omega

/-- **The closed form counts days**: it adds up the lengths of all years and months before. -/
theorem exactDays_moment (t : Moment) : exactDays t.fields =
    (daysOfYears (t.year - 1970) + daysOfMonths t.year (t.month - 1) + (t.day - 1) : Nat) := by
  have hyear : 1970 + (t.year - 1970) = t.year := by have := t.year_ge; omega
  have hmonth : t.month - 1 + 1 = t.month := by have := t.month_pos; omega
  have hlt : t.month - 1 < 12 := by have := t.month_le; omega
  have hyears := daysBefore_years (t.year - 1970)
  have hmonths := daysBefore_months t.year hlt
  rw [hyear] at hyears
  rw [hmonth, hyears] at hmonths
  have hday := exactDays_day t.fields t.year t.month rfl rfl
  have hpos := t.day_pos
  rw [hday, hmonths]
  simp only [Moment.fields]
  omega

theorem exactSeconds_moment (t : Moment) : exactSeconds t.fields = t.elapsed := by
  unfold exactSeconds Moment.elapsed
  rw [exactDays_moment]
  simp only [Moment.fields]
  push_cast
  omega

end HttpScript.Cookie.Date
