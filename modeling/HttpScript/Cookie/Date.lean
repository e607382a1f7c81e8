import HttpScript.Decimal.Integer
import HttpScript.Text.Split

/-! # Dates of cookies

A date such as `Wed, 21 Oct 2015 07:28:00 GMT` as seconds since the start of 1970. The day of the
week and what follows the time are not looked at, hyphens may take the place of spaces, and a year
of two digits is one of the hundred from 1970 on.

The count of days is carried out in words of 64 bits: `Date.read` fails where a step does not fit
into one, which only a year or a time far beyond any date can bring about. -/

namespace HttpScript.Cookie.Date

/-- Why a text gives no date. -/
inductive Fault
  /-- It is not written like one. -/
  | form
  /-- A step of the count does not fit into a word. -/
  | overflow
  /-- It is before 1970. -/
  | past
  deriving DecidableEq, Repr

/-- The months in order, by their first three letters. -/
def months : List String :=
  ["jan", "feb", "mar", "apr", "may", "jun", "jul", "aug", "sep", "oct", "nov", "dec"]

/-- The fields of a date. -/
structure Fields where
  year : Int
  /-- The month, from 1. -/
  month : Int
  day : Int
  hour : Int
  minute : Int
  second : Int
  deriving DecidableEq, Repr, Inhabited

/-- The whole century of a year of two digits. -/
def fullYear (year : Int) : Int :=
  if year < 100 then year + (if year < 70 then 2000 else 1900) else year

/-- The number of a month. -/
def month? (l : List Char) : Option Nat :=
  (months.findIdx? fun m => Text.lowered l == m.toList).map (· + 1)

/-- Whether a character parts the fields of a date. -/
def isGap (c : Char) : Bool := Text.isWhite c || c == '-'

/-- **The fields of a written date.** -/
def fields? (s : String) : Option Fields := do
  let l := match Text.splitOnce ',' s.toList with
    | some (_, rest) => rest
    | none => s.toList
  match (l.splitOnP isGap).filter fun w => !w.isEmpty with
  | day :: month :: year :: time :: _ =>
    let day ← Decimal.int64? day
    let month ← month? month
    let year ← Decimal.int64? year
    match time.splitOn ':' with
    | hour :: minute :: second :: _ =>
      return ⟨fullYear year, month, day, ← Decimal.int64? hour, ← Decimal.int64? minute,
        ← Decimal.int64? second⟩
    | _ => none
  | _ => none

/-- A step of the count, which has to fit into a word. -/
def word (n : Int) : Except Fault Int := if Decimal.fits64 n then .ok n else .error .overflow

/-- **The seconds from the start of 1970 to a date**, in words. The year is taken to begin in March,
so that the leap day is its last; an era has 400 such years and 146097 days. -/
def seconds (d : Fields) : Except Fault Int := do
  let y ← if d.month ≤ 2 then word (d.year - 1) else pure d.year
  let era := y / 400
  let yearOfEra ← word (y - (← word (era * 400)))
  let monthFromMarch := (d.month + 9) % 12
  let dayOfYear ← word ((← word ((153 * monthFromMarch + 2) / 5 + d.day)) - 1)
  let dayOfEra ← word (yearOfEra * 365 + yearOfEra / 4 - yearOfEra / 100 + dayOfYear)
  let days ← word ((← word ((← word (era * 146097)) + dayOfEra)) - 719468)
  let hours ← word ((← word (days * 86400)) + (← word (d.hour * 3600)))
  let minutes ← word (hours + (← word (d.minute * 60)))
  word (minutes + d.second)

/-- Reads a date. -/
def read (s : String) : Except Fault Nat :=
  match fields? s with
  | none => .error .form
  | some d => do
    let n ← seconds d
    if n < 0 then throw .past else return n.toNat

/-- **The seconds that a written date stands for.** -/
def read? (s : String) : Option Nat := (read s).toOption

end HttpScript.Cookie.Date
