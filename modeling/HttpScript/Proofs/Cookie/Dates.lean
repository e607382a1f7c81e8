import HttpScript.Proofs.Cookie.Arithmetic
import HttpScript.Proofs.Grammar.Numbers
import Mathlib

/-! # Written dates

The two forms in which a moment is written in a header, and what is read from them: neither the day
of the week nor the case of the month's name counts.

* `Moment.fixdate`, `Moment.hyphenated`: the forms `Wed, 21 Oct 2015 07:28:00 GMT` and
  `Wednesday, 21-Oct-15 07:28:00 GMT`.
* `fields?_written`: the fields of a date, whatever parts them.
* `read?_written`: a written moment is read as the seconds that have passed until then. -/

namespace HttpScript.Cookie.Date

open Grammar (digits_cons isDigits_toDigits natOfDigits_toDigits)
open Script.Numeral (IsDigits)

/-! ### Writing -/

/-- A number below 100 with two digits. -/
def twoDigits (n : Nat) : List Char := [Nat.digitChar (n / 10), Nat.digitChar (n % 10)]

def monthNames : List String :=
  ["Jan", "Feb", "Mar", "Apr", "May", "Jun", "Jul", "Aug", "Sep", "Oct", "Nov", "Dec"]

/-- The name of a month, in letters of either case. -/
def IsMonthName (name : String) (month : Nat) : Prop :=
  monthNames[month - 1]?.map (fun m => Text.lowered m.toList) = some (Text.lowered name.toList)

instance (name : String) (month : Nat) : Decidable (IsMonthName name month) :=
  inferInstanceAs (Decidable (_ = _))

/-- A date with a character between its fields. -/
def written (weekday : String) (gap : Char) (day month year time : List Char) : String :=
  .ofList (weekday.toList ++ ',' :: ' ' :: (day ++ gap :: (month ++ gap :: (year ++ ' ' ::
    (time ++ " GMT".toList)))))

namespace Moment

variable (t : Moment)

/-- The time of the day. -/
def time : List Char :=
  twoDigits t.hour ++ ':' :: (twoDigits t.minute ++ ':' :: twoDigits t.second)

/-- **The fixed form** of a moment: `Wed, 21 Oct 2015 07:28:00 GMT`. -/
def fixdate (weekday month : String) : String :=
  written weekday ' ' (twoDigits t.day) month.toList (Nat.toDigits 10 t.year) t.time

/-- **The form with hyphens** and two digits for the year: `Wednesday, 21-Oct-15 07:28:00 GMT`. -/
def hyphenated (weekday month : String) : String :=
  written weekday '-' (twoDigits t.day) month.toList (twoDigits (t.year % 100)) t.time

end Moment

/-! ### Numbers and names -/

/-- A text that is a field by itself. -/
structure IsField (w : List Char) : Prop where
  ne_nil : w ≠ []
  no_gap : ∀ c ∈ w, isGap c = false

theorem isGap_of_isAlphanum {c : Char} (h : c.isAlphanum = true) : isGap c = false := by
  have hrange : 48 ≤ c.toNat ∧ c.toNat ≤ 57 ∨ 65 ≤ c.toNat ∧ c.toNat ≤ 90 ∨
      97 ≤ c.toNat ∧ c.toNat ≤ 122 := by
    simp [Char.isAlphanum, Char.isAlpha, Char.isUpper, Char.isLower, Char.isDigit,
      UInt32.le_iff_toNat_le] at h
    omega
  have hhyphen : c ≠ '-' := by rintro rfl; simp at hrange
  have hwhite : Text.isWhite c = false := by
    simp only [Text.isWhite, Bool.or_eq_false_iff, Bool.and_eq_false_iff, decide_eq_false_iff_not,
      beq_eq_false_iff_ne]
    omega
  simp [isGap, hwhite, hhyphen]

/-- **Digits that write a number**, which is a word. -/
structure Writes (w : List Char) (n : Nat) : Prop where
  digits : IsDigits w
  value : Decimal.natOfDigits w = n
  fits : n ≤ 9223372036854775807

theorem writes_twoDigits {n : Nat} (h : n < 100) : Writes (twoDigits n) n := by
  have hdigits : ∀ n < 100, (twoDigits n).all Char.isDigit = true := by decide
  have hvalue : ∀ n < 100, Decimal.natOfDigits (twoDigits n) = n := by decide
  exact ⟨⟨by simp [twoDigits], List.all_eq_true.mp (hdigits n h)⟩, hvalue n h, by omega⟩

theorem writes_toDigits {n : Nat} (h : n ≤ 9223372036854775807) : Writes (Nat.toDigits 10 n) n :=
  ⟨isDigits_toDigits n, natOfDigits_toDigits n, h⟩

theorem takeSign_of_isDigits {w : List Char} (hw : IsDigits w) :
    Decimal.takeSign w = (false, w) := by
  obtain ⟨c, k, rfl, hc⟩ := digits_cons hw
  unfold Decimal.takeSign
  split
  · simp_all
  · simp_all
  · rfl

namespace Writes

variable {w : List Char} {n : Nat}

theorem int64? (h : Writes w n) : Decimal.int64? w = some (n : Int) := by
  have hall : w.all Char.isDigit = true := List.all_eq_true.mpr h.digits.2
  have hnat : Decimal.nat? w = some n := by simp [Decimal.nat?, h.digits.1, hall, h.value]
  have hint : Decimal.int? w = some (n : Int) := by
    simp [Decimal.int?, takeSign_of_isDigits h.digits, hnat]
  have hword : Decimal.fits64 n = true := (fits64_iff n).mpr (by have := h.fits; omega)
  simp [Decimal.int64?, hint, Option.filter, hword]

theorem isField (h : Writes w n) : IsField w :=
  ⟨h.digits.1, fun c hc => isGap_of_isAlphanum (by simp [Char.isAlphanum, h.digits.2 c hc])⟩

theorem colon_not_mem (h : Writes w n) : ':' ∉ w := fun hc => by
  simpa using h.digits.2 ':' hc

end Writes

theorem IsMonthName.months_eq {name : String} {month : Nat} (h : IsMonthName name month) :
    months[month - 1]? = some (.ofList (Text.lowered name.toList)) := by
  have hmonths : months = monthNames.map fun m => .ofList (Text.lowered m.toList) := by decide
  obtain ⟨m, hm, hname⟩ := Option.map_eq_some_iff.mp h
  rw [hmonths, List.getElem?_map, hm, ← hname]
  rfl

theorem isField_of_isMonthName {name : String} {month : Nat} (h : IsMonthName name month) :
    IsField name.toList := by
  have hmem := List.mem_of_getElem? h.months_eq
  have hletters : ∀ m ∈ months, m.toList ≠ [] ∧ m.toList.all Char.isAlpha = true := by decide
  obtain ⟨hne, hall⟩ := hletters _ hmem
  rw [String.toList_ofList] at hne hall
  rw [List.all_eq_true] at hall
  constructor
  · rintro hnil
    simp [hnil, Text.lowered] at hne
  · intro c hc
    have hletter := hall c.toLower (List.mem_map_of_mem hc)
    rw [Char.isAlpha_toLower_eq_isAlpha] at hletter
    exact isGap_of_isAlphanum (by simp [Char.isAlphanum, hletter])

theorem month?_of_isMonthName {name : String} {month : Nat} (h : IsMonthName name month)
    (hpos : 1 ≤ month) : month? name.toList = some month := by
  have hplaces : ∀ i < 12, ∀ m, months[i]? = some m →
      months.findIdx? (fun n => m.toList == n.toList) = some i := by decide
  have hlt : month - 1 < 12 := (List.getElem?_eq_some_iff.mp h.months_eq).1
  have hplace := hplaces (month - 1) hlt _ h.months_eq
  rw [String.toList_ofList] at hplace
  unfold month?
  rw [hplace, Option.map_some, Nat.sub_add_cancel hpos]

/-! ### The fields of a date -/

theorem fields_cons {w l : List Char} {gap : Char} (hw : IsField w) (hgap : isGap gap = true) :
    ((w ++ gap :: l).splitOnP isGap).filter (fun w => !w.isEmpty) =
      w :: (l.splitOnP isGap).filter fun w => !w.isEmpty := by
  rw [List.splitOnP_append_cons_of_forall_mem hw.no_gap gap hgap, List.filter_cons_of_pos]
  simpa using hw.ne_nil

theorem fields_written {gap : Char} {day month year time zone : List Char}
    (hgap : isGap gap = true) (hday : IsField day) (hmonth : IsField month) (hyear : IsField year)
    (htime : IsField time) (hzone : IsField zone) :
    ((' ' :: (day ++ gap :: (month ++ gap :: (year ++ ' ' :: (time ++ ' ' :: zone))))).splitOnP
      isGap).filter (fun w => !w.isEmpty) = [day, month, year, time, zone] := by
  have hspace : isGap ' ' = true := by decide
  rw [List.splitOnP_cons_eq_if_modifyHead, if_pos hspace, List.filter_cons_of_neg (by simp),
    fields_cons hday hgap, fields_cons hmonth hgap, fields_cons hyear hspace,
    fields_cons htime hspace, List.splitOnP_eq_singleton hzone.no_gap, List.filter_cons_of_pos,
    List.filter_nil]
  simpa using hzone.ne_nil

section

variable {hour minute second : List Char} {h m s : Nat} (hhour : Writes hour h)
  (hminute : Writes minute m) (hsecond : Writes second s)
include hhour hminute hsecond

theorem isField_time : IsField (hour ++ ':' :: (minute ++ ':' :: second)) := by
  refine ⟨by simp, fun c hc => ?_⟩
  simp only [List.mem_append, List.mem_cons] at hc
  rcases hc with hc | rfl | hc | rfl | hc
  · exact hhour.isField.no_gap c hc
  · decide
  · exact hminute.isField.no_gap c hc
  · decide
  · exact hsecond.isField.no_gap c hc

/-- **The fields of a written date**, whatever parts them. -/
theorem fields?_written {weekday name : String} {gap : Char} {day year : List Char}
    {month d y : Nat} (hweekday : ',' ∉ weekday.toList) (hgap : isGap gap = true)
    (hday : Writes day d) (hname : IsMonthName name month) (hpos : 1 ≤ month)
    (hyear : Writes year y) :
    fields? (written weekday gap day name.toList year (hour ++ ':' :: (minute ++ ':' :: second))) =
      some ⟨fullYear y, month, d, h, m, s⟩ := by
  have hcut : Text.splitOnce ',' (written weekday gap day name.toList year
      (hour ++ ':' :: (minute ++ ':' :: second))).toList = some (weekday.toList,
        ' ' :: (day ++ gap :: (name.toList ++ gap :: (year ++ ' ' ::
          ((hour ++ ':' :: (minute ++ ':' :: second)) ++ ' ' :: "GMT".toList))))) := by
    unfold written
    rw [String.toList_ofList]
    exact Text.splitOnce_append hweekday
  have hzone : IsField "GMT".toList := ⟨by decide, by simp; decide⟩
  have hwords := fields_written hgap hday.isField (isField_of_isMonthName hname) hyear.isField
    (isField_time hhour hminute hsecond) hzone
  have htime : (hour ++ ':' :: (minute ++ ':' :: second)).splitOn ':' = [hour, minute, second] := by
    rw [List.splitOn_append_cons_self_of_not_mem hhour.colon_not_mem,
      List.splitOn_append_cons_self_of_not_mem hminute.colon_not_mem,
      List.splitOn_eq_singleton hsecond.colon_not_mem]
  unfold fields?
  simp only [hcut, hwords, htime, hday.int64?, month?_of_isMonthName hname hpos, hyear.int64?,
    hhour.int64?, hminute.int64?, hsecond.int64?, Option.bind_eq_bind, Option.bind_some]
  rfl

end

/-! ### Moments -/

theorem read?_of_fields {t : Moment} {s : String} (h : fields? s = some t.fields)
    (hyear : t.year < 1000000000) : read? s = some t.elapsed := by
  have hday := t.day_le_31
  have ⟨hhour, hminute, hsecond⟩ := And.intro t.hour_lt (And.intro t.minute_lt t.second_lt)
  have hshort : t.fields.IsShort := by
    constructor <;> simp only [Moment.fields] <;> omega
  have hseconds := exactSeconds_moment t
  rw [read?, read_of_fits h (hshort.fits_operations (isWritten_of_fields? h)), exactTime?, hseconds]
  simp [Except.toOption]

namespace Moment

variable (t : Moment) {weekday name : String}

theorem writes_hour : Writes (twoDigits t.hour) t.hour :=
  writes_twoDigits (by have := t.hour_lt; omega)

theorem writes_minute : Writes (twoDigits t.minute) t.minute :=
  writes_twoDigits (by have := t.minute_lt; omega)

theorem writes_second : Writes (twoDigits t.second) t.second :=
  writes_twoDigits (by have := t.second_lt; omega)

theorem writes_day : Writes (twoDigits t.day) t.day :=
  writes_twoDigits (by have := t.day_le_31; omega)

theorem fields?_fixdate (hweekday : ',' ∉ weekday.toList) (hname : IsMonthName name t.month)
    (hyear : t.year < 1000000000) : fields? (t.fixdate weekday name) = some t.fields := by
  have hwritten : Writes (Nat.toDigits 10 t.year) t.year := writes_toDigits (by omega)
  have hfull : fullYear t.year = t.year := if_neg (by have := t.year_ge; omega)
  have hfields := fields?_written t.writes_hour t.writes_minute t.writes_second hweekday
    (by decide : isGap ' ' = true) t.writes_day hname t.month_pos hwritten
  rw [hfull] at hfields
  exact hfields

/-- Of the years that two digits can stand for, those from 1970 to 2069 are meant. -/
theorem fullYear_of_lt (hyear : t.year < 2070) : fullYear (t.year % 100 : Nat) = t.year := by
  have hge := t.year_ge
  unfold fullYear
  split
  · split <;> omega
  · omega

theorem fields?_hyphenated (hweekday : ',' ∉ weekday.toList) (hname : IsMonthName name t.month)
    (hyear : t.year < 2070) : fields? (t.hyphenated weekday name) = some t.fields := by
  have hwritten : Writes (twoDigits (t.year % 100)) (t.year % 100) :=
    writes_twoDigits (Nat.mod_lt _ (by decide))
  have hfields := fields?_written t.writes_hour t.writes_minute t.writes_second hweekday
    (by decide : isGap '-' = true) t.writes_day hname t.month_pos hwritten
  rw [t.fullYear_of_lt hyear] at hfields
  exact hfields

end Moment

/-- **A written moment is read exactly**: in either form, with any text for the day of the week and
the month in letters of any case, it gives the seconds that have passed since the start of 1970. -/
theorem read?_written (t : Moment) {weekday name : String} (hweekday : ',' ∉ weekday.toList)
    (hname : IsMonthName name t.month) :
    (t.year < 1000000000 → read? (t.fixdate weekday name) = some t.elapsed) ∧
      (t.year < 2070 → read? (t.hyphenated weekday name) = some t.elapsed) := by
  constructor
  · intro hyear
    exact read?_of_fields (t.fields?_fixdate hweekday hname hyear) hyear
  · intro hyear
    exact read?_of_fields (t.fields?_hyphenated hweekday hname hyear) (by omega)

/-- The last second of the leap day of a century. -/
theorem read?_written_leapDay :
    let t : Moment := ⟨2000, 2, 29, 23, 59, 59, by decide, by decide, by decide, by decide,
      by decide, by decide, by decide, by decide⟩
    ',' ∉ "Tue".toList ∧ IsMonthName "fEB" t.month ∧ t.year < 2070 ∧
      t.fixdate "Tue" "fEB" = "Tue, 29 fEB 2000 23:59:59 GMT" ∧
      t.hyphenated "Tue" "fEB" = "Tue, 29-fEB-00 23:59:59 GMT" ∧ t.elapsed = 951868799 ∧
      read? (t.fixdate "Tue" "fEB") = some t.elapsed ∧
      read? (t.hyphenated "Tue" "fEB") = some t.elapsed := by
  intro t
  have hweekday : ',' ∉ "Tue".toList := by decide
  have hname : IsMonthName "fEB" t.month := by decide
  obtain ⟨hfixdate, hhyphenated⟩ := read?_written t hweekday hname
  exact ⟨hweekday, hname, by decide, by decide +kernel, by decide +kernel, by decide +kernel,
    hfixdate (by decide), hhyphenated (by decide)⟩

end HttpScript.Cookie.Date
