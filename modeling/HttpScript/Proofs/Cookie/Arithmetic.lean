import HttpScript.Cookie.Store
import HttpScript.Proofs.Cookie.Calendar
import HttpScript.Url.Read

/-! # The arithmetic of expiry

When a cookie ends is counted in words of 64 bits: an age is added with saturation, a date is
counted by more than twenty operations of which any can leave the words if the numbers of the date
are large enough.

* `Date.Counts`: a count in words against the integers that it passes through.
* `Date.operations`: the results of all operations on a date, over all integers.
* `Date.read_overflow_iff`: a date overflows exactly where one of them is no word, which the numbers
  of eleven digits always are (`Fields.IsShort.fits_operations`).
* `Cookie.expiry_of_fits`, `Cookie.expiry_of_leavesWords`: when the cookie of a header ends.
* `CookieStore.tryStore_inWords`: what this means for a response that sets cookies. -/

namespace HttpScript.Cookie.Date

theorem fits64_iff (n : Int) :
    Decimal.fits64 n = true ↔ -9223372036854775808 ≤ n ∧ n ≤ 9223372036854775807 := by
  simp [Decimal.fits64]

/-! ### Counts in words -/

/-- **A count that passes through the integers `passed` to `n`**: it comes to `n` if all of them are
words, and overflows otherwise. -/
structure Counts (x : Except Fault Int) (passed : List Int) (n : Int) : Prop where
  ok : (∀ r ∈ passed, Decimal.fits64 r = true) → x = .ok n
  overflow : ∀ r ∈ passed, Decimal.fits64 r = false → x = .error .overflow

namespace Counts

variable {x : Except Fault Int} {f : Int → Except Fault Int} {passed later : List Int} {m n : Int}

theorem word : Counts (word n) [n] n := by
  constructor
  · intro h
    exact if_pos (h n (List.mem_singleton_self n))
  · intro r hr hno
    obtain rfl := List.mem_singleton.mp hr
    exact if_neg (by simp [hno])

theorem bind (hx : Counts x passed m) (hf : Counts (f m) later n) :
    Counts (x >>= f) (passed ++ later) n := by
  constructor
  · intro h
    rw [hx.ok fun r hr => h r (List.mem_append_left _ hr)]
    exact hf.ok fun r hr => h r (List.mem_append_right _ hr)
  · intro r hr hno
    by_cases hpassed : ∀ r ∈ passed, Decimal.fits64 r = true
    · rw [hx.ok hpassed]
      rcases List.mem_append.mp hr with hr | hr
      · exact absurd (hpassed r hr) (by simp [hno])
      · exact hf.overflow r hr hno
    · simp only [not_forall, Bool.not_eq_true] at hpassed
      obtain ⟨q, hq, hqno⟩ := hpassed
      rw [hx.overflow q hq hqno]
      rfl

theorem step {k : Int} (hf : Counts (f k) later n) : Counts (Date.word k >>= f) (k :: later) n :=
  bind word hf

end Counts

/-! ### The count of a date -/

section

variable (d : Fields)

/-- The year since the start of its group of 400. -/
def yearOfEra : Int := marchYear d - marchYear d / 400 * 400

/-- The day since the start of its group of 400 years. -/
def dayOfEra : Int := yearOfEra d * 365 + yearOfEra d / 4 - yearOfEra d / 100 +
  (monthStart d.month + d.day - 1)

/-- The results that the count checks. -/
def checked : List Int :=
  (if d.month ≤ 2 then [d.year - 1] else []) ++ [marchYear d / 400 * 400, yearOfEra d,
    monthStart d.month + d.day, monthStart d.month + d.day - 1, dayOfEra d,
    marchYear d / 400 * 146097, marchYear d / 400 * 146097 + dayOfEra d, exactDays d,
    exactDays d * 86400, d.hour * 3600, exactDays d * 86400 + d.hour * 3600, d.minute * 60,
    exactDays d * 86400 + d.hour * 3600 + d.minute * 60, exactSeconds d]

/-- The results that need no check: the year with its century, the month from March on, and the
years of an era with their leap days. -/
def unchecked : List Int := [d.year, marchYear d / 400, d.month + 9, (d.month + 9) % 12,
  153 * ((d.month + 9) % 12), 153 * ((d.month + 9) % 12) + 2, monthStart d.month,
  yearOfEra d * 365, yearOfEra d / 4, yearOfEra d * 365 + yearOfEra d / 4, yearOfEra d / 100,
  yearOfEra d * 365 + yearOfEra d / 4 - yearOfEra d / 100]

/-- **The results of all operations on a date.** -/
def operations : List Int := unchecked d ++ checked d

theorem seconds_counts : Counts (seconds d) (checked d) (exactSeconds d) := by
  have hyear : d.month ≤ 2 → d.year - 1 = marchYear d := fun h => (if_pos h).symm
  have hyear' : ¬ d.month ≤ 2 → d.year = marchYear d := fun h => (if_neg h).symm
  unfold seconds checked
  by_cases h : d.month ≤ 2
  · simp only [h, if_true, List.singleton_append]
    refine .step ?_
    rw [hyear h]
    iterate 13 refine .step ?_
    exact .word
  · simp only [h, if_false, List.nil_append]
    rw [pure_bind, hyear' h]
    iterate 13 refine .step ?_
    exact .word

variable {d}

/-- **What the numbers of a written date are.** -/
structure Fields.IsWritten (d : Fields) : Prop where
  year : ∃ y, Decimal.fits64 y = true ∧ d.year = fullYear y
  month : 1 ≤ d.month ∧ d.month ≤ 12
  day : Decimal.fits64 d.day = true
  hour : Decimal.fits64 d.hour = true
  minute : Decimal.fits64 d.minute = true
  second : Decimal.fits64 d.second = true

theorem fits64_of_int64? {l : List Char} {n : Int} (h : Decimal.int64? l = some n) :
    Decimal.fits64 n = true := (Option.filter_eq_some_iff.mp h).2

theorem month?_bounds {l : List Char} {m : Nat} (h : month? l = some m) : 1 ≤ m ∧ m ≤ 12 := by
  obtain ⟨i, hi, rfl⟩ := Option.map_eq_some_iff.mp h
  have hlt : i < months.length := (List.findIdx?_eq_some_iff_findIdx_eq.mp hi).1
  have hlength : months.length = 12 := rfl
  omega

theorem isWritten_of_fields? {s : String} (h : fields? s = some d) : d.IsWritten := by
  unfold fields? at h
  dsimp only at h
  split at h
  · simp only [Option.bind_eq_bind, Option.bind_eq_some_iff] at h
    obtain ⟨day, hday, month, hmonth, year, hyear, h⟩ := h
    split at h
    · simp only [Option.bind_eq_some_iff] at h
      obtain ⟨hour, hhour, minute, hminute, second, hsecond, h⟩ := h
      obtain rfl := Option.some.inj h
      have hmonths := month?_bounds hmonth
      exact ⟨⟨year, fits64_of_int64? hyear, rfl⟩, by dsimp only; omega, fits64_of_int64? hday,
        fits64_of_int64? hhour, fits64_of_int64? hminute, fits64_of_int64? hsecond⟩
    · cases h
  · cases h

/-- The year of a written date keeps away from the least word: one that small has a century
added. -/
theorem Fields.IsWritten.year_bounds (h : d.IsWritten) :
    -9223372036854773908 ≤ d.year ∧ d.year ≤ 9223372036854775807 := by
  obtain ⟨y, hy, hyear⟩ := h.year
  have hfits := (fits64_iff y).mp hy
  unfold fullYear at hyear
  split at hyear
  · split at hyear <;> omega
  · omega

theorem marchYear_bounds (d : Fields) : d.year - 1 ≤ marchYear d ∧ marchYear d ≤ d.year := by
  unfold marchYear
  split <;> omega

theorem yearOfEra_bounds (d : Fields) : 0 ≤ yearOfEra d ∧ yearOfEra d < 400 := by
  unfold yearOfEra
  omega

theorem monthStart_bounds (month : Int) : 0 ≤ monthStart month ∧ monthStart month ≤ 337 := by
  unfold monthStart
  omega

theorem Fields.IsWritten.fits_unchecked (h : d.IsWritten) :
    ∀ n ∈ unchecked d, Decimal.fits64 n = true := by
  have hyear := h.year_bounds
  have hmarch := marchYear_bounds d
  have hera := yearOfEra_bounds d
  have hmonth := h.month
  have hstart := monthStart_bounds d.month
  simp only [fits64_iff, unchecked, List.forall_mem_cons]
  refine ⟨?_, ?_, ?_, ?_, ?_, ?_, ?_, ?_, ?_, ?_, ?_, ?_, by simp⟩ <;> omega

/-- **A written date is counted exactly**, unless the result of an operation is no word. -/
theorem seconds_of_fits (hfits : ∀ r ∈ operations d, Decimal.fits64 r = true) :
    seconds d = .ok (exactSeconds d) :=
  (seconds_counts d).ok fun r hr => hfits r (List.mem_append_right _ hr)

/-- **A written date overflows** where the result of an operation is no word. -/
theorem seconds_overflow_iff (h : d.IsWritten) : seconds d = .error .overflow ↔
    ∃ r ∈ operations d, Decimal.fits64 r = false := by
  constructor
  · intro hover
    by_contra hno
    simp only [not_exists, not_and, Bool.not_eq_false] at hno
    rw [seconds_of_fits hno] at hover
    cases hover
  · rintro ⟨r, hr, hno⟩
    rcases List.mem_append.mp hr with hr | hr
    · exact absurd (h.fits_unchecked r hr) (by simp [hno])
    · exact (seconds_counts d).overflow r hr hno

/-- **A date whose numbers have at most eleven digits.** -/
structure Fields.IsShort (d : Fields) : Prop where
  year : d.year.natAbs < 100000000000
  day : d.day.natAbs < 100000000000
  hour : d.hour.natAbs < 100000000000
  minute : d.minute.natAbs < 100000000000
  second : d.second.natAbs < 100000000000

theorem Fields.IsShort.dayOfEra_bounds (h : d.IsShort) :
    -100000000000 ≤ dayOfEra d ∧ dayOfEra d ≤ 100001000000 := by
  have hday := h.day
  have hera := yearOfEra_bounds d
  have hstart := monthStart_bounds d.month
  unfold dayOfEra
  omega

theorem Fields.IsShort.exactDays_bounds (h : d.IsShort) :
    -40000000000000 ≤ exactDays d ∧ exactDays d ≤ 40000000000000 := by
  have hyear := h.year
  have hmarch := marchYear_bounds d
  have hofEra := h.dayOfEra_bounds
  have hdays : exactDays d = marchYear d / 400 * 146097 + dayOfEra d - 719468 := rfl
  omega

theorem Fields.IsShort.fits_operations (hshort : d.IsShort) (h : d.IsWritten) :
    ∀ n ∈ operations d, Decimal.fits64 n = true := by
  refine List.forall_mem_append.mpr ⟨h.fits_unchecked, ?_⟩
  have hofEra := hshort.dayOfEra_bounds
  have hdays := hshort.exactDays_bounds
  have hstart := monthStart_bounds d.month
  have hera := yearOfEra_bounds d
  have hmarch : -250000001 ≤ marchYear d / 400 ∧ marchYear d / 400 ≤ 250000000 := by
    have hyear := hshort.year
    have hmarch := marchYear_bounds d
    omega
  have ⟨hyear, hday, hhour, hminute, hsecond⟩ := hshort
  simp only [fits64_iff, checked, List.forall_mem_append, List.forall_mem_cons]
  refine ⟨?_, ?_, ?_, ?_, ?_, ?_, ?_, ?_, ?_, ?_, ?_, ?_, ?_, ?_, ?_, by simp⟩
  · split
    · simp only [List.mem_singleton, forall_eq]
      omega
    · simp
  all_goals first
    | omega
    | (unfold exactSeconds; omega)

end

/-! ### Reading a date -/

theorem read_overflow_iff (s : String) : read s = .error .overflow ↔
    ∃ d, fields? s = some d ∧ ∃ r ∈ operations d, Decimal.fits64 r = false := by
  unfold read
  cases hfields : fields? s with
  | none => simp
  | some d =>
    have hwritten := isWritten_of_fields? hfields
    simp only [Option.some.injEq, exists_eq_left']
    rw [← seconds_overflow_iff hwritten]
    cases hseconds : seconds d with
    | error f => simp [bind, Except.bind]
    | ok n =>
      simp only [bind, Except.bind, reduceCtorEq, iff_false]
      split <;> simp [throw, throwThe, MonadExceptOf.throw, pure, Except.pure]

/-- The time of a date over all integers, if it is not before 1970. -/
def exactTime? (d : Fields) : Option Nat :=
  if 0 ≤ exactSeconds d then some (exactSeconds d).toNat else none

theorem read_of_fits {s : String} {d : Fields} (hfields : fields? s = some d)
    (hfits : ∀ r ∈ operations d, Decimal.fits64 r = true) :
    read s = (exactTime? d).elim (.error .past) .ok := by
  unfold read exactTime?
  rw [hfields]
  dsimp only
  rw [seconds_of_fits hfits]
  by_cases hpast : exactSeconds d < 0
  · simp [bind, Except.bind, hpast, throw, throwThe, MonadExceptOf.throw, Int.not_le.mpr hpast]
  · simp [bind, Except.bind, hpast, pure, Except.pure, Int.not_lt.mp hpast]

theorem read_of_fields?_none {s : String} (hfields : fields? s = none) :
    read s = .error .form := by
  rw [read, hfields]

end HttpScript.Cookie.Date

namespace HttpScript

/-! ### The expiry of a header -/

namespace SetCookie

open Cookie.Date

/-- The greatest age of a cookie in seconds, where its header gives one. -/
def maxAge? (h : SetCookie) : Option Int :=
  (h.attributeValue? "max-age").bind fun v => Decimal.int64? v.toList

/-- The date at which the cookie of a header ends. It is asked for where there is no age. -/
def date? (h : SetCookie) : Option Fields :=
  match h.maxAge? with
  | some _ => none
  | none => (h.attributeValue? "expires").bind fields?

theorem isWritten_of_date? {h : SetCookie} {d : Fields} (hdate : h.date? = some d) :
    d.IsWritten := by
  unfold date? at hdate
  split at hdate
  · cases hdate
  · obtain ⟨s, -, hfields⟩ := Option.bind_eq_some_iff.mp hdate
    exact isWritten_of_fields? hfields

/-- **The date of a header leaves the words**: the result of an operation on it is none. -/
def LeavesWords (h : SetCookie) : Prop :=
  ∃ d, h.date? = some d ∧ ∃ r ∈ operations d, Decimal.fits64 r = false

end SetCookie

namespace Cookie

open Date

variable {h : SetCookie}

theorem expiry_of_maxAge {age : Int} (hage : h.maxAge? = some age) (received : Nat) :
    expiry h received =
      .ok (some (if age ≤ 0 then 0 else min lastTime (received + age.toNat))) := by
  unfold SetCookie.maxAge? at hage
  rw [expiry, hage]

theorem expiry_of_date {s : String} (hage : h.maxAge? = none)
    (hexpires : h.attributeValue? "expires" = some s) (received : Nat) :
    expiry h received = match Date.read s with
      | .error .overflow => .error .overflow
      | _ => .ok (Date.read? s) := by
  unfold SetCookie.maxAge? at hage
  cases hread : Date.read s with
  | error e => cases e <;> simp only [expiry, hage, hexpires, hread]
  | ok t => simp only [expiry, hage, hexpires, hread]

/-- **When the cookie of a header ends, over all integers**: after its age, but not behind the
greatest time; or else at its date. -/
def exactExpiry (h : SetCookie) (received : Nat) : Option Nat :=
  match h.maxAge? with
  | some age => some (if age ≤ 0 then 0 else min lastTime (received + age.toNat))
  | none => h.date?.bind exactTime?

theorem expiry_of_leavesWords (hover : h.LeavesWords) (received : Nat) :
    expiry h received = .error .overflow := by
  obtain ⟨d, hdate, hleaves⟩ := hover
  unfold SetCookie.date? at hdate
  cases hage : h.maxAge? with
  | some age => simp [hage] at hdate
  | none =>
    obtain ⟨s, hexpires, hfields⟩ : ∃ s, h.attributeValue? "expires" = some s ∧
        fields? s = some d := Option.bind_eq_some_iff.mp (by simpa [hage] using hdate)
    rw [expiry_of_date hage hexpires, (read_overflow_iff s).mpr ⟨d, hfields, hleaves⟩]

theorem expiry_of_fits (hfits : ¬ h.LeavesWords) (received : Nat) :
    expiry h received = .ok (exactExpiry h received) := by
  unfold exactExpiry
  cases hage : h.maxAge? with
  | some age => exact expiry_of_maxAge hage received
  | none =>
    have hdate : h.date? = (h.attributeValue? "expires").bind fields? := by
      simp [SetCookie.date?, hage]
    dsimp only
    rw [hdate]
    cases hexpires : h.attributeValue? "expires" with
    | none =>
      unfold SetCookie.maxAge? at hage
      rw [expiry, hage, hexpires]
      rfl
    | some s =>
      rw [expiry_of_date hage hexpires, Option.bind_some]
      unfold read?
      cases hfields : fields? s with
      | none => simp [read_of_fields?_none hfields, Except.toOption]
      | some d =>
        have hall : ∀ r ∈ operations d, Decimal.fits64 r = true := fun r hr => by
          by_contra hno
          exact hfits ⟨d, by simp [hdate, hexpires, hfields], r, hr, by simpa using hno⟩
        rw [read_of_fits hfields hall, Option.bind_some]
        cases exactTime? d <;> rfl

theorem exactExpiry_le {received t : Nat} (hfits : ¬ h.LeavesWords)
    (ht : exactExpiry h received = some t) : t ≤ lastTime := by
  unfold exactExpiry at ht
  split at ht
  · obtain rfl := Option.some.inj ht
    split <;> omega
  · obtain ⟨d, hdate, htime⟩ := Option.bind_eq_some_iff.mp ht
    have hlast : exactSeconds d ≤ 9223372036854775807 := by
      by_contra hlarge
      exact hfits ⟨d, hdate, exactSeconds d, by simp [operations, checked],
        by simp [Decimal.fits64]; omega⟩
    unfold exactTime? at htime
    split at htime
    · obtain rfl := Option.some.inj htime
      unfold lastTime
      omega
    · cases htime

end Cookie

namespace CookieStore

open Cookie Cookie.Date

/-! ### Responses -/

/-- **A header whose date leaves the words**: it is read, has no age, and the result of an operation
on its date is no word. -/
def Overflows (header : String) : Prop := ∃ h, SetCookie.read? header = some h ∧ h.LeavesWords

theorem overflows_iff {header : String} {h : SetCookie} (hread : SetCookie.read? header = some h) :
    Overflows header ↔ h.LeavesWords := by
  simp [Overflows, hread]

/-- Whether a header overflows does not depend on when it was received. -/
theorem overflows_iff_any (header : String) : Overflows header ↔
    (SetCookie.read? header).any (fun h => (Cookie.expiry h 0).toOption.isNone) = true := by
  cases hread : SetCookie.read? header with
  | none => simp [Overflows, hread]
  | some h =>
    rw [overflows_iff hread, Option.any_some]
    by_cases hover : h.LeavesWords
    · simp [hover, expiry_of_leavesWords hover, Except.toOption]
    · simp [hover, expiry_of_fits hover, Except.toOption]

instance (header : String) : Decidable (Overflows header) :=
  decidable_of_iff' _ (overflows_iff_any header)

/-- Adds the cookie of a header with the exact time at which it ends. -/
def exactAdd (s : CookieStore) (received now : Nat) (u : Url) (header : String) : CookieStore :=
  match SetCookie.read? header with
  | none => s
  | some h => s.add now (.ofHeader h u (exactExpiry h received))

/-- **Adds the cookies of a response over all integers.** -/
def exactStore (s : CookieStore) (received : Nat) (u : Url) (headers : List (Nat × String)) :
    CookieStore :=
  headers.foldl (fun s h => s.exactAdd received h.1 u h.2) s

variable (s : CookieStore) (received : Nat) (u : Url) {headers : List (Nat × String)}

theorem addHeader_of_fits {header : String} (hfits : ¬ Overflows header) (now : Nat) :
    s.addHeader received now u header = .ok (s.exactAdd received now u header) := by
  unfold addHeader exactAdd
  cases hread : SetCookie.read? header with
  | none => rfl
  | some h =>
    rw [overflows_iff hread] at hfits
    dsimp only
    rw [expiry_of_fits hfits]
    rfl

theorem addHeader_of_overflows {header : String} (hover : Overflows header) (now : Nat) :
    s.addHeader received now u header = .error .overflow := by
  obtain ⟨h, hread, hleaves⟩ := hover
  unfold addHeader
  rw [hread]
  dsimp only
  rw [expiry_of_leavesWords hleaves]
  rfl

theorem tryStore_cons (p : Nat × String) (headers : List (Nat × String)) :
    s.tryStore received u (p :: headers) =
      s.addHeader received p.1 u p.2 >>= fun s => s.tryStore received u headers :=
  List.foldlM_cons

theorem tryStore_of_fits (hfits : ∀ p ∈ headers, ¬ Overflows p.2) :
    s.tryStore received u headers = .ok (s.exactStore received u headers) := by
  induction headers generalizing s with
  | nil => rfl
  | cons p headers ih =>
    rw [tryStore_cons, addHeader_of_fits s received u (hfits p (List.mem_cons_self ..))]
    exact ih _ fun q hq => hfits q (List.mem_cons_of_mem _ hq)

theorem tryStore_of_overflows (hover : ∃ p ∈ headers, Overflows p.2) :
    s.tryStore received u headers = .error .overflow := by
  induction headers generalizing s with
  | nil => simp at hover
  | cons p headers ih =>
    rw [tryStore_cons]
    by_cases hp : Overflows p.2
    · rw [addHeader_of_overflows s received u hp]
      rfl
    · rw [addHeader_of_fits s received u hp]
      obtain ⟨q, hq, hqover⟩ := hover
      rcases List.mem_cons.mp hq with rfl | hq
      · exact absurd hqover hp
      · exact ih _ ⟨q, hq, hqover⟩

theorem not_overflows_of_maxAge {header : String} {h : SetCookie} {age : Int}
    (hread : SetCookie.read? header = some h) (hage : h.maxAge? = some age) :
    ¬ Overflows header := by
  rw [overflows_iff hread]
  rintro ⟨d, hdate, -⟩
  simp [SetCookie.date?, hage] at hdate

/-- **How a response is stored in words.** -/
structure InWords (s : CookieStore) (received : Nat) (u : Url) (headers : List (Nat × String)) :
    Prop where
  /-- It is stored as over all integers if no date leaves the words, -/
  stored : (∀ p ∈ headers, ¬ Overflows p.2) →
    s.tryStore received u headers = .ok (s.exactStore received u headers)
  /-- and not at all if one does. -/
  overflow : (∃ p ∈ headers, Overflows p.2) → s.tryStore received u headers = .error .overflow
  /-- An age never does. -/
  age : ∀ p ∈ headers, ∀ h age, SetCookie.read? p.2 = some h → h.maxAge? = some age →
    ¬ Overflows p.2
  /-- Nor does a date whose numbers have at most eleven digits. -/
  short : ∀ p ∈ headers, ∀ h, SetCookie.read? p.2 = some h →
    (∀ d, h.date? = some d → d.IsShort) → ¬ Overflows p.2
  /-- What does not leave the words is the exact time, and a word itself. -/
  exact : ∀ p ∈ headers, ∀ h, SetCookie.read? p.2 = some h → ¬ Overflows p.2 →
    Cookie.expiry h received = .ok (exactExpiry h received) ∧
      ∀ t, exactExpiry h received = some t → t ≤ lastTime

/-- **Storing in words**, whatever a server sends and whenever. -/
theorem tryStore_inWords (s : CookieStore) (received : Nat) (u : Url)
    (headers : List (Nat × String)) : s.InWords received u headers where
  stored hfits := tryStore_of_fits s received u hfits
  overflow hover := tryStore_of_overflows s received u hover
  age _ _ _ _ hread hage := not_overflows_of_maxAge hread hage
  short := by
    intro p _ h hread hshort
    rw [overflows_iff hread]
    rintro ⟨d, hdate, r, hr, hno⟩
    have hfits := (hshort d hdate).fits_operations (SetCookie.isWritten_of_date? hdate) r hr
    simp [hfits] at hno
  exact := by
    intro p _ h hread hfits
    rw [overflows_iff hread] at hfits
    exact ⟨expiry_of_fits hfits received, fun t => exactExpiry_le hfits⟩

/-- The end of the year 300000000000 cannot be counted in words, so a response that names it is not
stored. -/
theorem tryStore_distantYear :
    let header := "id=1; Expires=Wed, 21 Oct 300000000000 07:28:00 GMT"
    let u := (Url.read? "http://h.test/").getD default
    Overflows header ∧ empty.tryStore 0 u [(0, header)] = .error .overflow := by
  intro header u
  have hover : Overflows header := by decide +kernel
  have hheaders : ∃ p ∈ [(0, header)], Overflows p.2 := ⟨_, List.mem_singleton_self _, hover⟩
  exact ⟨hover, tryStore_of_overflows empty 0 u hheaders⟩

end CookieStore

end HttpScript
