import HttpScript.Proofs.Json.Prolong

/-! # JSON numbers with more text behind them

A number is read in the same way when text is added that does not begin with a character that it
could hold. With that all kinds of values are.

* `Numeric tail r x y`: the same number, reached from `r` over characters of numbers only.
* `numeric_readNumber`: numbers are read in the same way.
* `prolonged_readValue`: values are. -/

namespace HttpScript.Json

variable {tail : List Char}

/-! ### Numbers -/

/-- A character that a number can hold. -/
def isNumberChar (c : Char) : Bool :=
  c.isDigit || c == '+' || c == '-' || c == '.' || c == 'e' || c == 'E'

/-- **A number that is read in the same way**, over characters of numbers only. -/
def Numeric (tail : List Char) (r : Rest) (x y : Except Failure (JsonNumber × Rest)) : Prop :=
  ∀ v r', x = .ok (v, r') → y = .ok (v, r'.append tail) ∧
    ∃ w, r.chars = w ++ r'.chars ∧ ∀ c ∈ w, isNumberChar c = true

namespace Numeric

variable {r : Rest}

theorem of_error {f : Failure} {y : Except Failure (JsonNumber × Rest)} :
    Numeric tail r (.error f) y := fun _ _ h => by cases h

theorem ok {v : JsonNumber} : Numeric tail r (.ok (v, r)) (.ok (v, r.append tail)) :=
  fun _ _ h => by
    cases h
    exact ⟨rfl, [], rfl, by simp⟩

theorem behind {x y : Except Failure (JsonNumber × Rest)} {s : Rest} {w : List Char}
    (h : Numeric tail s x y) (hr : r.chars = w ++ s.chars) (hw : ∀ c ∈ w, isNumberChar c = true) :
    Numeric tail r x y := by
  intro v r' hx
  obtain ⟨hy, u, hu, hchars⟩ := h v r' hx
  refine ⟨hy, w ++ u, by rw [hr, hu, List.append_assoc], fun c hc => ?_⟩
  rcases List.mem_append.mp hc with hc | hc
  · exact hw c hc
  · exact hchars c hc

end Numeric

theorem isNumberChar_of_isDigit {c : Char} (h : c.isDigit = true) : isNumberChar c = true := by
  simp [isNumberChar, h]

section Numbers

variable (ht : ∀ c ∈ tail.head?, isNumberChar c = false)
include ht

theorem not_isDigit_of_tail {c : Char} (hc : c ∈ tail.head?) : c.isDigit = false := by
  have h := ht c hc
  simp only [isNumberChar, Bool.or_eq_false_iff] at h
  exact h.1.1.1.1.1

theorem takeWhile_isDigit_append (l : List Char) :
    (l ++ tail).takeWhile Char.isDigit = l.takeWhile Char.isDigit := by
  induction l with
  | nil =>
    cases htail : tail with
    | nil => rfl
    | cons c k =>
      have hc := not_isDigit_of_tail ht (c := c) (by simp [htail])
      simp [hc]
  | cons c l ih =>
    rw [List.cons_append, List.takeWhile_cons, List.takeWhile_cons, ih]

theorem fillSignificand_append (n : Nat) (l : List Char) (k : Nat) :
    fillSignificand n (l ++ tail) k =
      ((fillSignificand n l k).1, (fillSignificand n l k).2.1,
        (fillSignificand n l k).2.2 ++ tail) := by
  induction l generalizing n k with
  | nil =>
    cases htail : tail with
    | nil => rfl
    | cons c k =>
      have hc := not_isDigit_of_tail ht (c := c) (by simp [htail])
      simp [fillSignificand, hc]
  | cons c l ih =>
    simp only [List.cons_append, fillSignificand]
    split
    · exact ih _ _
    · rfl

theorem readExponentDigits_append (n : Nat) (l : List Char) (k : Nat) :
    readExponentDigits n (l ++ tail) k =
      ((readExponentDigits n l k).1, (readExponentDigits n l k).2.1,
        (readExponentDigits n l k).2.2.1 ++ tail, (readExponentDigits n l k).2.2.2) := by
  induction l generalizing n k with
  | nil =>
    cases htail : tail with
    | nil => rfl
    | cons c k =>
      have hc := not_isDigit_of_tail ht (c := c) (by simp [htail])
      simp [readExponentDigits, hc]
  | cons c l ih =>
    simp only [List.cons_append, readExponentDigits]
    split
    · split
      · rfl
      · exact ih _ _
    · rfl

end Numbers

theorem fillSignificand_over (n : Nat) (l : List Char) (k : Nat) :
    ∃ w, l = w ++ (fillSignificand n l k).2.2 ∧ ∀ c ∈ w, isNumberChar c = true := by
  induction l generalizing n k with
  | nil => exact ⟨[], rfl, by simp⟩
  | cons c l ih =>
    unfold fillSignificand
    split
    · rename_i hc
      obtain ⟨w, hw, hchars⟩ := ih (10 * n + Decimal.digitValue c) (k + 1)
      rw [Bool.and_eq_true] at hc
      refine ⟨c :: w, by rw [List.cons_append, ← hw], fun d hd => ?_⟩
      rcases List.mem_cons.mp hd with rfl | hd
      · exact isNumberChar_of_isDigit hc.1
      · exact hchars d hd
    · exact ⟨[], rfl, by simp⟩

theorem readExponentDigits_over (n : Nat) (l : List Char) (k : Nat) :
    ∃ w, l = w ++ (readExponentDigits n l k).2.2.1 ∧ ∀ c ∈ w, isNumberChar c = true := by
  induction l generalizing n k with
  | nil => exact ⟨[], rfl, by simp⟩
  | cons c l ih =>
    unfold readExponentDigits
    split
    · rename_i hc
      dsimp only
      split
      · exact ⟨[c], rfl, by simpa using isNumberChar_of_isDigit hc⟩
      · obtain ⟨w, hw, hchars⟩ := ih (10 * n + Decimal.digitValue c) (k + 1)
        refine ⟨c :: w, by rw [List.cons_append, ← hw], fun d hd => ?_⟩
        rcases List.mem_cons.mp hd with rfl | hd
        · exact isNumberChar_of_isDigit hc
        · exact hchars d hd
    · exact ⟨[], rfl, by simp⟩

theorem takeWhile_isDigit_over (l : List Char) :
    ∀ c ∈ l.takeWhile Char.isDigit, isNumberChar c = true := fun _ hc =>
  isNumberChar_of_isDigit (List.mem_takeWhile_imp hc)

/-- What is left behind the digits that `takeWhile` takes. -/
theorem drop_takeWhile_append (p : Char → Bool) (l tail : List Char) :
    (l ++ tail).drop (l.takeWhile p).length = l.drop (l.takeWhile p).length ++ tail := by
  have := (List.takeWhile_sublist p (l := l)).length_le
  rw [List.drop_append, Nat.sub_eq_zero_of_le this, List.drop_zero]

theorem eq_takeWhile_append_drop (p : Char → Bool) (l : List Char) :
    l = l.takeWhile p ++ l.drop (l.takeWhile p).length :=
  (List.prefix_iff_eq_append.mp (List.takeWhile_prefix p)).symm

theorem numeric_finish (p : Partial) (r : Rest) :
    Numeric tail r (p.finish r) (p.finish (r.append tail)) := by
  unfold Partial.finish
  split
  · exact .ok
  · exact .of_error

theorem numeric_whole (p : Partial) (dropped : Nat) (r : Rest) :
    Numeric tail r (readNumberTail.whole p dropped r)
      (readNumberTail.whole p dropped (r.append tail)) := by
  unfold readNumberTail.whole
  split
  · exact numeric_finish p r
  · split
    · exact .ok
    · split
      · exact .ok
      · exact .ok

/-- The sign of an exponent: whether it is a minus, and the rest. -/
def exponentSign (r : Rest) : Bool × Rest :=
  match r.chars with
  | '+' :: l => (false, r.skip '+' l)
  | '-' :: l => (true, r.skip '-' l)
  | _ => (false, r)

/-- An exponent behind its sign. -/
def exponentDigits (p : Partial) (down : Bool) (r : Rest) : Except Failure (JsonNumber × Rest) :=
  match r.chars with
  | [] => r.fail .endInValue
  | c :: l =>
    if !c.isDigit then r.failNext .number
    else
      let (e, tooLarge, rest, k) := readExponentDigits (Decimal.digitValue c) l 0
      let r := Rest.mk rest (r.bytes + 1 + k)
      if tooLarge then
        if p.significand ≠ 0 ∧ !down then r.fail .range
        else
          let digits := r.chars.takeWhile Char.isDigit
          .ok (.double (if p.negative then -0.0 else 0.0),
            ⟨r.chars.drop digits.length, r.bytes + digits.length⟩)
      else { p with exponent := p.exponent + (if down then -(e : Int) else e) }.finish r

theorem readExponent_eq (p : Partial) (r : Rest) :
    readExponent p r = exponentDigits p (exponentSign r).1 (exponentSign r).2 := rfl

theorem exponentSign_append (tail : List Char) {r : Rest} (h : r.chars ≠ []) :
    exponentSign (r.append tail) = ((exponentSign r).1, (exponentSign r).2.append tail) ∧
    ∃ w, r.chars = w ++ (exponentSign r).2.chars ∧ ∀ c ∈ w, isNumberChar c = true := by
  obtain ⟨chars, bytes⟩ := r
  cases chars with
  | nil => exact (h rfl).elim
  | cons c l =>
    by_cases hplus : c = '+'
    · subst hplus
      exact ⟨rfl, ['+'], rfl, List.all_eq_true.mp rfl⟩
    · by_cases hminus : c = '-'
      · subst hminus
        exact ⟨rfl, ['-'], rfl, List.all_eq_true.mp rfl⟩
      · simp [exponentSign, Rest.append, hplus, hminus]

section Numbers

variable (ht : ∀ c ∈ tail.head?, isNumberChar c = false)
include ht

theorem numeric_exponentDigits (p : Partial) (down : Bool) (r : Rest) :
    Numeric tail r (exponentDigits p down r) (exponentDigits p down (r.append tail)) := by
  obtain ⟨chars, bytes⟩ := r
  cases chars with
  | nil => exact .of_error
  | cons c l =>
    simp only [exponentDigits, Rest.append, List.cons_append, readExponentDigits_append ht,
      takeWhile_isDigit_append ht, drop_takeWhile_append]
    by_cases hc : c.isDigit = true
    · have hover := readExponentDigits_over (Decimal.digitValue c) l 0
      generalize readExponentDigits (Decimal.digitValue c) l 0 = x at hover
      obtain ⟨e, tooLarge, rest, k⟩ := x
      obtain ⟨w, hw, hchars⟩ := hover
      have hcw : ∀ d ∈ c :: w, isNumberChar d = true := by
        simpa using ⟨isNumberChar_of_isDigit hc, hchars⟩
      simp only [hc, Bool.not_true, Bool.false_eq_true, if_false]
      split
      · split
        · exact .of_error
        · refine Numeric.ok.behind (w := c :: w ++ rest.takeWhile Char.isDigit) ?_ fun d hd => ?_
          · rw [hw, List.append_assoc, ← eq_takeWhile_append_drop]
            rfl
          · rcases List.mem_append.mp hd with hd | hd
            · exact hcw d hd
            · exact takeWhile_isDigit_over _ d hd
      · exact (numeric_finish _ _).behind (by rw [hw]; rfl) hcw
    · simp only [hc]
      exact .of_error

theorem numeric_readExponent (p : Partial) (r : Rest) :
    Numeric tail r (readExponent p r) (readExponent p (r.append tail)) := by
  by_cases h : r.chars = []
  · have hfail : readExponent p r = r.fail .endInValue := by
      obtain ⟨chars, bytes⟩ := r
      simp only at h
      rw [h]
      rfl
    rw [hfail]
    exact .of_error
  · obtain ⟨hsign, w, hw, hchars⟩ := exponentSign_append tail h
    rw [readExponent_eq, readExponent_eq, hsign]
    exact (numeric_exponentDigits ht p _ _).behind hw hchars

/-- The text behind a number starts no exponent. -/
theorem not_exponent_of_tail {c : Char} (hc : c ∈ tail.head?) : ¬ (c = 'e' ∨ c = 'E') := by
  have h := ht c hc
  rintro (rfl | rfl) <;> exact absurd h (by decide)

theorem numeric_readScale (p : Partial) (r : Rest) :
    Numeric tail r (readScale p r) (readScale p (r.append tail)) := by
  obtain ⟨chars, bytes⟩ := r
  cases chars with
  | nil =>
    have hy : readScale p (Rest.append ⟨[], bytes⟩ tail) =
        p.finish (Rest.append ⟨[], bytes⟩ tail) := by
      cases htail : tail with
      | nil => rfl
      | cons c l =>
        simp [readScale, Rest.append, not_exponent_of_tail ht (c := c) (by simp [htail])]
    rw [hy]
    exact numeric_finish p _
  | cons c l =>
    simp only [readScale, Rest.append, List.cons_append]
    split
    · rename_i hc
      refine (numeric_readExponent ht p (Rest.skip ⟨c :: l, bytes⟩ c l)).behind (w := [c]) rfl ?_
      rcases hc with rfl | rfl <;> exact List.all_eq_true.mp rfl
    · exact numeric_finish p _

theorem numeric_readFraction (p : Partial) (r : Rest) :
    Numeric tail r (readFraction p r) (readFraction p (r.append tail)) := by
  obtain ⟨chars, bytes⟩ := r
  have hover := fillSignificand_over p.significand chars 0
  simp only [readFraction, Rest.append, fillSignificand_append ht]
  generalize fillSignificand p.significand chars 0 = x at hover
  obtain ⟨n, k, rest⟩ := x
  obtain ⟨w, hw, hchars⟩ := hover
  simp only [takeWhile_isDigit_append ht, drop_takeWhile_append]
  split
  · exact .of_error
  · refine (numeric_readScale ht _ _).behind (w := w ++ rest.takeWhile Char.isDigit) ?_
      fun d hd => ?_
    · rw [hw, List.append_assoc, ← eq_takeWhile_append_drop]
    · rcases List.mem_append.mp hd with hd | hd
      · exact hchars d hd
      · exact takeWhile_isDigit_over _ d hd

theorem numeric_readNumberTail (p : Partial) (dropped : Nat) (r : Rest) :
    Numeric tail r (readNumberTail p dropped r) (readNumberTail p dropped (r.append tail)) := by
  obtain ⟨chars, bytes⟩ := r
  cases chars with
  | nil =>
    have hy : readNumberTail p dropped (Rest.append ⟨[], bytes⟩ tail) =
        readNumberTail.whole p dropped (Rest.append ⟨[], bytes⟩ tail) := by
      cases htail : tail with
      | nil => rfl
      | cons c l =>
        have hpoint : c ≠ '.' := by
          rintro rfl
          exact absurd (ht '.' (by simp [htail])) (by decide)
        simp [readNumberTail, Rest.append, not_exponent_of_tail ht (c := c) (by simp [htail])]
    rw [hy]
    exact numeric_whole p dropped _
  | cons c l =>
    by_cases hpoint : c = '.'
    · subst hpoint
      exact (numeric_readFraction ht p (Rest.skip ⟨'.' :: l, bytes⟩ '.' l)).behind (w := ['.']) rfl
        (List.all_eq_true.mp rfl)
    · simp only [readNumberTail, Rest.append, List.cons_append]
      split
      · rename_i hc
        refine (numeric_readExponent ht p (Rest.skip ⟨c :: l, bytes⟩ c l)).behind (w := [c]) rfl ?_
        rcases hc with rfl | rfl <;> exact List.all_eq_true.mp rfl
      · exact numeric_whole p dropped _

/-- **A number is read in the same way** where no number goes on behind it. -/
theorem numeric_readNumber (negative : Bool) (r : Rest) :
    Numeric tail r (readNumber negative r) (readNumber negative (r.append tail)) := by
  obtain ⟨chars, bytes⟩ := r
  cases chars with
  | nil => exact .of_error
  | cons c l =>
    simp only [readNumber, Rest.append, List.cons_append]
    split
    · rename_i hc
      subst hc
      have hdigit : (((l ++ tail).head?.map Char.isDigit).getD false) =
          ((l.head?.map Char.isDigit).getD false) := by
        cases l with
        | cons d l => rfl
        | nil =>
          cases htail : tail with
          | nil => rfl
          | cons d k => simpa using not_isDigit_of_tail ht (c := d) (by simp [htail])
      rw [hdigit]
      split
      · exact .of_error
      · exact (numeric_readNumberTail ht _ _ (Rest.skip ⟨'0' :: l, bytes⟩ '0' l)).behind
          (w := ['0']) rfl (List.all_eq_true.mp rfl)
    · split
      · have hover := fillSignificand_over 0 (c :: l) 0
        simp only [← List.cons_append, fillSignificand_append ht]
        generalize fillSignificand 0 (c :: l) 0 = x at hover
        obtain ⟨n, k, rest⟩ := x
        obtain ⟨w, hw, hchars⟩ := hover
        simp only [takeWhile_isDigit_append ht, drop_takeWhile_append]
        refine (numeric_readNumberTail ht _ _ _).behind (w := w ++ rest.takeWhile Char.isDigit) ?_
          fun d hd => ?_
        · rw [hw, List.append_assoc, ← eq_takeWhile_append_drop]
        · rcases List.mem_append.mp hd with hd | hd
          · exact hchars d hd
          · exact takeWhile_isDigit_over _ d hd
      · exact .of_error

/-! ### Values -/

/-- **A value is read in the same way** where no number goes on behind it, also with more steps. -/
theorem prolonged_readValue {n m : Nat} (h : n ≤ m) (depth : Nat) (r : Rest) :
    Prolonged tail (readValue n depth r) (readValue m depth (r.append tail)) := by
  induction depth generalizing r with
  | zero => exact .of_error
  | succ depth ih =>
    have hnumber : ∀ negative s, Prolonged tail
        ((readNumber negative s).map fun p => (Json.number p.1, p.2))
        ((readNumber negative (s.append tail)).map fun p => (Json.number p.1, p.2)) :=
      fun negative s => .map fun v r' hx => (numeric_readNumber ht negative s v r' hx).1
    unfold readValue
    rcases skipBlanks_cases tail r with ⟨b, hr⟩ | ⟨c, l, b, hr, hr'⟩
    · rw [hr]
      exact .of_error
    simp only [hr, hr']
    split
    · exact (prolonged_readWord _ (Rest.skip ⟨'n' :: l, b⟩ 'n' l)).map (f := fun _ => null)
    · exact (prolonged_readWord _ (Rest.skip ⟨'t' :: l, b⟩ 't' l)).map (f := fun _ => bool true)
    · exact (prolonged_readWord _ (Rest.skip ⟨'f' :: l, b⟩ 'f' l)).map (f := fun _ => bool false)
    · exact hnumber _ _
    · exact (prolonged_readString h _ _).map
    · split
      · exact .of_error
      · exact (prolonged_readArray ih h _).map
    · split
      · exact .of_error
      · exact (prolonged_readObject ih h _).map
    · split
      · exact hnumber _ ⟨c :: l, b⟩
      · exact .of_error

end Numbers

end HttpScript.Json
