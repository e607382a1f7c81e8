import HttpScript.JsonPath.Read
import HttpScript.Proofs.Grammar.Numbers

/-! # The canonical text of a JSON path

Every path can be written down: a bracket for each segment, names and texts in single quotes with a
backslash before each quote and backslash, indexes in decimal digits, nothing between them.

* `Layout`: this text, given a text for each number that a filter compares with.
* `Expressible`: the paths with indexes of 64 bits whose numbers have such a text, and in which no
  union is empty.
* `read?_text`: an expressible path is read back from its text. -/

namespace HttpScript.JsonPath

open Text Grammar

/-! ### Layout -/

namespace Layout

/-- A character between single quotes. -/
def escaped (c : Char) : List Char := if c = '\'' ∨ c = '\\' then ['\\', c] else [c]

/-- A text in single quotes. -/
def quoted (s : String) : List Char := '\'' :: (s.toList.flatMap escaped ++ ['\''])

/-- An integer. -/
def integer (i : Int) : List Char :=
  (if i < 0 then ['-'] else []) ++ Nat.toDigits 10 i.natAbs

/-- A name or an index. -/
def key : Key → List Char
  | .name n => quoted n
  | .index i => integer i

/-- A union. -/
def keys : List Key → List Char
  | [] => []
  | k :: l => key k ++ l.flatMap fun k => ',' :: key k

/-- A bound of a slice, if there is one. -/
def bound (o : Option Int) : List Char := o.elim [] integer

/-- A relation. -/
def relation : Relation → List Char
  | .eq => ['=', '=']
  | .ne => ['!', '=']
  | .lt => ['<']
  | .le => ['<', '=']
  | .gt => ['>']
  | .ge => ['>', '=']

variable (digits : Float → List Char)

/-- A literal, where numbers are written by `digits`. -/
def literal : Literal → List Char
  | .number x => digits x
  | .string s => quoted s
  | .bool true => ['t', 'r', 'u', 'e']
  | .bool false => ['f', 'a', 'l', 's', 'e']
  | .null => ['n', 'u', 'l', 'l']

/-- The step of a filter to a key. -/
def step (k : Key) : List Char := '[' :: (key k ++ [']'])

/-- A condition of a filter, if there is one. -/
def condition : Option (Relation × Literal) → List Char
  | none => []
  | some (r, b) => relation r ++ literal digits b

/-- A filter, behind its parenthesis. -/
def filter (f : Filter) : List Char := '@' :: (f.path.flatMap step ++ condition digits f.condition)

/-- A selector, between its brackets. -/
def selector : Selector → List Char
  | .keys l => keys l
  | .wildcard => ['*']
  | .slice a b => bound a ++ ':' :: bound b
  | .filter f => '?' :: '(' :: (filter digits f ++ [')'])

/-- A segment. -/
def segment : Segment → List Char
  | .child s => '[' :: (selector digits s ++ [']'])
  | .descendant s => '.' :: '.' :: '[' :: (selector digits s ++ [']'])

/-- **The canonical text of a path.** -/
def text (path : JsonPath) : String := .ofList ('$' :: path.flatMap (segment digits))

end Layout

/-! ### Expressible paths -/

/-- An integer of 64 bits. -/
def FitsWord (i : Int) : Prop := -Nat.pow 2 63 ≤ i ∧ i < Nat.pow 2 63

/-- A name, or an index of 64 bits. -/
def Key.Fits (k : Key) : Prop := ∀ i, k = .index i → FitsWord i

/-- A literal whose number, if it is one, is written by `digits` as a decimal text that reads as
this number. -/
def Literal.Expressible (digits : Float → List Char) (b : Literal) : Prop :=
  ∀ x, b = .number x →
    (∀ c ∈ digits x, isNumberChar c = true) ∧ Decimal.read? (digits x) = some x

/-- A filter whose indexes fit and whose literal is expressible. -/
structure Filter.Expressible (digits : Float → List Char) (f : Filter) : Prop where
  path : ∀ k ∈ f.path, k.Fits
  literal : ∀ c ∈ f.condition, c.2.Expressible digits

/-- A wildcard, a union that is not empty, a slice or a filter. -/
inductive Selector.Expressible (digits : Float → List Char) : Selector → Prop
  | wildcard : Expressible digits .wildcard
  | keys {l : List Key} (hne : l ≠ []) (h : ∀ k ∈ l, k.Fits) : Expressible digits (.keys l)
  | slice {a b : Option Int} (ha : ∀ i ∈ a, FitsWord i) (hb : ∀ i ∈ b, FitsWord i) :
    Expressible digits (.slice a b)
  | filter {f : Filter} (h : f.Expressible digits) : Expressible digits (.filter f)

/-- The selector of a segment. -/
def Segment.selector : Segment → Selector
  | child s | descendant s => s

/-- **An expressible path.** -/
def Expressible (digits : Float → List Char) (path : JsonPath) : Prop :=
  ∀ s ∈ path, s.selector.Expressible digits

/-! ### Keys -/

variable {l : List Char}

theorem skipWhite_of_headNot (h : HeadNot isWhite l) : skipWhite l = l :=
  dropWhile_append_of_headNot (w := []) (by simp) h

theorem readQuoted_escaped (s l : List Char) :
    readQuoted '\'' (s.flatMap Layout.escaped ++ '\'' :: l) = some (s, l) := by
  induction s with
  | nil => simp [readQuoted]
  | cons c s ih =>
    rw [List.flatMap_cons, List.append_assoc]
    by_cases hc : c = '\'' ∨ c = '\\'
    · rw [Layout.escaped, if_pos hc]
      simp [readQuoted, ih]
    · rw [Layout.escaped, if_neg hc, List.cons_append, List.nil_append]
      rw [not_or] at hc
      rw [readQuoted, if_neg hc.1, ih]
      · rfl
      · exact fun h _ => hc.2 h
      · exact fun _ _ h _ => hc.2 h

theorem readString_quoted (s : String) (l : List Char) :
    readString (Layout.quoted s ++ l) = some (s, l) := by
  unfold Layout.quoted readString
  rw [List.cons_append, List.append_assoc]
  simp [readQuoted_escaped]

theorem startsQuoted_cons {c : Char} (hsingle : c ≠ '\'') (hdouble : c ≠ '"') :
    startsQuoted (c :: l) = false := by
  simp [startsQuoted, hsingle, hdouble]

/-- A minus, if one stands there, and what follows it. -/
def splitMinus : List Char → Bool × List Char
  | '-' :: l => (true, l)
  | l => (false, l)

theorem readInteger_eq (l : List Char) : readInteger l =
    let digits := (splitMinus l).2.takeWhile Char.isDigit
    if digits.isEmpty then some (none, l)
    else
      let n : Int := if (splitMinus l).1 then -Decimal.natOfDigits digits
        else Decimal.natOfDigits digits
      if n < -Nat.pow 2 63 ∨ Nat.pow 2 63 ≤ n then none
      else some (some n, (splitMinus l).2.dropWhile Char.isDigit) := by
  unfold readInteger
  split
  rename_i negative r heq
  have hsplit : splitMinus l = (negative, r) := by
    split at heq
    · cases heq
      rfl
    · rename_i hminus
      cases heq
      unfold splitMinus
      split
      · exact (hminus _ rfl).elim
      · rfl
  rw [hsplit]

theorem splitMinus_of_headNot (h : HeadNot (· == '-') l) : splitMinus l = (false, l) := by
  unfold splitMinus
  split
  · simp at h
  · rfl

theorem readInteger_integer {i : Int} (hi : FitsWord i) (h : HeadNot Char.isDigit l) :
    readInteger (Layout.integer i ++ l) = some (some i, l) := by
  have hdigits := isDigits_toDigits i.natAbs
  have hsplit : splitMinus (Layout.integer i ++ l) =
      (decide (i < 0), Nat.toDigits 10 i.natAbs ++ l) := by
    unfold Layout.integer
    by_cases hneg : i < 0
    · simp [hneg, splitMinus]
    · rw [if_neg hneg, List.nil_append, splitMinus_of_headNot, decide_eq_false hneg]
      obtain ⟨c, k, hk, hc⟩ := digits_cons hdigits
      rw [hk, List.cons_append, headNot_cons]
      refine beq_eq_false_iff_ne.mpr ?_
      rintro rfl
      cases hc
  have hvalue : (if decide (i < 0) then -(i.natAbs : Int) else i.natAbs) = i := by
    by_cases hneg : i < 0
    · rw [if_pos (decide_eq_true hneg)]
      omega
    · rw [if_neg (by simpa using hneg)]
      omega
  have hfits : ¬ (i < -Nat.pow 2 63 ∨ Nat.pow 2 63 ≤ i) :=
    not_or.mpr ⟨Int.not_lt.mpr hi.1, Int.not_le.mpr hi.2⟩
  rw [readInteger_eq, hsplit]
  dsimp only
  rw [takeWhile_append_of_headNot hdigits.2 h, dropWhile_append_of_headNot hdigits.2 h,
    if_neg (by simp), natOfDigits_toDigits, hvalue, if_neg hfits]

theorem readInteger_none (h : HeadNot (fun c => c.isDigit || c == '-') l) :
    readInteger l = some (none, l) := by
  have hdigits : l.takeWhile Char.isDigit = [] :=
    takeWhile_append_of_headNot (w := []) (by simp) (h.mono fun c hc => by simp [hc])
  rw [readInteger_eq, splitMinus_of_headNot (h.mono fun c hc => by simp [hc])]
  dsimp only
  rw [hdigits]
  rfl

/-- A character that a key begins with. -/
def startsKey (c : Char) : Bool := c == '\'' || c == '-' || c.isDigit

theorem not_isWhite_of_isDigit {c : Char} (h : c.isDigit = true) : isWhite c = false := by
  simp only [Char.isDigit, Bool.and_eq_true, decide_eq_true_eq] at h
  have hlow : 48 ≤ c.toNat := h.1
  have hhigh : c.toNat ≤ 57 := h.2
  unfold isWhite
  simp
  omega

/-- Nothing else that stands in brackets begins like a key. -/
theorem startsKey_facts {c : Char} (h : startsKey c = true) :
    isWhite c = false ∧ c ≠ '*' ∧ c ≠ '?' ∧ c ≠ ':' := by
  simp only [startsKey, Bool.or_eq_true, beq_iff_eq] at h
  rcases h with (rfl | rfl) | h
  · decide
  · decide
  · refine ⟨not_isWhite_of_isDigit h, ?_, ?_, ?_⟩ <;> (rintro rfl; cases h)

theorem integer_cons (i : Int) :
    ∃ c k, Layout.integer i = c :: k ∧ (c == '-' || c.isDigit) = true := by
  unfold Layout.integer
  by_cases hneg : i < 0
  · exact ⟨'-', Nat.toDigits 10 i.natAbs, by rw [if_pos hneg]; rfl, rfl⟩
  · obtain ⟨c, k, hk, hc⟩ := digits_cons (isDigits_toDigits i.natAbs)
    exact ⟨c, k, by rw [if_neg hneg, hk]; rfl, by simp [hc]⟩

theorem key_cons (k : Key) : ∃ c m, Layout.key k = c :: m ∧ startsKey c = true := by
  cases k with
  | name n => exact ⟨'\'', _, rfl, rfl⟩
  | index i =>
    obtain ⟨c, m, hm, hc⟩ := integer_cons i
    refine ⟨c, m, hm, ?_⟩
    rw [Bool.or_eq_true] at hc
    rcases hc with hc | hc <;> simp [startsKey, hc]

theorem skipWhite_key (k : Key) (l : List Char) :
    skipWhite (Layout.key k ++ l) = Layout.key k ++ l := by
  obtain ⟨c, m, hm, hc⟩ := key_cons k
  rw [hm]
  exact skipWhite_of_headNot (headNot_cons.mpr (startsKey_facts hc).1)

theorem readKey_key {k : Key} (hk : k.Fits) (h : HeadNot Char.isDigit l) :
    readKey (Layout.key k ++ l) = some (k, l) := by
  unfold readKey
  cases k with
  | name n =>
    rw [if_pos (by rfl)]
    show (readString (Layout.quoted n ++ l)).map _ = _
    rw [readString_quoted]
    rfl
  | index i =>
    have hquote : startsQuoted (Layout.integer i ++ l) = false := by
      obtain ⟨c, m, hm, hc⟩ := integer_cons i
      rw [hm]
      refine startsQuoted_cons ?_ ?_ <;> (rintro rfl; cases hc)
    show (if startsQuoted (Layout.integer i ++ l) then _ else _) = _
    rw [hquote]
    simp only [Bool.false_eq_true, if_false, Layout.key, readInteger_integer (hk i rfl) h]

theorem readKeys_keys {n : Nat} {ks : List Key} (hks : ∀ k ∈ ks, k.Fits) (hn : ks.length < n)
    (done : List Key) (l : List Char) :
    readKeys n done (ks.flatMap (fun k => ',' :: Layout.key k) ++ ']' :: l) =
      some (done.reverse ++ ks, ']' :: l) := by
  induction ks generalizing n done with
  | nil =>
    obtain ⟨n, rfl⟩ := Nat.exists_eq_succ_of_ne_zero (Nat.ne_zero_of_lt hn)
    unfold readKeys
    rw [List.flatMap_nil, List.nil_append, List.append_nil,
      skipWhite_of_headNot (headNot_cons.mpr (by decide))]
    rfl
  | cons k ks ih =>
    obtain ⟨n, rfl⟩ := Nat.exists_eq_succ_of_ne_zero (Nat.ne_zero_of_lt hn)
    have hrest : HeadNot Char.isDigit (ks.flatMap (fun k => ',' :: Layout.key k) ++ ']' :: l) := by
      cases ks <;> simp
    unfold readKeys
    rw [List.flatMap_cons, List.cons_append, List.cons_append, List.append_assoc,
      skipWhite_of_headNot (headNot_cons.mpr (by decide))]
    simp only [skipWhite_key, readKey_key (hks k (by simp)) hrest, Option.bind_eq_bind,
      Option.bind_some]
    rw [ih (fun k hk => hks k (by simp [hk])) (by simpa using hn)]
    simp

/-! ### Filters -/

theorem readPath_steps {n : Nat} {path : List Key} (hpath : ∀ k ∈ path, k.Fits)
    (hn : path.length < n) (h : HeadNot (fun c => c == '.' || c == '[') l) (done : List Key) :
    readPath n done (path.flatMap Layout.step ++ l) = some (done.reverse ++ path, l) := by
  induction path generalizing n done with
  | nil =>
    obtain ⟨n, rfl⟩ := Nat.exists_eq_succ_of_ne_zero (Nat.ne_zero_of_lt hn)
    rw [List.flatMap_nil, List.nil_append, List.append_nil]
    unfold readPath
    split
    · cases headNot_cons.mp h
    · cases headNot_cons.mp h
    · rfl
  | cons k path ih =>
    obtain ⟨n, rfl⟩ := Nat.exists_eq_succ_of_ne_zero (Nat.ne_zero_of_lt hn)
    rw [List.flatMap_cons, Layout.step, List.cons_append, List.cons_append, List.append_assoc,
      List.append_assoc]
    unfold readPath
    simp only [List.cons_append, List.nil_append, readKey_key (hpath k (by simp))
      (headNot_cons.mpr (show Char.isDigit ']' = false from rfl)), expect, if_true,
      Option.bind_eq_bind, Option.bind_some]
    rw [ih (fun k hk => hpath k (by simp [hk])) (by simpa using hn)]
    simp

/-- A relation, in front of what does not prolong it. -/
theorem readWord_relation (r : Relation) (h : HeadNot (· == '=') l) :
    readWord relations (Layout.relation r ++ l) = some (r, l) := by
  have hstop : ¬ ['='] <+: l := by
    rintro ⟨k, rfl⟩
    cases headNot_cons.mp h
  cases r with
  | lt | gt =>
    simp [readWord, relations, List.findSome?, strip?, Layout.relation, hstop]
    rfl
  | eq | ne | le | ge =>
    simp [readWord, relations, List.findSome?, strip?, Layout.relation]
    rfl

theorem number_cons {w : List Char} {x : Float} (hw : ∀ c ∈ w, isNumberChar c = true)
    (hx : Decimal.read? w = some x) : ∃ c k, w = c :: k ∧ isNumberChar c = true := by
  have hne : w ≠ [] := by
    rintro rfl
    cases hx
  obtain ⟨c, k, rfl⟩ := List.exists_cons_of_ne_nil hne
  exact ⟨c, k, rfl, hw c (List.mem_cons_self ..)⟩

theorem not_isWhite_of_isNumberChar {c : Char} (h : isNumberChar c = true) :
    isWhite c = false := by
  simp only [isNumberChar, Bool.or_eq_true, beq_iff_eq] at h
  rcases h with ((((h | rfl) | rfl) | rfl) | rfl) | rfl
  · exact not_isWhite_of_isDigit h
  all_goals decide

/-- A number of a filter is no quoted text and no word. -/
theorem readLiteral_number {w : List Char} {x : Float} (hw : ∀ c ∈ w, isNumberChar c = true)
    (hx : Decimal.read? w = some x) (h : HeadNot isNumberChar l) :
    readLiteral (w ++ l) = some (.number x, l) := by
  obtain ⟨c, k, rfl, hc⟩ := number_cons hw hx
  have hquote : startsQuoted (c :: k ++ l) = false := by
    refine startsQuoted_cons ?_ ?_ <;> (rintro rfl; cases hc)
  have hword : readWord wordLiterals (c :: k ++ l) = none := by
    have hfirst : c ≠ 't' ∧ c ≠ 'f' ∧ c ≠ 'n' := by
      refine ⟨?_, ?_, ?_⟩ <;> (rintro rfl; cases hc)
    simp [readWord, wordLiterals, strip?, hfirst.1.symm, hfirst.2.1.symm, hfirst.2.2.symm]
  unfold readLiteral
  rw [hquote, if_neg Bool.false_ne_true, hword, takeWhile_append_of_headNot hw h,
    dropWhile_append_of_headNot hw h, hx]
  rfl

variable {digits : Float → List Char}

theorem readLiteral_literal {b : Literal} (hb : b.Expressible digits) (h : HeadNot isNumberChar l) :
    readLiteral (Layout.literal digits b ++ l) = some (b, l) := by
  cases b with
  | number x => exact readLiteral_number (hb x rfl).1 (hb x rfl).2 h
  | string s =>
    unfold readLiteral
    rw [if_pos (by rfl)]
    show (readString (Layout.quoted s ++ l)).map _ = _
    rw [readString_quoted]
    rfl
  | bool b =>
    cases b with
    | false =>
      simp [readLiteral, Layout.literal, startsQuoted, readWord, wordLiterals, strip?]
      rfl
    | true =>
      simp [readLiteral, Layout.literal, startsQuoted, readWord, wordLiterals, strip?]
      rfl
  | null =>
    simp [readLiteral, Layout.literal, startsQuoted, readWord, wordLiterals, strip?]
    rfl

/-- No literal begins with an equals sign or with white space. -/
theorem literal_headNot {b : Literal} (hb : b.Expressible digits) :
    HeadNot (fun c => c == '=' || isWhite c) (Layout.literal digits b ++ l) := by
  cases b with
  | number x =>
    obtain ⟨c, k, hk, hc⟩ := number_cons (hb x rfl).1 (hb x rfl).2
    rw [Layout.literal, hk, List.cons_append, headNot_cons, not_isWhite_of_isNumberChar hc,
      Bool.or_false, beq_eq_false_iff_ne]
    rintro rfl
    cases hc
  | string s => exact headNot_cons.mpr (by decide)
  | bool b => cases b <;> exact headNot_cons.mpr (by decide)
  | null => exact headNot_cons.mpr (by decide)

theorem relation_headNot (r : Relation) (l : List Char) :
    HeadNot (fun c => c == '.' || c == '[' || c == ')' || isWhite c) (Layout.relation r ++ l) := by
  cases r <;> exact headNot_cons.mpr (by decide)

theorem readFilter_filter {n : Nat} {f : Filter} (hf : f.Expressible digits)
    (hn : f.path.length < n) (l : List Char) :
    readFilter n (Layout.filter digits f ++ ')' :: l) = some (f, ')' :: l) := by
  obtain ⟨path, condition⟩ := f
  unfold readFilter Layout.filter
  rw [List.cons_append, skipWhite_of_headNot (headNot_cons.mpr (by decide))]
  simp only [expect, if_true, Option.bind_eq_bind, Option.bind_some, List.append_assoc]
  cases condition with
  | none =>
    rw [Layout.condition, List.nil_append,
      readPath_steps hf.path hn (headNot_cons.mpr (by decide))]
    simp only [Option.bind_some,
      skipWhite_of_headNot (l := ')' :: l) (headNot_cons.mpr (by decide))]
    rfl
  | some c =>
    obtain ⟨r, b⟩ := c
    have hb : b.Expressible digits := hf.literal (r, b) rfl
    have hrelation := relation_headNot r (Layout.literal digits b ++ ')' :: l)
    have hliteral := literal_headNot (l := ')' :: l) hb
    have hend : (Layout.relation r ++ (Layout.literal digits b ++ ')' :: l)).head? ≠ some ')' :=
      fun h => by cases hrelation ')' h
    rw [Layout.condition, List.append_assoc, readPath_steps hf.path hn
      (hrelation.mono fun c hc => by simp_all)]
    simp only [Option.bind_some, List.reverse_nil, List.nil_append,
      skipWhite_of_headNot (hrelation.mono fun c hc => by simp [hc]), if_neg hend,
      readWord_relation r (hliteral.mono fun c hc => by simp_all),
      skipWhite_of_headNot (hliteral.mono fun c hc => by simp [hc]),
      readLiteral_literal hb (headNot_cons.mpr (show isNumberChar ')' = false from rfl))]
    rfl

/-! ### Segments -/

/-- A character of a wildcard or a filter, or one that is skipped. -/
def isOther (c : Char) : Bool := c == '*' || c == '?' || isWhite c

theorem not_isOther_of_startsKey {c : Char} (h : startsKey c = true) : isOther c = false := by
  obtain ⟨hwhite, hstar, hmark, -⟩ := startsKey_facts h
  simp [isOther, hwhite, hstar, hmark]

theorem headNot_key (k : Key) (l : List Char) : HeadNot isOther (Layout.key k ++ l) := by
  obtain ⟨c, m, hm, hc⟩ := key_cons k
  rw [hm]
  exact headNot_cons.mpr (not_isOther_of_startsKey hc)

theorem headNot_bound (o : Option Int) (l : List Char) :
    HeadNot isOther (Layout.bound o ++ ':' :: l) := by
  cases o with
  | none => exact headNot_cons.mpr (by decide)
  | some i => exact headNot_key (.index i) _

theorem readInteger_bound {o : Option Int} (ho : ∀ i ∈ o, FitsWord i) {c : Char}
    (hc : (c.isDigit || c == '-') = false) :
    readInteger (Layout.bound o ++ c :: l) = some (o, c :: l) := by
  cases o with
  | none => exact readInteger_none (headNot_cons.mpr hc)
  | some i =>
    rw [Bool.or_eq_false_iff] at hc
    exact readInteger_integer (ho i rfl) (headNot_cons.mpr hc.1)

/-- What stands in brackets behind the integer that is read first, if there is one. -/
def readBehindInteger (n : Nat) (first : Option Int) : Reader Selector := fun r =>
  match r, first with
  | ':' :: r, _ => (readInteger r).bind fun p => some (.slice first p.1, p.2)
  | _, some i => (readKeys n [.index i] r).bind fun p => some (.keys p.1, p.2)
  | _, none => (readKey r).bind fun p => (readKeys n [p.1] p.2).bind fun q =>
      some (.keys q.1, q.2)

/-- Without a colon, the integer is the first key of a union. -/
theorem readBehindInteger_some {n : Nat} (i : Int) (h : HeadNot (· == ':') l) :
    readBehindInteger n (some i) l =
      (readKeys n [.index i] l).bind fun p => some (.keys p.1, p.2) := by
  unfold readBehindInteger
  split
  · cases headNot_cons.mp h
  · rename_i heq
    cases heq
    rfl
  · rename_i heq
    cases heq

theorem readBehindInteger_none {n : Nat} (h : HeadNot (· == ':') l) :
    readBehindInteger n none l = (readKey l).bind fun p => (readKeys n [p.1] p.2).bind fun q =>
      some (.keys q.1, q.2) := by
  unfold readBehindInteger
  split
  · cases headNot_cons.mp h
  · rename_i heq
    cases heq
  · rfl

/-- In brackets that hold no wildcard and no filter, an integer is read first. -/
theorem readBracketed_eq {n : Nat} (h : HeadNot isOther l) : readBracketed n l =
    (readInteger l).bind fun p => readBehindInteger n p.1 p.2 := by
  unfold readBracketed
  split
  · cases headNot_cons.mp h
  · cases headNot_cons.mp h
  · rfl

theorem readBracketed_keys {n : Nat} {k : Key} {ks : List Key} (hk : k.Fits)
    (hks : ∀ k ∈ ks, k.Fits) (hn : ks.length < n) (l : List Char) :
    readBracketed n (Layout.keys (k :: ks) ++ ']' :: l) = some (.keys (k :: ks), ']' :: l) := by
  have hrest := readKeys_keys hks hn [k] l
  -- a comma or the end of the bracket follows the first key
  have hhead : HeadNot (fun c => c.isDigit || c == ':')
      (ks.flatMap (fun k => ',' :: Layout.key k) ++ ']' :: l) := by
    cases ks <;> exact headNot_cons.mpr (by decide)
  have hdigit : HeadNot Char.isDigit (ks.flatMap (fun k => ',' :: Layout.key k) ++ ']' :: l) :=
    hhead.mono fun c hc => by simp [hc]
  rw [Layout.keys, List.append_assoc, readBracketed_eq (headNot_key k _)]
  cases k with
  | index i =>
    rw [Layout.key, readInteger_integer (hk i rfl) hdigit, Option.bind_some,
      readBehindInteger_some i (hhead.mono fun c hc => by simp_all), hrest]
    rfl
  | name s =>
    have hquote (p : Char → Bool) (hp : p '\'' = false) : HeadNot p (Layout.key (.name s) ++
        (ks.flatMap (fun k => ',' :: Layout.key k) ++ ']' :: l)) := headNot_cons.mpr hp
    rw [readInteger_none (hquote _ rfl), Option.bind_some, readBehindInteger_none (hquote _ rfl),
      readKey_key hk hdigit, Option.bind_some, hrest]
    rfl

theorem readBracketed_slice {n : Nat} {a b : Option Int} (ha : ∀ i ∈ a, FitsWord i)
    (hb : ∀ i ∈ b, FitsWord i) (l : List Char) :
    readBracketed n (Layout.bound a ++ ':' :: (Layout.bound b ++ ']' :: l)) =
      some (.slice a b, ']' :: l) := by
  rw [readBracketed_eq (headNot_bound a _), readInteger_bound ha (by decide)]
  show (readInteger (Layout.bound b ++ ']' :: l)).bind _ = _
  rw [readInteger_bound hb (by decide)]
  rfl

variable {n : Nat}

theorem length_le_length_flatMap {α β : Type} {f : α → List β} {l : List α}
    (h : ∀ a ∈ l, f a ≠ []) : l.length ≤ (l.flatMap f).length := by
  induction l with
  | nil => simp
  | cons a l ih =>
    have ha := List.length_pos_iff.mpr (h a (by simp))
    have hl := ih fun b hb => h b (by simp [hb])
    rw [List.flatMap_cons, List.length_append, List.length_cons]
    omega

/-- A selector, up to the end of its bracket. The number of steps has to pass the number of keys,
which the length of the text does. -/
theorem readBracketed_selector {s : Selector} (hs : s.Expressible digits)
    (hn : (Layout.selector digits s).length < n) (l : List Char) :
    readBracketed n (Layout.selector digits s ++ ']' :: l) = some (s, ']' :: l) := by
  cases hs with
  | wildcard => rfl
  | @keys ks hne h =>
    obtain ⟨k, ks, rfl⟩ := List.exists_cons_of_ne_nil hne
    refine readBracketed_keys (h k (by simp)) (fun k hk => h k (by simp [hk])) ?_ l
    have hlength := length_le_length_flatMap (f := fun k => ',' :: Layout.key k) (l := ks) (by simp)
    simp only [Layout.selector, Layout.keys, List.length_append] at hn
    omega
  | slice ha hb =>
    rw [Layout.selector, List.append_assoc]
    exact readBracketed_slice ha hb l
  | @filter f h =>
    have hpath : f.path.length < n := by
      have hlength := length_le_length_flatMap (f := Layout.step) (l := f.path)
        (by simp [Layout.step])
      simp only [Layout.selector, Layout.filter, List.length_cons, List.length_append] at hn
      omega
    have hfilter := readFilter_filter h hpath (']' :: l)
    unfold readBracketed
    simp only [Layout.selector, List.cons_append, List.append_assoc, List.nil_append, expect,
      if_true, Option.bind_eq_bind, Option.bind_some, hfilter,
      skipWhite_of_headNot (l := ')' :: ']' :: l) (headNot_cons.mpr (by decide))]
    rfl

theorem readBracket_selector {s : Selector} (hs : s.Expressible digits)
    (hn : (Layout.selector digits s).length < n) (l : List Char) :
    readBracket n (Layout.selector digits s ++ ']' :: l) = some (s, l) := by
  have hwhite : HeadNot isWhite (Layout.selector digits s ++ ']' :: l) := by
    cases hs with
    | wildcard => exact headNot_cons.mpr (by decide)
    | @keys ks hne h =>
      obtain ⟨k, ks, rfl⟩ := List.exists_cons_of_ne_nil hne
      rw [Layout.selector, Layout.keys, List.append_assoc]
      exact (headNot_key k _).mono fun c hc => by simp [isOther, hc]
    | @slice a b ha hb =>
      rw [Layout.selector, List.append_assoc]
      exact (headNot_bound a _).mono fun c hc => by simp [isOther, hc]
    | filter h => exact headNot_cons.mpr (by decide)
  unfold readBracket
  rw [skipWhite_of_headNot hwhite, readBracketed_selector hs hn]
  simp only [Option.bind_eq_bind, Option.bind_some, expect, if_true,
    skipWhite_of_headNot (l := ']' :: l) (headNot_cons.mpr (by decide))]
  rfl

theorem readSegment_segment {s : Segment} (hs : s.selector.Expressible digits)
    (hn : (Layout.segment digits s).length < n) (l : List Char) :
    readSegment n (Layout.segment digits s ++ l) = some (s, l) := by
  have hselector : (Layout.selector digits s.selector).length < n := by
    cases s <;> simp only [Layout.segment, List.length_cons, List.length_append] at hn <;>
      simp only [Segment.selector] <;> omega
  have hbracket := readBracket_selector hs hselector l
  cases s with
  | child s =>
    simp only [Layout.segment, List.cons_append, List.append_assoc, List.nil_append, readSegment]
    rw [Segment.selector] at hbracket
    rw [hbracket]
    rfl
  | descendant s =>
    simp only [Layout.segment, List.cons_append, List.append_assoc, List.nil_append, readSegment]
    rw [Segment.selector] at hbracket
    rw [hbracket]
    rfl

theorem segment_ne_nil (s : Segment) : Layout.segment digits s ≠ [] := by
  cases s <;> exact List.cons_ne_nil _ _

theorem readSegments_succ {bound : Nat} (h : l ≠ []) (done : List Segment) :
    readSegments bound (n + 1) done l =
      (readSegment bound l).bind fun p => readSegments bound n (p.1 :: done) p.2 := by
  cases l with
  | nil => exact (h rfl).elim
  | cons c l => rfl

theorem readSegments_segments {bound : Nat} {path : JsonPath} (hpath : Expressible digits path)
    (hbound : (path.flatMap (Layout.segment digits)).length < bound) (hn : path.length ≤ n)
    (done : List Segment) :
    readSegments bound n done (path.flatMap (Layout.segment digits)) =
      some (done.reverse ++ path) := by
  induction path generalizing n done with
  | nil =>
    unfold readSegments
    simp
  | cons s path ih =>
    obtain ⟨n, rfl⟩ := Nat.exists_eq_succ_of_ne_zero (Nat.ne_zero_of_lt hn)
    rw [List.flatMap_cons, List.length_append] at hbound
    have hsegment := readSegment_segment (hpath s (by simp)) (n := bound) (by omega)
      (path.flatMap (Layout.segment digits))
    rw [List.flatMap_cons, readSegments_succ (by simp [segment_ne_nil]), hsegment, Option.bind_some,
      ih (fun s hs => hpath s (by simp [hs])) (by omega) (by simpa using hn)]
    simp

/-- **A path is read back from its canonical text.** -/
theorem read?_text {path : JsonPath} (hpath : Expressible digits path) :
    read? (Layout.text digits path) = some path := by
  have hlength := length_le_length_flatMap (f := Layout.segment digits) (l := path)
    (fun s _ => segment_ne_nil s)
  unfold read? Layout.text
  simp only [String.toList_ofList]
  exact readSegments_segments hpath (by simp only [List.length_cons]; omega)
    (by simp only [List.length_cons]; omega) []

end HttpScript.JsonPath
