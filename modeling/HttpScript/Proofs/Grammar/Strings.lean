import HttpScript.Proofs.Grammar.Lexemes

/-! # Strings read back

The three kinds of string that a script holds differ in the characters that are written as they are
and in the ones that have an escape of their own. All others are written by their number.

* `Reads.escape`: the escapes that all strings share.
* `Spells`: a spelling of a text, with some of its characters escaped.
* `Reads.spelledKey`, `Reads.spelledQuoted`, `Reads.value`: the strings in all spellings.
* `Reads.keyString`, `Reads.quotedString`, `Reads.valueString`: the strings as they are printed. -/

namespace HttpScript.Grammar

open Script Text

variable {text : Array Char} {l : List Char}

/-! ### Escapes -/

theorem hexValue?_digitChar : ∀ n < 16, hexValue? (Nat.digitChar n) = some n := by
  decide

theorem isHexDigit_digitChar : ∀ n < 16, isHexDigit (Nat.digitChar n) = true := by
  decide

theorem hexNumber_toDigits (n : Nat) : hexNumber (Nat.toDigits 16 n) = n := by
  induction n using Nat.strongRecOn with
  | ind n ih =>
    rw [Nat.toDigits_eq_if (by omega)]
    split
    · rename_i hn
      simp [hexNumber, hexValue?_digitChar n hn]
    · have hdigit := ih (n / 16) (by omega)
      unfold hexNumber at hdigit ⊢
      rw [List.foldl_append, hdigit, List.foldl_cons, List.foldl_nil,
        hexValue?_digitChar (n % 16) (by omega)]
      simp only
      omega

theorem isHexDigit_of_mem_toDigits {n : Nat} {c : Char} (h : c ∈ Nat.toDigits 16 n) :
    isHexDigit c = true := by
  induction n using Nat.strongRecOn with
  | ind n ih =>
    rw [Nat.toDigits_eq_if (by omega)] at h
    split at h
    · rename_i hn
      rw [List.mem_singleton.mp h]
      exact isHexDigit_digitChar n hn
    · rcases List.mem_append.mp h with h | h
      · exact ih (n / 16) (by omega) h
      · rw [List.mem_singleton.mp h]
        exact isHexDigit_digitChar (n % 16) (by omega)

/-- **An escape of a character**, behind its backslash. A code point may have leading zeros. -/
inductive Escapes (plain : List Char) (c : Char) : List Char → Prop
  | plain (h : plain.contains c = true) : Escapes plain c [c]
  | backspace (h : c = '\x08') : Escapes plain c ['b']
  | lineFeed (h : c = '\n') : Escapes plain c ['n']
  | carriageReturn (h : c = '\r') : Escapes plain c ['r']
  | tab (h : c = '\t') : Escapes plain c ['t']
  | codePoint {digits : List Char} (hne : digits ≠ []) (hlength : digits.length ≤ 8)
      (hdigits : ∀ d ∈ digits, isHexDigit d = true) (hnumber : hexNumber digits = c.toNat) :
      Escapes plain c ('u' :: '\x7b' :: digits ++ ['\x7d'])

theorem escapes_escaped (plain : List Char) (c : Char) :
    ∃ w, escaped plain c = '\\' :: w ∧ Escapes plain c w := by
  refine ⟨_, rfl, ?_⟩
  split_ifs with hplain hb hn hr ht
  · exact .plain hplain
  · exact .backspace hb
  · exact .lineFeed hn
  · exact .carriageReturn hr
  · exact .tab ht
  · refine .codePoint Nat.toDigits_ne_nil ?_ (fun d => isHexDigit_of_mem_toDigits)
      (hexNumber_toDigits _)
    rw [Nat.length_toDigits_le_iff (by omega) (by omega)]
    have hlt : c.val.toNat < 2 ^ 32 := c.val.toNat_lt
    have hval : c.toNat = c.val.toNat := rfl
    omega

/-- The letters of the escapes stand for themselves in none of the strings. -/
def LettersFree (plain : List Char) : Prop :=
  ∀ c ∈ ['b', 'n', 'r', 't', 'u'], plain.contains c = false

instance (plain : List Char) : Decidable (LettersFree plain) :=
  List.decidableBAll (fun c => plain.contains c = false) ['b', 'n', 'r', 't', 'u']

theorem Reads.codePoint {c : Char} {digits : List Char} (hne : digits ≠ [])
    (hlength : digits.length ≤ 8) (hdigits : ∀ d ∈ digits, isHexDigit d = true)
    (hnumber : hexNumber digits = c.toNat) :
    Reads text codePoint ('\x7b' :: digits ++ '\x7d' :: l) l (· = c) := by
  refine Reads.position.bind fun p _ => Reads.read.bind fun x hx => ?_
  subst hx
  refine .ite_neg (by simp) ?_
  refine (Reads.readWhile_append hdigits (headNot_cons.mpr rfl)).bind fun w hw => ?_
  subst hw
  refine Reads.position.bind fun q _ => .ite_neg (by simp [hne, hlength]) ?_
  refine Reads.read.bind fun x hx => ?_
  subst hx
  refine .ite_neg (by simp) ?_
  have hvalid : (hexNumber w).isValidChar := hnumber ▸ c.valid
  rw [dif_pos hvalid]
  refine .pure ?_
  apply Char.ext
  apply UInt32.toNat_inj.mp
  exact hnumber

theorem Reads.escape {plain : List Char} {broken : Fault} {c : Char} {w : List Char}
    (hplain : LettersFree plain) (h : Escapes plain c w) :
    Reads text (escape plain broken) (w ++ l) l (· = c) := by
  have hletter : ∀ x ∈ ['b', 'n', 'r', 't', 'u'], ¬ plain.contains x = true := fun x hx => by
    simp only [hplain x hx, Bool.false_eq_true, not_false_eq_true]
  refine Reads.position.bind fun p _ => ?_
  cases h with
  | plain h =>
    refine Reads.readOr.bind fun x hx => ?_
    subst hx
    exact .ite_pos h (.pure rfl)
  | backspace h =>
    refine Reads.readOr.bind fun x hx => ?_
    subst hx
    exact .ite_neg (hletter _ (by simp)) (.pure h.symm)
  | lineFeed h =>
    refine Reads.readOr.bind fun x hx => ?_
    subst hx
    exact .ite_neg (hletter _ (by simp)) (.pure h.symm)
  | carriageReturn h =>
    refine Reads.readOr.bind fun x hx => ?_
    subst hx
    exact .ite_neg (hletter _ (by simp)) (.pure h.symm)
  | tab h =>
    refine Reads.readOr.bind fun x hx => ?_
    subst hx
    exact .ite_neg (hletter _ (by simp)) (.pure h.symm)
  | codePoint hne hlength hdigits hnumber =>
    refine Reads.readOr.bind fun x hx => ?_
    subst hx
    refine .ite_neg (hletter _ (by simp)) ?_
    simpa using Reads.codePoint (l := l) hne hlength hdigits hnumber

/-! ### Spelled texts -/

/-- **A spelling of a text**: each character as it is, if it is of the class `plain`, or escaped. -/
inductive Spells (plain : Char → Bool) (escapes : List Char) : List Char → List Char → Prop
  | nil : Spells plain escapes [] []
  | plain {c : Char} {v w : List Char} (h : plain c = true) (hw : Spells plain escapes v w) :
      Spells plain escapes (c :: v) (c :: w)
  | escape {c : Char} {e v w : List Char} (h : Escapes escapes c e)
      (hw : Spells plain escapes v w) : Spells plain escapes (c :: v) ('\\' :: (e ++ w))

/-- What is printed character by character spells the text if each character does. -/
theorem spells_flatMap {plain : Char → Bool} {escapes : List Char} {word : Char → List Char}
    (h : ∀ c v w, Spells plain escapes v w → Spells plain escapes (c :: v) (word c ++ w))
    (v : List Char) : Spells plain escapes v (v.flatMap word) := by
  induction v with
  | nil => exact .nil
  | cons c v ih => exact h c v _ ih

/-- **Collecting a spelled text**, up to where no character follows. -/
theorem Reads.collect_spelled {plain : Char → Bool} {escapes v w l' : List Char}
    {r : Rule (Option Char)}
    (hplain : ∀ c k, plain c = true →
      Reads text r (c :: k) k fun o => ∃ a, o = some a ∧ a = c)
    (hescape : ∀ c e k, Escapes escapes c e →
      Reads text r ('\\' :: (e ++ k)) k fun o => ∃ a, o = some a ∧ a = c)
    (hend : Reads text r l l' (· = none)) (hw : Spells plain escapes v w) :
    Reads text (Rule.collect r) (w ++ l) l' (· = v) := by
  induction hw with
  | nil => exact Reads.collect_nil hend
  | @plain c v w hc hw ih =>
    refine (Reads.collect_cons (hplain c _ hc) (by simp) ih).mono fun a ha => ?_
    obtain ⟨c', v', rfl, rfl, rfl⟩ := ha
    rfl
  | @escape c e v w he hw ih =>
    have hlt : (w ++ l).length < ('\\' :: (e ++ (w ++ l))).length := by
      simp only [List.length_cons, List.length_append]
      omega
    rw [show '\\' :: (e ++ w) ++ l = '\\' :: (e ++ (w ++ l)) by simp]
    refine (Reads.collect_cons (hescape c e _ he) hlt ih).mono fun a ha => ?_
    obtain ⟨c', v', rfl, rfl, rfl⟩ := ha
    rfl

/-! ### Keys -/

theorem Reads.keyChar_plain {c : Char} (hc : isKeyChar c = true) :
    Reads text keyChar (c :: l) l fun o => ∃ a, o = some a ∧ a = c := by
  refine Reads.peek.bind fun o ho => ?_
  subst ho
  exact .ite_pos hc (Reads.read.map fun x hx => ⟨x, rfl, hx⟩)

theorem Reads.keyChar_escape {c : Char} {e : List Char} (h : Escapes keyEscapes c e) :
    Reads text keyChar ('\\' :: (e ++ l)) l fun o => ∃ a, o = some a ∧ a = c := by
  refine Reads.peek.bind fun o ho => ?_
  subst ho
  refine .ite_neg (by decide) (.ite_pos rfl ?_)
  refine Reads.read.bind fun _ _ => ?_
  exact (Reads.escape (by decide) h).map fun x hx => ⟨x, rfl, hx⟩

/-- A character that ends a key. -/
def endsKey (c : Char) : Bool := !isKeyChar c && c != '\\'

/-- What does not begin with a character of a key ends the key. -/
theorem Reads.keyChar_none (h : HeadNot (!endsKey ·) l) :
    Reads text Grammar.keyChar l l (· = none) := by
  refine Reads.peek.bind fun o ho => ?_
  subst ho
  cases l with
  | nil => exact .pure rfl
  | cons c l =>
    have hc := headNot_cons.mp h
    simp only [endsKey, Bool.not_eq_false', Bool.and_eq_true, Bool.not_eq_true', bne_iff_ne] at hc
    exact .ite_neg (by simp [hc.1]) (.ite_neg hc.2 (.pure rfl))

theorem Spells.ne_nil {plain : Char → Bool} {escapes v w : List Char}
    (h : Spells plain escapes v w) (hv : v ≠ []) : w ≠ [] := by
  cases h with
  | nil => exact (hv rfl).elim
  | plain => simp
  | escape => simp

/-- **A spelled key is read.** -/
theorem Reads.spelledKey {v w : List Char} (hv : v ≠ []) (hw : Spells isKeyChar keyEscapes v w)
    (h : HeadNot (!endsKey ·) l) :
    Reads text Grammar.keyString (w ++ l) l (·.toList = v) := by
  have hchars : Reads text (Rule.collect Grammar.keyChar) (w ++ l) l (· = v) :=
    Reads.collect_spelled (fun _ _ => Reads.keyChar_plain) (fun _ _ _ => Reads.keyChar_escape)
      (Reads.keyChar_none h) hw
  refine hchars.between ?_ fun p a q hne ha => .ite_neg hne (.pure ?_)
  · have := List.length_pos_iff.mpr (hw.ne_nil hv)
    rw [List.length_append]
    omega
  · rw [String.toList_ofList, ha]

theorem spells_keyText (key : String) : Spells isKeyChar keyEscapes key.toList (keyText key) := by
  refine spells_flatMap (fun c v w hw => ?_) _
  unfold keyWord
  split
  · rename_i hc
    exact .plain hc hw
  · obtain ⟨e, he, hescape⟩ := escapes_escaped keyEscapes c
    rw [he]
    exact .escape hescape hw

theorem Reads.keyString {key : String} (hkey : key ≠ "") (h : HeadNot (!endsKey ·) l) :
    Reads text keyString (keyText key ++ l) l (· = key) :=
  (Reads.spelledKey (mt String.toList_eq_nil_iff.mp hkey) (spells_keyText key) h).mono fun _ ha =>
    String.toList_inj.mp ha

/-! ### Quoted strings -/

/-- A character that a quoted string holds without an escape. -/
def isQuotedChar (c : Char) : Bool := !quotedEscapes.contains c

theorem Reads.quotedChar_plain {c : Char} (hc : isQuotedChar c = true) :
    Reads text quotedChar (c :: l) l fun o => ∃ a, o = some a ∧ a = c := by
  refine Reads.readOr.bind fun x hx => ?_
  subst hx
  simp only [isQuotedChar, quotedEscapes, List.contains_eq_mem, List.mem_cons, List.not_mem_nil,
    or_false, Bool.not_eq_true', decide_eq_false_iff_not, not_or] at hc
  exact .ite_neg hc.1 (.ite_neg hc.2 (.pure ⟨x, rfl, rfl⟩))

theorem Reads.quotedChar_escape {c : Char} {e : List Char} (h : Escapes quotedEscapes c e) :
    Reads text quotedChar ('\\' :: (e ++ l)) l fun o => ∃ a, o = some a ∧ a = c := by
  refine Reads.readOr.bind fun x hx => ?_
  subst hx
  refine .ite_neg (by decide) (.ite_pos rfl ?_)
  exact (Reads.escape (by decide) h).map fun x hx => ⟨x, rfl, hx⟩

/-- **A spelled quoted string is read**, and its position is that of the quote that opens it. -/
theorem Reads.spelledQuoted {v w : List Char} (hw : Spells isQuotedChar quotedEscapes v w) :
    Reads text quotedString ('"' :: (w ++ '"' :: l)) l fun t =>
      t.value.toList = v ∧ text.toList.drop t.position.offset = '"' :: (w ++ '"' :: l) := by
  have hend : Reads text Grammar.quotedChar ('"' :: l) l (· = none) :=
    Reads.readOr.bind fun x hx => .ite_pos hx (.pure rfl)
  have hchars : Reads text (Rule.collect Grammar.quotedChar) (w ++ '"' :: l) l (· = v) :=
    Reads.collect_spelled (fun _ _ => Reads.quotedChar_plain)
      (fun _ _ _ => Reads.quotedChar_escape) hend hw
  refine Reads.position.bind fun p hp => Reads.peek.bind fun o ho => ?_
  subst ho
  refine Reads.read.bind fun _ _ => hchars.bind fun a ha => .pure ⟨?_, hp⟩
  rw [String.toList_ofList, ha]

theorem spells_quotedWords (v : List Char) :
    Spells isQuotedChar quotedEscapes v (v.flatMap quotedWord) := by
  refine spells_flatMap (fun c v w hw => ?_) _
  unfold quotedWord
  split
  · obtain ⟨e, he, hescape⟩ := escapes_escaped quotedEscapes c
    rw [he]
    exact .escape hescape hw
  · rename_i hc
    exact .plain (by simpa [isQuotedChar] using hc) hw

theorem Reads.quotedString (t : Template) :
    Reads text quotedString (quotedText t ++ l) l fun a => a.unplaced = t.unplaced := by
  have htext : quotedText t ++ l = '"' :: (t.value.toList.flatMap quotedWord ++ '"' :: l) := by
    simp [quotedText]
  rw [htext]
  refine (Reads.spelledQuoted (spells_quotedWords _)).mono fun a ha => ?_
  unfold Template.unplaced
  rw [String.toList_inj.mp ha.1]

/-! ### Values -/

/-- A character that a value holds without an escape. -/
def isValueChar (c : Char) : Bool := !(valueEscapes.contains c || isLineBreak c)

/-- A character that does not end a value: such a one, or a backslash. -/
def goesOn (c : Char) : Bool := !(c == '#' || isLineBreak c)

theorem isValueChar_of_isBlank {c : Char} (h : isBlank c = true) : isValueChar c = true := by
  simp only [isBlank, Bool.or_eq_true, beq_iff_eq] at h
  rcases h with rfl | rfl <;> rfl

theorem Reads.valueChar_plain {c : Char} (h : isValueChar c = true) :
    Reads text valueChar (c :: l) l fun o =>
      ∃ v, o = some v ∧ v.char = c ∧ v.blank = isBlank c ∧ v.next.text = text ∧
        v.next.rest = l := by
  simp only [isValueChar, valueEscapes, List.contains_eq_mem, List.mem_cons, List.not_mem_nil,
    or_false, Bool.not_eq_true', Bool.or_eq_false_iff, decide_eq_false_iff_not, not_or] at h
  refine Reads.peek.bind fun o ho => ?_
  subst ho
  refine .ite_neg (by simp [h]) (.ite_neg h.1.1 ?_)
  exact Reads.read.bind fun _ _ => Reads.cursor.bind fun next hnext => .pure
    ⟨_, rfl, rfl, rfl, hnext.1, hnext.2⟩

theorem Reads.valueChar_escape {c : Char} {e : List Char} (h : Escapes valueEscapes c e) :
    Reads text valueChar ('\\' :: (e ++ l)) l fun o =>
      ∃ v, o = some v ∧ v.char = c ∧ v.blank = false ∧ v.next.text = text ∧ v.next.rest = l := by
  refine Reads.peek.bind fun o ho => ?_
  subst ho
  refine .ite_neg (by decide) (.ite_pos rfl ?_)
  refine Reads.read.bind fun _ _ => (Reads.escape (by decide) h).bind fun x hx => ?_
  exact Reads.cursor.bind fun next hnext => .pure ⟨_, rfl, hx, rfl, hnext.1, hnext.2⟩

theorem Reads.valueChar_none (h : HeadNot goesOn l) :
    Reads text Grammar.valueChar l l (· = none) := by
  refine Reads.peek.bind fun o ho => ?_
  subst ho
  cases l with
  | nil => exact .pure rfl
  | cons c l =>
    have hc := headNot_cons.mp h
    simp only [goesOn, Bool.not_eq_false'] at hc
    exact .ite_pos (by simpa using hc) (.pure rfl)

/-- The last of the characters `a` of a value is no blank of the text, and stands before `l`. -/
def EndsAt (text : Array Char) (l : List Char) (a : List ValueChar) : Prop :=
  ∀ v ∈ a.getLast?, v.blank = false ∧ v.next.text = text ∧ v.next.rest = l

/-- One more character in front: if it is the last one, it must be none of these blanks. -/
theorem EndsAt.cons {v : ValueChar} {a : List ValueChar} (h : EndsAt text l a)
    (hv : a = [] → v.blank = false ∧ v.next.text = text ∧ v.next.rest = l) :
    EndsAt text l (v :: a) := by
  intro u hu
  cases a with
  | nil =>
    rw [← Option.some.inj hu]
    exact hv rfl
  | cons b a => exact h u (by simpa using hu)

/-- The characters `a` of a value with the text `v` in front of `l`, and blanks behind them. -/
def EndsInBlanks (text : Array Char) (v l : List Char) (a : List ValueChar) : Prop :=
  ∃ a' bs, a = a' ++ bs ∧ (∀ x ∈ bs, x.blank = true) ∧ a'.map (·.char) = v ∧ EndsAt text l a'

theorem Reads.collect_blanks {b : List Char} (hb : ∀ c ∈ b, isBlank c = true)
    (h : HeadNot goesOn l) :
    Reads text (Rule.collect Grammar.valueChar) (b ++ l) l fun a => ∀ x ∈ a, x.blank = true := by
  induction b with
  | nil => exact (Reads.collect_nil (Reads.valueChar_none h)).mono fun a ha => by simp [ha]
  | cons c b ih =>
    have hc : isBlank c = true := hb c (List.mem_cons_self ..)
    have hplain := isValueChar_of_isBlank hc
    have hrest := ih fun x hx => hb x (List.mem_cons_of_mem _ hx)
    refine (Reads.collect_cons (Reads.valueChar_plain hplain) (by simp) hrest).mono fun a ha => ?_
    obtain ⟨v, a', rfl, ⟨-, hblank, -, -⟩, ha'⟩ := ha
    exact List.forall_mem_cons.mpr ⟨hblank.trans hc, ha'⟩

/-- No escape in a value ends with a blank. -/
theorem Escapes.last {c : Char} {e : List Char} (h : Escapes valueEscapes c e) :
    ∃ e' x, e = e' ++ [x] ∧ isBlank x = false := by
  cases h with
  | plain h =>
    refine ⟨[], c, rfl, ?_⟩
    simp only [valueEscapes, List.contains_eq_mem, List.mem_cons, List.not_mem_nil, or_false,
      decide_eq_true_eq] at h
    rcases h with rfl | rfl <;> rfl
  | backspace => exact ⟨[], 'b', rfl, rfl⟩
  | lineFeed => exact ⟨[], 'n', rfl, rfl⟩
  | carriageReturn => exact ⟨[], 'r', rfl, rfl⟩
  | tab => exact ⟨[], 't', rfl, rfl⟩
  | codePoint => exact ⟨_, '\x7d', rfl, rfl⟩

theorem HeadNot.of_reverse_append {p : Char → Bool} {u w : List Char}
    (h : HeadNot p (u ++ w).reverse) : HeadNot p w.reverse := fun c hc => h c (by
  rw [List.reverse_append, List.head?_append, hc]
  rfl)

/-- **Collecting a value** that does not end with a blank, and the blanks behind it. -/
theorem Reads.collect_value {v w b : List Char} (hw : Spells isValueChar valueEscapes v w)
    (hlast : HeadNot isBlank w.reverse) (hb : ∀ c ∈ b, isBlank c = true) (h : HeadNot goesOn l) :
    Reads text (Rule.collect Grammar.valueChar) (w ++ (b ++ l)) l
      (EndsInBlanks text v (b ++ l)) := by
  induction hw with
  | nil =>
    refine (Reads.collect_blanks hb h).mono fun a ha => ⟨[], a, rfl, ha, rfl, ?_⟩
    exact fun u hu => by cases hu
  | @plain c v w hc hw ih =>
    refine (Reads.collect_cons (Reads.valueChar_plain hc) (by simp)
      (ih (hlast.of_reverse_append (u := [c])))).mono fun a ha => ?_
    obtain ⟨x, _, rfl, ⟨hchar, hblank, htext, hrest⟩, a', bs, rfl, hbs, hchars, hend⟩ := ha
    refine ⟨x :: a', bs, rfl, hbs, by rw [List.map_cons, hchar, hchars], hend.cons ?_⟩
    rintro rfl
    cases hchars
    cases hw
    exact ⟨hblank.trans (headNot_cons.mp hlast), htext, hrest⟩
  | @escape c e v w he hw ih =>
    have hlt : (w ++ (b ++ l)).length < ('\\' :: (e ++ (w ++ (b ++ l)))).length := by
      simp only [List.length_cons, List.length_append]
      omega
    have hih := ih (hlast.of_reverse_append (u := '\\' :: e))
    rw [show '\\' :: (e ++ w) ++ (b ++ l) = '\\' :: (e ++ (w ++ (b ++ l))) by simp]
    refine (Reads.collect_cons (Reads.valueChar_escape he) hlt hih).mono fun a ha => ?_
    obtain ⟨x, _, rfl, ⟨hchar, hblank, htext, hrest⟩, a', bs, rfl, hbs, hchars, hend⟩ := ha
    refine ⟨x :: a', bs, rfl, hbs, by rw [List.map_cons, hchar, hchars], hend.cons ?_⟩
    rintro rfl
    cases hchars
    cases hw
    exact ⟨hblank, htext, hrest⟩

theorem dropTrailingBlanks_append {a bs : List ValueChar} (hbs : ∀ x ∈ bs, x.blank = true) :
    dropTrailingBlanks (a ++ bs) = dropTrailingBlanks a := by
  unfold dropTrailingBlanks
  rw [List.reverse_append, List.dropWhile_append_of_pos fun x hx => hbs x (List.mem_reverse.mp hx)]

theorem dropTrailingBlanks_of_endsAt {a : List ValueChar} (h : EndsAt text l a) :
    dropTrailingBlanks a = a := by
  unfold dropTrailingBlanks
  cases ha : a.reverse with
  | nil => rw [List.reverse_eq_nil_iff.mp ha]; rfl
  | cons v k =>
    have hlast : a.getLast? = some v := by
      rw [← List.head?_reverse, ha, List.head?_cons]
    rw [List.dropWhile_cons, if_neg (by simp [(h v hlast).1]), ← ha, List.reverse_reverse]

/-- **How a value is written**: without blanks at its edges. -/
structure WritesValue (v w : List Char) : Prop where
  spells : Spells isValueChar valueEscapes v w
  head : HeadNot isBlank w
  last : HeadNot isBlank w.reverse

/-- **A value is read**, up to the blanks in front of a comment or the end of the line. -/
theorem Reads.value {v w b : List Char} (hw : WritesValue v w) (hb : ∀ c ∈ b, isBlank c = true)
    (hhead : HeadNot isBlank (w ++ (b ++ l))) (h : HeadNot goesOn l) :
    Reads text valueString (w ++ (b ++ l)) (b ++ l) fun t => t.value.toList = v := by
  refine Reads.cursor.bind fun c hc => .ite_neg ?_ ?_
  · rw [Cursor.peek?_eq_head?, hc.2]
    cases heq : (w ++ (b ++ l)).head? with
    | none => simp
    | some x => simp [hhead x heq]
  · refine (Reads.collect_value hw.spells hw.last hb h).bind fun a ha => ?_
    obtain ⟨a', bs, rfl, hbs, hchars, hend⟩ := ha
    rw [dropTrailingBlanks_append hbs, dropTrailingBlanks_of_endsAt hend]
    have hmove : ∀ {next : Cursor}, next.text = text → next.rest = b ++ l →
        Reads text (Rule.moveTo next >>= fun _ =>
          Pure.pure (Template.mk (.ofList (a'.map (·.char))) c.position)) l (b ++ l)
          fun t => t.value.toList = v := fun htext hrest => by
      rw [← hrest]
      exact (Reads.moveTo htext).bind fun _ _ => .pure (by rw [String.toList_ofList, hchars])
    dsimp only
    cases hlast : a'.getLast? with
    | some x =>
      obtain ⟨-, htext, hrest⟩ := hend x hlast
      exact hmove htext hrest
    | none =>
      -- the value is empty: the place behind it is the one where it begins
      obtain rfl : v = [] := by
        rw [← hchars, List.getLast?_eq_none_iff.mp hlast]
        rfl
      cases hw.spells
      exact hmove hc.1 hc.2

/-! ### Values as they are printed -/

theorem spells_valueWord (edge : Bool) {c : Char} {v w : List Char}
    (hw : Spells isValueChar valueEscapes v w) :
    Spells isValueChar valueEscapes (c :: v) (valueWord edge c ++ w) := by
  unfold valueWord
  split
  · obtain ⟨e, he, hescape⟩ := escapes_escaped valueEscapes c
    rw [he]
    exact .escape hescape hw
  · rename_i hc
    simp only [Bool.or_eq_true, not_or, Bool.not_eq_true] at hc
    exact .plain (by rw [isValueChar, hc.1.1, hc.1.2]; rfl) hw

theorem spells_valueTail (k : List Char) : Spells isValueChar valueEscapes k (valueTail k) := by
  induction k with
  | nil => exact .nil
  | cons c k ih => exact spells_valueWord _ ih

theorem valueWord_last (c : Char) : HeadNot isBlank (valueWord true c).reverse := by
  unfold valueWord
  split
  · obtain ⟨e, he, hescape⟩ := escapes_escaped valueEscapes c
    obtain ⟨e', x, rfl, hx⟩ := hescape.last
    rw [he, ← List.cons_append, List.reverse_append]
    exact headNot_cons.mpr hx
  · rename_i hc
    simp only [Bool.or_eq_true, not_or, Bool.not_eq_true, Bool.true_and] at hc
    exact headNot_cons.mpr hc.2

theorem valueWord_ne_nil (edge : Bool) (c : Char) : valueWord edge c ≠ [] := by
  unfold valueWord escaped
  split <;> simp

/-- The last character of two texts is that of the second one. -/
theorem HeadNot.reverse_append {p : Char → Bool} {u w : List Char} (hw : w ≠ [])
    (h : HeadNot p w.reverse) : HeadNot p (u ++ w).reverse := fun c hc => h c (by
  rwa [List.reverse_append, List.head?_append_of_ne_nil _ (by simpa using hw)] at hc)

theorem valueTail_last (k : List Char) : HeadNot isBlank (valueTail k).reverse := by
  induction k with
  | nil => exact headNot_nil _
  | cons c k ih =>
    cases k with
    | nil =>
      rw [show valueTail [c] = valueWord true c from List.append_nil _]
      exact valueWord_last c
    | cons d k => exact .reverse_append (by simp [valueTail, valueWord_ne_nil]) ih

theorem valueWord_head (c : Char) (w : List Char) : HeadNot isBlank (valueWord true c ++ w) := by
  unfold valueWord
  split
  · exact headNot_cons.mpr rfl
  · rename_i hc
    simp only [Bool.or_eq_true, not_or, Bool.not_eq_true, Bool.true_and] at hc
    exact headNot_cons.mpr hc.2

/-- **What is printed for a value writes it.** -/
theorem writesValue_valueText (s : String) : WritesValue s.toList (valueText s) := by
  unfold valueText
  cases s.toList with
  | nil => exact ⟨.nil, headNot_nil _, headNot_nil _⟩
  | cons c k =>
    refine ⟨spells_valueWord true (spells_valueTail k), valueWord_head c _, ?_⟩
    cases k with
    | nil =>
      dsimp only
      rw [show valueWord true c ++ valueTail [] = valueWord true c from List.append_nil _]
      exact valueWord_last c
    | cons d k =>
      exact .reverse_append (by simp [valueTail, valueWord_ne_nil]) (valueTail_last _)

/-- A value does not begin with a blank of the text. -/
theorem headNot_valueText (e : LineEnding) (s : String) :
    HeadNot isBlank (valueText s ++ (e.text ++ l)) := by
  have hhead := (writesValue_valueText s).head
  cases hs : valueText s with
  | nil => exact headNot_ending rfl rfl e
  | cons c k =>
    rw [hs] at hhead
    exact headNot_cons.mpr (headNot_cons.mp hhead)

/-- **A value is read back**, up to the end of the line. -/
theorem Reads.valueString (e : LineEnding) (s : String) :
    Reads text valueString (valueText s ++ (e.text ++ l)) (e.text ++ l) fun t => t.value = s :=
  (Reads.value (b := []) (writesValue_valueText s) (by simp) (headNot_valueText e s)
    (headNot_ending rfl rfl e)).mono fun _ ht => String.toList_inj.mp ht

end HttpScript.Grammar
