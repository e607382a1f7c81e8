import HttpScript.Grammar.Response
import HttpScript.Proofs.Grammar.Strings
import Mathlib.Data.List.Forall2

/-! # Keywords and numbers read back

The alternatives of a choice are told apart by their keywords: none of those that are tried before
the right one begins the text.

* `TellsApart`, `Reads.choice_opens`: the alternative of a keyword.
* `Reads.integer`, `Reads.number`: numbers, in front of what cannot go on with them. -/

namespace HttpScript.Grammar

open Script Text

variable {text : Array Char} {l : List Char}

/-- Two texts of which none begins the other stay different whatever follows. -/
theorem not_prefix_append {w k : List Char} (h : ¬ w <+: k) (h' : ¬ k <+: w) : ¬ w <+: k ++ l :=
  fun hw => (List.prefix_or_prefix_of_prefix hw (List.prefix_append k l)).elim h h'

/-! ### Alternatives with keywords -/

/-- A rule that rejects `l` unless a fixed text stands at `k`, the place where it looks for it. -/
def Opens {α : Type} (text : Array Char) (l k : List Char) (r : Rule α) (name : String) : Prop :=
  ¬ name.toList <+: k → Rejects text r l

/-- Whether none of some words begins with the text `key`, or the other way round. -/
def TellsApart (key : List Char) (names : List String) : Prop :=
  ∀ name ∈ names, ¬ name.toList <+: key ∧ ¬ key <+: name.toList

instance (key : List Char) (names : List String) : Decidable (TellsApart key names) :=
  inferInstanceAs (Decidable (∀ name ∈ names, ¬ name.toList <+: key ∧ ¬ key <+: name.toList))

theorem not_prefix_of_tellsApart (key : List Char) {names : List String}
    (h : TellsApart key names) : ∀ name ∈ names, ¬ name.toList <+: key ++ l := fun name hname =>
  not_prefix_append (h name hname).1 (h name hname).2

theorem headNot_name {p : Char → Bool} {names : List String} {name : String}
    (hp : ∀ name ∈ names, name.toList.head?.map p = some false) (h : name ∈ names) :
    HeadNot p (name.toList ++ l) := by
  obtain ⟨c, hc, hpc⟩ := Option.map_eq_some_iff.mp (hp name h)
  obtain ⟨k, hk⟩ := List.head?_eq_some_iff.mp hc
  rw [hk]
  exact headNot_cons.mpr hpc

section

variable {α : Type} {rules : List (Rule α)} {names : List String} {k : List Char}

/-- Where none of their words stands, all alternatives reject. -/
theorem rejects_of_opens (hopens : List.Forall₂ (Opens text l k) rules names)
    (hnames : ∀ name ∈ names, ¬ name.toList <+: k) : ∀ r ∈ rules, Rejects text r l := by
  induction hopens with
  | nil => simp
  | cons hopen _ ih =>
    intro r hr
    rcases List.mem_cons.mp hr with rfl | hr
    · exact hopen (hnames _ (by simp))
    · exact ih (fun name hname => hnames name (by simp [hname])) r hr

/-- **The alternative number `i`**, where none of the words before stands. -/
theorem Reads.choice_opens {r : Rule α} {l' : List Char} {Q : α → Prop}
    (hopens : List.Forall₂ (Opens text l k) rules names) (i : Nat) (hr : rules[i]? = some r)
    (hnames : ∀ name ∈ names.take i, ¬ name.toList <+: k) (h : Reads text r l l' Q) :
    Reads text (Rule.choice rules) l l' Q := by
  obtain ⟨hi, hget⟩ := List.getElem?_eq_some_iff.mp hr
  have hrules : rules = rules.take i ++ r :: rules.drop (i + 1) := by
    rw [← hget, List.getElem_cons_drop, List.take_append_drop]
  exact Reads.choice (rules.take i) hrules (rejects_of_opens (List.forall₂_take i hopens) hnames) h

end

/-! ### Numbers -/

open Numeral (IsDigits)

/-- What a number can go on with. -/
def isNumeralChar (c : Char) : Bool := c.isDigit || c == '.'

theorem HeadNot.isDigit (h : HeadNot isNumeralChar l) : HeadNot Char.isDigit l :=
  h.mono fun c hc => by simp [isNumeralChar, hc]

theorem Reads.digits {w : List Char} (hw : IsDigits w) (h : HeadNot Char.isDigit l) :
    Reads text digits (w ++ l) l (· = w) := by
  refine (Reads.readWhile_append hw.2 h).bind fun a ha => ?_
  subst ha
  exact .ite_neg (by simp [hw.1]) (.pure rfl)

theorem Rejects.digits (h : HeadNot Char.isDigit l) : Rejects text digits l :=
  (Reads.readWhile_append (w := []) (by simp) h).rejects fun a ha => by
    subst ha
    exact .ite_pos rfl (.bind .failHere)

theorem digits_cons {w : List Char} (hw : IsDigits w) :
    ∃ c k, w = c :: k ∧ c.isDigit = true := by
  obtain ⟨c, k, rfl⟩ := List.exists_cons_of_ne_nil hw.1
  exact ⟨c, k, rfl, hw.2 c (by simp)⟩

theorem Reads.sign (negative : Bool) {w : List Char} (hw : IsDigits w) :
    Reads text sign ((if negative then ['-'] else []) ++ (w ++ l)) (w ++ l) (· = negative) := by
  refine Reads.peek.bind fun o ho => ?_
  subst ho
  cases negative with
  | true => exact Reads.read.bind fun _ _ => .pure rfl
  | false =>
    obtain ⟨c, k, rfl, hc⟩ := digits_cons hw
    have hminus : c ≠ '-' := by rintro rfl; exact absurd hc (by decide)
    have hplus : c ≠ '+' := by rintro rfl; exact absurd hc (by decide)
    simp only [Bool.false_eq_true, if_false, List.nil_append, List.cons_append, List.head?_cons]
    split
    · rename_i heq
      exact (hminus (Option.some.inj heq)).elim
    · rename_i heq
      exact (hplus (Option.some.inj heq)).elim
    · exact .pure rfl

theorem Reads.integer (negative : Bool) {w : List Char} (hw : IsDigits w)
    (h : HeadNot Char.isDigit l) {n : Int}
    (hn : n = if negative then -(Decimal.natOfDigits w : Int) else Decimal.natOfDigits w)
    (hfits : -Nat.pow 2 63 ≤ n ∧ n < Nat.pow 2 63) :
    Reads text integer ((if negative then ['-'] else []) ++ (w ++ l)) l (· = n) := by
  refine Reads.position.bind fun p _ => (Reads.sign negative hw).bind fun a ha => ?_
  subst ha
  refine (Reads.digits hw h).bind fun a ha => ?_
  subst ha
  simp only [← hn]
  exact .ite_neg (by omega) (.pure rfl)

theorem Reads.decimal {negative : Bool} {w k : List Char} (hw : IsDigits w) (hk : IsDigits k)
    (h : HeadNot Char.isDigit l) :
    Reads text decimal ((if negative then ['-'] else []) ++ (w ++ ('.' :: (k ++ l)))) l
      (· = Decimal.ofParts negative w k 0) := by
  refine (Reads.sign negative hw).bind fun a ha => ?_
  subst ha
  refine (Reads.digits hw (headNot_cons.mpr rfl)).bind fun a ha => ?_
  subst ha
  refine Reads.peek.bind fun o ho => ?_
  subst ho
  refine Reads.read.bind fun _ _ => (Reads.digits hk h).bind fun a ha => ?_
  subst ha
  exact .pure rfl

theorem Rejects.decimal {negative : Bool} {w : List Char} (hw : IsDigits w)
    (h : HeadNot isNumeralChar l) :
    Rejects text decimal ((if negative then ['-'] else []) ++ (w ++ l)) := by
  refine (Reads.sign negative hw).rejects fun a ha => ?_
  refine (Reads.digits hw h.isDigit).rejects fun a ha => Reads.peek.rejects fun o ho => ?_
  subst ho
  split
  · rename_i heq
    have := h '.' heq
    cases this
  · exact .failHere

/-- **A number is read back**, given the numeral that is written for it. -/
theorem Reads.number {n : Numeral} {x : Float} (hn : n.Writes x) (h : HeadNot isNumeralChar l) :
    Reads text number (n.text ++ l) l (· = x) := by
  have hvalue := hn.value_eq
  have hfraction := hn.fraction
  have hfits := hn.fits
  unfold Numeral.value at hvalue
  unfold Numeral.text
  cases hf : n.fraction with
  | none =>
    rw [hf] at hvalue
    simp only at hvalue
    rw [Option.elim_none, List.append_nil, List.append_assoc]
    refine Reads.choice [Grammar.decimal] rfl (fun r hr => ?_) ?_
    · rw [List.mem_singleton.mp hr]
      exact Rejects.decimal hn.whole h
    · exact (Reads.integer _ hn.whole h.isDigit rfl (hfits hf)).map fun a ha => by
        rw [ha, ← hvalue]
        rfl
  | some k =>
    rw [hf] at hvalue
    simp only at hvalue
    rw [Option.elim_some, List.append_assoc, List.append_assoc]
    refine Reads.choice [] rfl (by simp) ?_
    exact (Reads.decimal hn.whole (hfraction k hf) h.isDigit).mono fun a ha => ha.trans hvalue

/-- A number begins with a digit or a sign. -/
def startsNumber (c : Char) : Bool := c.isDigit || c == '-' || c == '+'

theorem Rejects.number (h : HeadNot startsNumber l) : Rejects text number l := by
  have hsign : ∀ {β : Type} {f : Bool → Rule β}, Rejects text (f false) l →
      Rejects text (Grammar.sign >>= f) l := by
    intro β f hf
    have hnone : Reads text Grammar.sign l l (· = false) := by
      refine Reads.peek.bind fun o ho => ?_
      subst ho
      split
      · rename_i heq
        cases h _ heq
      · rename_i heq
        cases h _ heq
      · exact .pure rfl
    refine hnone.rejects fun a ha => ?_
    rw [ha]
    exact hf
  have hdigit : HeadNot Char.isDigit l := fun c hc => by
    have := h c hc
    simp only [startsNumber, Bool.or_eq_false_iff] at this
    exact this.1.1
  refine .choice fun r hr => ?_
  rcases List.mem_pair.mp hr with rfl | rfl
  · exact hsign (.bind (.digits hdigit))
  · exact .map (Reads.position.rejects fun _ _ => hsign (.bind (.digits hdigit)))

theorem isDigits_toDigits (n : Nat) : IsDigits (Nat.toDigits 10 n) :=
  ⟨Nat.toDigits_ne_nil, fun _ => Nat.isDigit_of_mem_toDigits (by omega) (by omega)⟩

theorem natOfDigits_toDigits (n : Nat) : Decimal.natOfDigits (Nat.toDigits 10 n) = n := by
  have h := Nat.ofDigitChars_ten_toDigits (n := n)
  rwa [Nat.ofDigitChars_eq_foldl] at h

end HttpScript.Grammar
