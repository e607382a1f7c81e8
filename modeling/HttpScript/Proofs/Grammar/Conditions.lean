import HttpScript.Proofs.Grammar.Numbers
import Mathlib.Tactic.FinCases

/-! # Literals and predicates read back

Where the keyword of a condition begins a longer one, the grammar tries the longer one first, so
that a condition is told by its keyword alone.

* `Reads.literalRule`: the literals.
* `Reads.condition`, `Reads.predicate`: what an assert demands. -/

namespace HttpScript.Grammar

open Script Text
open Numeral (IsDigits)

variable {text : Array Char} {l : List Char}

/-! ### Literals -/

theorem Reads.boolean (b : Bool) :
    Reads text boolean ((if b then "true" else "false").toList ++ l) l (· = b) := by
  refine Reads.position.bind fun p _ => ?_
  cases b with
  | true =>
    refine (Reads.firstOf [] rfl (by simp) (Reads.literal _)).bind fun o ho => ?_
    subst ho
    exact .pure rfl
  | false =>
    refine (Reads.firstOf [true] rfl (fun b hb => ?_) (Reads.literal _)).bind fun o ho => ?_
    · rw [List.mem_singleton.mp hb]
      exact .literal (not_prefix_append (by decide) (by decide))
    · subst ho
      exact .pure rfl

theorem Rejects.boolean (h : ∀ b : Bool, ¬ (if b then "true" else "false").toList <+: l) :
    Rejects text boolean l := by
  refine Reads.position.rejects fun p _ => ?_
  refine (Reads.firstOf_none fun b _ => .literal (h b)).rejects fun o ho => ?_
  subst ho
  exact .failAt

theorem Rejects.quotedString (h : l.head? ≠ some '"') : Rejects text quotedString l := by
  refine Reads.position.rejects fun p _ => Reads.peek.rejects fun o ho => ?_
  subst ho
  split
  · rename_i heq
    exact (h heq).elim
  · exact .failAt

/-- What stands behind the words of literals other than the one that is meant. -/
theorem headNot_numeral {n : Numeral} {x : Float} (hn : n.Writes x) {p : Char → Bool}
    (hp : p '-' = false) (hd : ∀ c, c.isDigit = true → p c = false) : HeadNot p (n.text ++ l) := by
  obtain ⟨c, k, hw, hc⟩ := digits_cons hn.whole
  unfold Numeral.text
  rw [hw]
  cases n.negative with
  | true => exact headNot_cons.mpr hp
  | false => exact headNot_cons.mpr (hd c hc)

/-- A word that begins with a letter does not begin a number. -/
theorem not_prefix_numeral {n : Numeral} {x : Float} (hn : n.Writes x) {c : Char} {k : List Char}
    (hc : startsNumber c = false) : ¬ c :: k <+: n.text ++ l := by
  rintro ⟨m, hm⟩
  have hhead := headNot_numeral (l := l) hn (p := (!startsNumber ·)) (by decide) fun d hd => by
    simp [startsNumber, hd]
  rw [← hm] at hhead
  have := headNot_cons.mp hhead
  rw [hc] at this
  cases this

/-- The alternative for a literal. -/
def literalRule : Literal → Rule Literal
  | .string _ => stringLiteral
  | .number _ => numberLiteral
  | .bool _ => boolLiteral
  | .null => nullLiteral

theorem headNot_quotedText {p : Char → Bool} (hp : p '"' = false) (t : Template) :
    HeadNot p (quotedText t ++ l) := headNot_cons.mpr hp

theorem Reads.literalRule {w : Layout} {v : Literal} (hv : v.Printable w)
    (h : HeadNot isNumeralChar l) :
    Reads text (literalRule v) (w.literal v ++ l) l fun a => a.unplaced = v.unplaced := by
  cases v with
  | string t => exact (Reads.quotedString t).map fun a ha => by simp [Literal.unplaced, ha]
  | number x => exact (Reads.number hv h).map fun a ha => by simp [ha]
  | bool b => exact (Reads.boolean b).map fun a ha => by simp [ha]
  | null => exact (Reads.literal _).bind fun _ _ => .pure rfl

theorem Rejects.literalRule {w : Layout} {v : Literal} (hv : v.Printable w) {r : Rule Literal}
    (hr : r ∈ [numberLiteral, boolLiteral, stringLiteral, nullLiteral]) :
    r = literalRule v ∨ Rejects text r (w.literal v ++ l) := by
  cases v with
  | string t =>
    have hquote : ∀ w : List Char, w.head? ≠ some '"' → w ≠ [] →
        ¬ w <+: quotedText t ++ l := fun w hw hne h => by
      obtain ⟨c, k, rfl⟩ := List.exists_cons_of_ne_nil hne
      exact hw (congrArg some (List.cons_prefix_cons.mp h).1)
    fin_cases hr
    · exact .inr (.map (.number (headNot_quotedText rfl t)))
    · exact .inr (.map (.boolean fun b => hquote _ (by cases b <;> decide) (by cases b <;> decide)))
    · exact .inl rfl
    · exact .inr (.bind (.literal (hquote _ (by decide) (by decide))))
  | number x =>
    fin_cases hr
    · exact .inl rfl
    · refine .inr (.map (.boolean fun b => ?_))
      cases b <;> exact not_prefix_numeral hv (by decide)
    · refine .inr (.map (.quotedString fun h => ?_))
      have := headNot_numeral (l := l) hv (p := (!startsNumber ·)) (by decide) fun d hd => by
        simp [startsNumber, hd]
      exact absurd (this _ h) (by decide)
    · exact .inr (.bind (.literal (not_prefix_numeral hv (by decide))))
  | bool b =>
    simp only [Layout.literal]
    fin_cases hr
    · refine .inr (.map (.number ?_))
      cases b <;> exact headNot_cons.mpr rfl
    · exact .inl rfl
    · refine .inr (.map (.quotedString ?_))
      cases b <;> exact fun h => absurd (Option.some.inj h) (by decide)
    · refine .inr (.bind (.literal ?_))
      cases b <;> exact not_prefix_append (by decide) (by decide)
  | null =>
    simp only [Layout.literal]
    fin_cases hr
    · exact .inr (.map (.number (headNot_cons.mpr rfl)))
    · refine .inr (.map (.boolean fun b => ?_))
      cases b <;> exact not_prefix_append (by decide) (by decide)
    · exact .inr (.map (.quotedString fun h => absurd (Option.some.inj h) (by decide)))
    · exact .inl rfl

theorem Reads.equalsVariable {name : String} (hne : name ≠ "")
    (hname : ∀ c ∈ name.toList, isNameChar c = true) :
    Reads text equalsVariable
      ("\x7b\x7b".toList ++ name.toList ++ "\x7d\x7d".toList ++ l) l fun a =>
      a.unplaced = .equalsVariable name .start := by
  have hplaceholder : Reads text placeholder
      ("\x7b\x7b".toList ++ (name.toList ++ ("\x7d\x7d".toList ++ l))) l fun a => a.1 = name := by
    refine Reads.position.bind fun p _ => (Reads.literal _).bind fun _ _ => ?_
    refine Reads.position.bind fun q _ => ?_
    refine (Reads.readWhile_append hname (headNot_cons.mpr rfl)).bind fun a ha => ?_
    subst ha
    refine .ite_neg (by simpa using hne) ?_
    exact (Reads.literal _).bind fun _ _ => .pure String.ofList_toList
  rw [List.append_assoc, List.append_assoc]
  refine hplaceholder.bind fun a ha => .pure ?_
  simp [Condition.unplaced, ha]

/-! ### Conditions -/

/-- The alternative for a condition. -/
def conditionRule : Condition → Rule Condition
  | .equals _ | .equalsVariable _ _ => equalsCondition
  | .ordered o _ => orderedCondition o
  | .startsWith _ => quotedCondition .startsWith
  | .contains _ => quotedCondition .contains
  | .includes _ => includesCondition
  | .like _ => quotedCondition .like
  | .countEquals _ => countCondition
  | .present => presentCondition

theorem Reads.keyword (name : String) (h : HeadNot isBlank l) :
    Reads text (keyword name) (name.toList ++ ' ' :: l) l fun _ => True :=
  (Reads.literal _).bind fun _ _ => Reads.blanks (w := [' ']) (List.all_eq_true.mp rfl) h

theorem headNot_literal {w : Layout} {v : Literal} (hv : v.Printable w) {p : Char → Bool}
    (hp : ∀ c ∈ ['"', '-', 't', 'f', 'n'], p c = false) (hd : ∀ c, c.isDigit = true → p c = false) :
    HeadNot p (w.literal v ++ l) := by
  cases v with
  | string t => exact headNot_quotedText (hp _ (by simp)) t
  | number x => exact headNot_numeral hv (hp _ (by simp)) hd
  | bool b =>
    cases b
    · exact headNot_cons.mpr (hp 'f' (by simp))
    · exact headNot_cons.mpr (hp 't' (by simp))
  | null => exact headNot_cons.mpr (hp 'n' (by simp))

theorem Rejects.equalsVariable {w : Layout} {v : Literal} (hv : v.Printable w) :
    Rejects text equalsVariable (w.literal v ++ l) := by
  refine .bind (Reads.position.rejects fun p _ => .bind (.literal fun h => ?_))
  obtain ⟨k, hk⟩ := h
  have hhead := headNot_literal (l := l) hv (p := (· == '\x7b')) (by simp) fun c hc => by
    simpa using not_mem_of_any_eq_false (w := ['\x7b']) rfl hc
  rw [← hk] at hhead
  exact absurd (headNot_cons.mp hhead) (by decide)

theorem Reads.equalsCondition {w : Layout} {v : Literal} (hv : v.Printable w)
    (h : HeadNot isNumeralChar l) :
    Reads text equalsCondition ("equals".toList ++ ' ' :: (w.literal v ++ l)) l fun a =>
      a.unplaced = .equals v.unplaced := by
  have hother : ∀ r ∈ [numberLiteral, boolLiteral, stringLiteral, nullLiteral],
      Condition.equals <$> r = Condition.equals <$> Grammar.literalRule v ∨
        Rejects text (Condition.equals <$> r) (w.literal v ++ l) := fun r hr =>
    (Rejects.literalRule hv hr).imp (congrArg (Condition.equals <$> ·)) .map
  refine (Reads.keyword _ (headNot_literal hv (by simp [isBlank]) fun c => isBlank_eq_false rfl)).bind
    fun _ _ => ?_
  refine Reads.choice_of_mem (r := .equals <$> Grammar.literalRule v) ?_ (fun r hr => ?_) ?_
  · cases v <;> simp [Grammar.literalRule]
  · fin_cases hr
    · exact hother _ (by simp)
    · exact hother _ (by simp)
    · exact hother _ (by simp)
    · exact hother _ (by simp)
    · exact .inr (.equalsVariable hv)
  · exact (Reads.literalRule hv h).map fun a ha => by simp [Condition.unplaced, ha]

theorem Reads.equalsVariableCondition {name : String} (hne : name ≠ "")
    (hname : ∀ c ∈ name.toList, isNameChar c = true) :
    Reads text Grammar.equalsCondition ("equals".toList ++ ' ' ::
      ("\x7b\x7b".toList ++ name.toList ++ "\x7d\x7d".toList ++ l)) l fun a =>
      a.unplaced = .equalsVariable name .start := by
  have hblank : HeadNot isBlank ("\x7b\x7b".toList ++ name.toList ++ "\x7d\x7d".toList ++ l) :=
    headNot_cons.mpr rfl
  refine (Reads.keyword _ hblank).bind fun _ _ => ?_
  refine Reads.choice_of_mem (r := Grammar.equalsVariable) (by simp) (fun r hr => ?_)
    (Reads.equalsVariable hne hname)
  fin_cases hr
  · exact .inr (.map (.map (.number (headNot_cons.mpr rfl))))
  · refine .inr (.map (.map (.boolean fun b => ?_)))
    cases b <;> exact fun h => absurd (List.cons_prefix_cons.mp h).1 (by decide)
  · exact .inr (.map (.map (.quotedString fun h => absurd (Option.some.inj h) (by decide))))
  · exact .inr (.map (.bind (.literal fun h => absurd (List.cons_prefix_cons.mp h).1 (by decide))))
  · exact .inl rfl

theorem Reads.conditionRule {w : Layout} {c : Condition} (hc : c.Printable w)
    (h : HeadNot isNumeralChar l) :
    Reads text (conditionRule c) (c.name.toList ++ (w.operand c ++ l)) l fun a =>
      a.unplaced = c.unplaced := by
  have hquoted : ∀ (make : Template → Condition) (t : Template),
      (∀ t, (make t).unplaced = make t.unplaced) → Reads text (quotedCondition make)
        ((make default).name.toList ++ ' ' :: (quotedText t ++ l)) l fun a =>
        a.unplaced = (make t).unplaced := fun make t hmake => by
    refine (Reads.keyword _ (headNot_quotedText rfl t)).bind fun _ _ => ?_
    exact (Reads.quotedString t).bind fun a ha => .pure (by rw [hmake, hmake, ha])
  cases c with
  | startsWith t => exact hquoted .startsWith t fun _ => rfl
  | contains t => exact hquoted .contains t fun _ => rfl
  | like t => exact hquoted .like t fun _ => rfl
  | equals v => exact Reads.equalsCondition hc h
  | equalsVariable name p => exact Reads.equalsVariableCondition hc.1 hc.2
  | includes v =>
    have hblank : HeadNot isBlank (w.literal v ++ l) :=
      headNot_literal hc (by simp [isBlank]) fun c => isBlank_eq_false rfl
    refine (Reads.keyword _ hblank).bind fun _ _ => ?_
    refine Reads.map (Q := fun a => a.unplaced = v.unplaced) ?_ fun a ha => by
      simp [Condition.unplaced, ha]
    refine Reads.choice_of_mem (r := Grammar.literalRule v) ?_ (fun r hr => ?_)
      (Reads.literalRule hc h)
    · cases v <;> simp [Grammar.literalRule]
    · exact Rejects.literalRule hc (by simp only [List.mem_cons] at hr ⊢; tauto)
  | ordered o x =>
    refine (Reads.keyword _ (headNot_numeral hc rfl fun c => isBlank_eq_false rfl)).bind fun _ _ => ?_
    exact (Reads.number hc h).bind fun a ha => .pure (by rw [ha])
  | countEquals n =>
    have hdigits := isDigits_toDigits n
    have hblank : HeadNot isBlank (Nat.toDigits 10 n ++ l) := by
      obtain ⟨c, k, hk, hdigit⟩ := digits_cons hdigits
      rw [hk]
      exact headNot_cons.mpr (isBlank_eq_false rfl hdigit)
    refine (Reads.keyword _ hblank).bind fun _ _ => Reads.position.bind fun p _ => ?_
    have hlt : n < Nat.pow 2 63 := hc
    have hinteger : Reads text Grammar.integer (Nat.toDigits 10 n ++ l) l (· = n) := by
      refine Reads.integer false hdigits h.isDigit ?_ (by omega)
      rw [natOfDigits_toDigits]
      rfl
    refine hinteger.bind fun a ha => ?_
    · subst ha
      exact .ite_neg (by omega) (.pure rfl)
  | present => exact (Reads.literal _).bind fun _ _ => .pure rfl

/-- The words that conditions begin with, in the order of the alternatives. -/
def conditionNames : List String :=
  ["equals", "greaterThanOrEquals", "greaterThan", "lessThanOrEquals", "lessThan", "countEquals",
    "startsWith", "contains", "includes", "matches", "exists"]

/-- The alternatives for conditions. -/
def conditionRules : List (Rule Condition) :=
  [equalsCondition, orderedCondition .greaterOrEqual, orderedCondition .greater,
    orderedCondition .lessOrEqual, orderedCondition .less, countCondition,
    quotedCondition .startsWith, quotedCondition .contains, includesCondition,
    quotedCondition .like, presentCondition]

theorem opens_conditions : List.Forall₂ (Opens text l l) conditionRules conditionNames := by
  have hkeyword : ∀ {name : String} {f : Unit → Rule Condition},
      Opens text l l (Grammar.keyword name >>= f) name := fun h => .bind (.bind (.literal h))
  refine .cons hkeyword (.cons hkeyword (.cons hkeyword (.cons hkeyword (.cons hkeyword ?_))))
  refine .cons hkeyword (.cons hkeyword (.cons hkeyword (.cons hkeyword (.cons hkeyword ?_))))
  exact .cons (fun h => .bind (.literal h)) .nil

/-- **A condition is read back.** -/
theorem Reads.condition {w : Layout} {c : Condition} (hc : c.Printable w)
    (h : HeadNot isNumeralChar l) :
    Reads text condition (c.name.toList ++ (w.operand c ++ l)) l fun a =>
      a.unplaced = c.unplaced := by
  have hread : Reads text _ _ _ _ := Reads.conditionRule hc h
  have hpick : ∀ (i : Nat) (key : List Char), conditionRules[i]? = some (Grammar.conditionRule c) →
      TellsApart key (conditionNames.take i) → key <+: c.name.toList ++ (w.operand c ++ l) →
      Reads text Grammar.condition (c.name.toList ++ (w.operand c ++ l)) l fun a =>
        a.unplaced = c.unplaced := by
    rintro i key hi hkey ⟨k, hk⟩
    refine Reads.choice_opens opens_conditions i hi ?_ hread
    rw [← hk]
    exact not_prefix_of_tellsApart key hkey
  -- a blank ends the shorter one of two keywords that begin alike
  have hgreater : TellsApart ("greaterThan".toList ++ [' ']) (conditionNames.take 2) := by decide
  have hless : TellsApart ("lessThan".toList ++ [' ']) (conditionNames.take 4) := by decide
  cases c with
  | equals v => exact hpick 0 [] rfl (by decide) List.nil_prefix
  | equalsVariable name p => exact hpick 0 [] rfl (by decide) List.nil_prefix
  | ordered o x =>
    cases o with
    | greaterOrEqual => exact hpick 1 "greaterThanOrEquals".toList rfl (by decide) ⟨_, rfl⟩
    | greater => exact hpick 2 _ rfl hgreater ⟨_, List.append_assoc _ [' '] _⟩
    | lessOrEqual => exact hpick 3 "lessThanOrEquals".toList rfl (by decide) ⟨_, rfl⟩
    | less => exact hpick 4 _ rfl hless ⟨_, List.append_assoc _ [' '] _⟩
  | countEquals n => exact hpick 5 "countEquals".toList rfl (by decide) ⟨_, rfl⟩
  | startsWith t => exact hpick 6 "startsWith".toList rfl (by decide) ⟨_, rfl⟩
  | contains t => exact hpick 7 "contains".toList rfl (by decide) ⟨_, rfl⟩
  | includes v => exact hpick 8 "includes".toList rfl (by decide) ⟨_, rfl⟩
  | like t => exact hpick 9 "matches".toList rfl (by decide) ⟨_, rfl⟩
  | present => exact hpick 10 "exists".toList rfl (by decide) ⟨_, rfl⟩

/-- The words that predicates begin with. -/
def predicateNames : List String := "not" :: conditionNames

theorem name_mem_conditionNames (c : Condition) : c.name ∈ conditionNames := by
  cases c with
  | ordered o x => cases o <;> simp [Condition.name, Ordering.name, conditionNames]
  | _ => simp [Condition.name, conditionNames]

theorem predicate_names (w : Layout) (p : Predicate) :
    ∃ name ∈ predicateNames, ∃ k, w.predicate p = name.toList ++ k := by
  unfold Layout.predicate
  cases p.negated with
  | true => exact ⟨"not", by simp [predicateNames], _, by simp; rfl⟩
  | false =>
    exact ⟨p.condition.name, List.mem_cons_of_mem _ (name_mem_conditionNames _), _, by simp; rfl⟩

/-- No keyword of a condition can be taken for the word that negates one. -/
theorem tellsApart_not : ∀ name ∈ conditionNames, TellsApart name.toList ["not"] := by
  decide

theorem Reads.predicate {w : Layout} {p : Predicate} (hp : p.condition.Printable w)
    (h : HeadNot isNumeralChar l) :
    Reads text predicate (w.predicate p ++ l) l fun a => a.unplaced = p.unplaced := by
  obtain ⟨negated, c, place⟩ := p
  have hname := name_mem_conditionNames c
  have hnegation : Reads text (Rule.optional negation) (w.predicate ⟨negated, c, place⟩ ++ l)
      (c.name.toList ++ (w.operand c ++ l)) fun o => o.isSome = negated := by
    cases negated with
    | true =>
      have hblank : HeadNot isBlank (c.name.toList ++ (w.operand c ++ l)) :=
        headNot_name (by decide) hname
      have hnot : Reads text Grammar.negation ("not".toList ++ ' ' :: (c.name.toList ++
          (w.operand c ++ l))) (c.name.toList ++ (w.operand c ++ l)) fun _ => True :=
        (Reads.literal _).bind fun _ _ => Reads.someBlanks hblank
      rw [show w.predicate ⟨true, c, place⟩ ++ l = "not".toList ++ ' ' :: (c.name.toList ++
          (w.operand c ++ l)) by simp [Layout.predicate]]
      refine hnot.optional.mono fun o ho => ?_
      obtain ⟨a, rfl, -⟩ := ho
      rfl
    | false =>
      have hreject : Rejects text Grammar.negation (c.name.toList ++ (w.operand c ++ l)) :=
        .bind (.literal (not_prefix_of_tellsApart _ (tellsApart_not _ hname) _
          (by simp)))
      rw [show w.predicate ⟨false, c, place⟩ ++ l = c.name.toList ++ (w.operand c ++ l) by
        simp [Layout.predicate]]
      exact (Reads.optional_none hreject).mono fun o ho => by rw [ho]; rfl
  refine Reads.position.bind fun q _ => hnegation.bind fun o ho => ?_
  refine (Reads.condition hp h).bind fun a ha => .pure ?_
  simp [Predicate.unplaced, ho, ha]

end HttpScript.Grammar
