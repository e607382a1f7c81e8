import HttpScript.Proofs.Pattern.Classes

/-! # Patterns put in parentheses

To match a whole text a pattern is put in parentheses, and these between the assertions of both
ends, by its text. What is read then is the pattern between the assertions, unless a comment is
open at the end of the pattern: it hides the parenthesis, and the group around the pattern is never
closed.

* `prolongs_readNode`: patterns with a closing text behind them.
* `Dialect.LeavesComment`: a comment is open at the end of a pattern.
* `Dialect.read?_wholeText`: what is read of a pattern that has to match a whole text. -/

namespace HttpScript.Pattern

open Text

/-! ### Groups -/

theorem prolongs_readFlags {n : Nat} {m : List Char → Nat} (hm : ∀ k, Closing k → n ≤ m k)
    (seen : List Char) (f : Flags) :
    Prolongs (readFlags n seen f) fun k => readFlags (m k) seen f := by
  induction n generalizing m seen f with
  | zero => exact .refuse
  | succ n ih =>
    have hn : ∀ k, Closing k → n ≤ m k - 1 := fun k hk => Nat.le_sub_one_of_lt (hm k hk)
    refine Prolongs.step (r := fun n => readFlags n seen f) hm ?_
    refine Prolongs.next.bind fun c => .ite (fun _ => ?_) fun _ => ?_
    · refine .ite (fun _ => .refuse_bind) fun _ => ?_
      exact .ite (fun _ => .refuse_bind) fun _ => .pure
    · refine .ite (fun _ => .refuse) fun _ => .ite (fun _ => ih hn _ _) fun _ => ?_
      split
      · exact ih hn _ _
      · exact .refuse

theorem prolongs_readGroupName : Prolongs (readGroupName D) fun _ => readGroupName D := by
  refine Prolongs.rest (fun l => ?_) .refuse_bind
  by_cases hlength : (l.takeWhile (· != '>')).length = l.length
  · simp only [hlength, or_true, if_true]
    exact .refuse_bind
  · have hname : ∀ k, (l ++ k).takeWhile (· != '>') = l.takeWhile (· != '>') := fun k => by
      rw [List.takeWhile_append, if_neg hlength]
    have hshort : (l.takeWhile (· != '>')).length + 1 ≤ l.length :=
      lt_of_le_of_ne (List.takeWhile_prefix _).length_le hlength
    have hdrop : ∀ k, (l ++ k).drop ((l.takeWhile (· != '>')).length + 1)
        = l.drop ((l.takeWhile (· != '>')).length + 1) ++ k := fun k =>
      List.drop_append_of_le_length hshort
    simp only [hname, hdrop]
    refine .ite_iff (fun k hk => ?_) (fun _ => .refuse_bind) fun _ => ?_
    · rw [List.length_append]
      refine or_congr_right ⟨fun h => ?_, fun h => absurd h hlength⟩
      omega
    · refine .ite (fun _ => .refuse_bind) fun _ => ?_
      intro s hidden hs a t h
      have hnames : ∀ k, (s.append hidden k).names = s.names := fun k => by cases hidden <;> rfl
      by_cases hused : s.names.contains (String.ofList (l.takeWhile (· != '>'))) = true
      · change (if _ then _ else _ : Reader Unit) s = _ at h
        rw [if_pos hused] at h
        cases h
      · change (if _ then _ else _ : Reader Unit) s = _ at h
        rw [if_neg hused] at h
        cases h
        refine ⟨false, by simp, fun k hk => ?_⟩
        change (if (s.append hidden k).names.contains _ = true then _ else _ : Reader Unit) _ = _
        rw [hnames, if_neg hused]
        cases hidden <;> rfl

theorem prolongs_readOpening : Prolongs (readOpening D) fun _ => readOpening D := by
  refine prolongs_skip.bind fun _ => Prolongs.rest (fun l => ?_) .countGroup
  have hnamed : ∀ l, Prolongs (goTo l >>= fun _ => readGroupName D >>= fun _ => countGroup)
      fun k => goTo (l ++ k) >>= fun _ => readGroupName D >>= fun _ => countGroup := fun l =>
    (Prolongs.goTo l).bind fun _ => prolongs_readGroupName.bind fun _ => .countGroup
  have hflags : ∀ l, Prolongs (do
      goTo l
      let x ← readFlags (l.length + 1) [] (← flags)
      return if x.2 = ')' then Opening.flags x.1 else .plain x.1) fun k => (do
      goTo (l ++ k)
      let x ← readFlags ((l ++ k).length + 1) [] (← flags)
      return if x.2 = ')' then Opening.flags x.1 else .plain x.1) := fun l => by
    refine (Prolongs.goTo l).bind fun _ => Prolongs.flags.bind fun f => ?_
    refine (prolongs_readFlags (m := fun k => (l ++ k).length + 1) (fun k _ => ?_) _ _).bind
      fun x => .pure
    simp
  split
  case h_1 | h_2 | h_3 | h_4 => exact .refuse
  case h_5 l => exact hnamed l
  case h_6 l heq hne =>
    refine (hnamed l).congr fun k hk => ?_
    have heq' : ∀ r, l ++ k = '=' :: r → False := hk.not_prefix ['='] (by decide) heq
    have hne' : ∀ r, l ++ k = '!' :: r → False := hk.not_prefix ['!'] (by decide) hne
    simp only [List.cons_append]
  case h_7 l heq hne hbehind hbehind' hname hangle =>
    refine (hflags l).congr fun k hk => ?_
    have heq' : ∀ r, l ++ k = '=' :: r → False := hk.not_prefix ['='] (by decide) heq
    have hne' : ∀ r, l ++ k = '!' :: r → False := hk.not_prefix ['!'] (by decide) hne
    have hangle' : ∀ r, l ++ k = '<' :: r → False := hk.not_prefix ['<'] (by decide) hangle
    have hname' : ∀ r, l ++ k = 'P' :: '<' :: r → False :=
      hk.not_prefix ['P', '<'] (by decide) hname
    have := fun r => hangle' ('=' :: r)
    have := fun r => hangle' ('!' :: r)
    simp only [List.cons_append]
  case h_8 hno =>
    refine Prolongs.countGroup.congr fun k hk => ?_
    have hno' : ∀ r, l ++ k = '?' :: r → False := hk.not_prefix ['?'] (by decide) hno
    split
    case h_8 => rfl
    all_goals
      rename_i h
      exact (hno' _ h).elim

/-! ### Nodes -/

theorem prolongs_atomNode (f : Flags) (x : Atom) :
    Prolongs (atomNode D f x) fun _ => atomNode D f x := by
  cases x with
  | set s => exact .pure
  | look l => exact .pure
  | char c b =>
    refine .ite (fun _ => ?_) fun _ => .pure
    refine .ite (fun _ => .refuse_bind) fun _ => ?_
    exact .ite (fun _ => .refuse_bind) fun _ => .pure

variable {D : Dialect}

theorem prolongs_readPrimitive : Prolongs (readPrimitive D) fun _ => readPrimitive D := by
  refine Prolongs.flags.bind fun f => Prolongs.next.bind fun c => ?_
  split
  · exact prolongs_readEscape.bind fun x => prolongs_atomNode f x
  · exact (prolongs_permitted _).bind fun _ => .pure
  · exact .pure
  · exact .pure
  · exact prolongs_atomNode f _

theorem prolongs_readGreed : Prolongs readGreed fun _ => readGreed :=
  (Prolongs.accept (by decide)).bind fun _ => Prolongs.flags.bind fun _ => .pure

theorem prolongs_readRange : Prolongs readRange fun _ => readRange := by
  refine prolongs_skip.bind fun _ => prolongs_readCount.bind fun least => ?_
  refine (Prolongs.accept (by decide)).bind fun comma => .ite (fun _ => ?_) fun _ => ?_
  · refine prolongs_skip.bind fun _ => (Prolongs.accept (by decide)).bind fun brace => ?_
    refine .ite (fun _ => .pure) fun _ => prolongs_readCount.bind fun most => ?_
    exact (Prolongs.expect _).bind fun _ => .ite (fun _ => .refuse_bind) fun _ => .pure
  · exact (Prolongs.expect _).bind fun _ => .pure

theorem prolongs_repeatLast (least : Nat) (most : Option Nat) (greedy : Bool)
    (items : List (Option Node)) : Prolongs (repeatLast least most greedy items) fun _ =>
      repeatLast least most greedy items := by
  unfold repeatLast
  split
  · exact .pure
  · exact .refuse

/-- **A pattern is read in the same way with a closing text behind**, also with more steps. -/
theorem prolongs_readNode {n : Nat} {m : List Char → Nat} (hm : ∀ k, Closing k → n ≤ m k)
    (done : List Node) (items : List (Option Node)) :
    Prolongs (readNode D n done items) fun k => readNode D (m k) done items := by
  induction n generalizing m done items with
  | zero => exact .refuse
  | succ n ih =>
    have hn : ∀ k, Closing k → n ≤ m k - 1 := fun k hk => Nat.le_sub_one_of_lt (hm k hk)
    refine Prolongs.step (r := fun n => readNode D n done items) hm ?_
    refine prolongs_skip.bind fun _ => ?_
    refine Prolongs.rest (fun l => ?_) .pure
    rcases l with _ | ⟨c, l⟩
    · exact (Prolongs.pure (a := alternativesOf done items)).congr fun k hk => by
        obtain ⟨r, rfl⟩ := hk.eq_cons
        rfl
    simp only [List.cons_append]
    have hgreed : ∀ least most, Prolongs
        (goTo l >>= fun _ => readGreed >>= fun greedy => repeatLast least most greedy items >>=
          fun items => readNode D n done items)
        fun k => goTo (l ++ k) >>= fun _ => readGreed >>= fun greedy =>
          repeatLast least most greedy items >>= fun items => readNode D (m k - 1) done items :=
      fun least most => (Prolongs.goTo _).bind fun _ => prolongs_readGreed.bind fun greedy =>
        (prolongs_repeatLast least most greedy items).bind fun items => ih hn _ _
    by_cases hc : c ∈ [')', '|', '(', '[', '?', '*', '+', '\x7b']
    · simp only [List.mem_cons, List.not_mem_nil, or_false] at hc
      rcases hc with rfl | rfl | rfl | rfl | rfl | rfl | rfl | rfl
      · exact .pure
      · exact (Prolongs.goTo _).bind fun _ => ih hn _ _
      · refine (Prolongs.goTo _).bind fun _ => Prolongs.flags.bind fun outer => ?_
        refine prolongs_readOpening.bind fun opening => ?_
        cases opening with
        | flags f => exact (Prolongs.setFlags f).bind fun _ => ih hn _ _
        | plain f =>
          refine (Prolongs.setFlags f).bind fun _ => (ih hn _ _).bind fun inner => ?_
          refine (Prolongs.expect _).bind fun _ => (Prolongs.setFlags outer).bind fun _ => ?_
          exact ih hn _ _
        | capture index =>
          refine (ih hn _ _).bind fun inner => ?_
          refine (Prolongs.expect _).bind fun _ => (Prolongs.setFlags outer).bind fun _ => ?_
          exact ih hn _ _
      · refine (Prolongs.goTo _).bind fun _ => prolongs_readClass.bind fun s => ih hn _ _
      · exact hgreed 0 (some 1)
      · exact hgreed 0 none
      · exact hgreed 1 none
      · refine (Prolongs.goTo _).bind fun _ => prolongs_readRange.bind fun x => ?_
        refine prolongs_skip.bind fun _ => prolongs_readGreed.bind fun greedy => ?_
        exact (prolongs_repeatLast _ _ greedy items).bind fun items => ih hn _ _
    · refine Prolongs.congr (x := fun k => do
        let node ← readPrimitive D
        readNode D (m k - 1) done (some node :: items)) ?_ fun k _ => ?_
      · split
        case h_10 => exact prolongs_readPrimitive.bind fun node => ih hn _ _
        all_goals
          rename_i h
          cases h
        all_goals simp at hc
      · split
        case h_10 => rfl
        all_goals
          rename_i h
          cases h
        all_goals simp at hc

/-! ### Whole texts -/

/-- A pattern between the beginning and the end of a text. -/
def Node.whole (n : Node) : Node := .concat [.look .textStart, .group 0 n, .look .textEnd]

namespace Dialect

/-- What is read before the end is looked at. -/
def readText (D : Dialect) (l : List Char) : Option (Node × Source) :=
  readNode D (l.length + 1) [] [] ⟨l, {}, 0, []⟩

/-- A comment is open at the end of a pattern: a parenthesis behind it is part of the comment. -/
def LeavesComment (D : Dialect) (p : String) : Prop :=
  (D.readText (p ++ ")").toList).any (·.2.rest.isEmpty) = true

instance (p : String) : Decidable (D.LeavesComment p) := inferInstanceAs (Decidable (_ = true))

theorem read?_eq (p : String) : D.read? p = (D.readText p.toList).bind fun x =>
    if x.2.rest.isEmpty && D.fits p x.1 then some x.1 else none := rfl

/-- Inside the parentheses the pattern is read first; what closes it is read behind that. -/
theorem readNode_whole (n : Nat) (l : List Char) :
    readNode D (n + 3) [] [] ⟨'^' :: '(' :: '?' :: ':' :: l, {}, 0, []⟩ =
      (readNode D (n + 1) [] [] >>= fun inner => expect ')' >>= fun _ => setFlags {} >>= fun _ =>
        readNode D (n + 1) [] [some (.group 0 inner), some (.look .textStart)])
          ⟨l, {}, 0, []⟩ := rfl

/-- **A pattern that has to match a whole text** is read unless a comment hides what was put
behind it or the pattern has become too large. -/
theorem read?_wholeText {p : String} {n : Node} (h : D.read? p = some n) : D.read? (wholeText p) =
    if D.LeavesComment p ∨ D.fits (wholeText p) n.whole = false then none else some n.whole := by
  obtain ⟨t, hread, hend⟩ : ∃ t, D.readText p.toList = some (n, t) ∧ t.rest = [] := by
    rw [read?_eq, Option.bind_eq_some_iff] at h
    obtain ⟨⟨m, t⟩, hread, h⟩ := h
    rw [Option.ite_none_right_eq_some, Bool.and_eq_true, List.isEmpty_iff] at h
    obtain ⟨⟨hend, -⟩, h⟩ := h
    obtain rfl : m = n := Option.some.inj h
    exact ⟨t, hread, hend⟩
  -- Both closing texts are hidden or none of them is.
  obtain ⟨hides, -, hclosed⟩ := prolongs_readNode
    (m := fun k => if k = [')'] then p.toList.length + 2 else p.toList.length + 5)
    (fun k _ => by split <;> omega) [] [] ⟨p.toList, {}, 0, []⟩ false (by simp) n t hread
  have hclose : D.readText (p ++ ")").toList = some (n, t.append hides [')']) := by
    unfold readText
    simpa using hclosed [')'] (.inl rfl)
  have hinner := hclosed [')', '$'] (.inr rfl)
  have hwhole : D.readText (wholeText p).toList =
      (expect ')' >>= fun _ => setFlags {} >>= fun _ =>
        readNode D (p.toList.length + 5) [] [some (.group 0 n), some (.look .textStart)])
          (t.append hides [')', '$']) := by
    have hchars : (wholeText p).toList
        = '^' :: '(' :: '?' :: ':' :: (p.toList ++ [')', '$']) := by
      simp [wholeText]
    have hlength : (wholeText p).toList.length + 1 = p.toList.length + 4 + 3 := by
      simp [hchars]
    rw [readText, hlength, hchars, readNode_whole, bind_apply]
    exact congrArg (Option.bind · _) hinner
  obtain ⟨rest, f, g, names⟩ := t
  obtain rfl : rest = [] := hend
  cases hides with
  | true =>
    have hcomment : D.LeavesComment p := by
      rw [LeavesComment, hclose]
      rfl
    rw [if_pos (.inl hcomment), read?_eq, hwhole]
    rfl
  | false =>
    have hcomment : ¬ D.LeavesComment p := by
      rw [LeavesComment, hclose]
      simp
    have hend : D.readText (wholeText p).toList = some (n.whole, ⟨[], {}, g, names⟩) := hwhole
    rw [read?_eq, hend, Option.bind_some]
    cases D.fits (wholeText p) n.whole <;> simp [hcomment]

end Dialect

end HttpScript.Pattern
