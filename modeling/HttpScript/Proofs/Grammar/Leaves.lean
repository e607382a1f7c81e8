import HttpScript.Grammar.Request
import HttpScript.Proofs.Grammar.Lines
import Mathlib.Data.List.TakeWhile

/-! # What a rule has read

`Reads` says what a rule does in front of a text that is known. This is the other direction: a rule
has succeeded, and the question is what stood in front of it. `Leaves text l r Q` says that the rule
`r`, where it succeeds before the characters `l` with a value `a`, leaves characters `k` for which
`Q a k` holds; as `Q` may speak of `l`, it can say what was read.

There is one lemma for each operation on the cursor and for each combinator, and one for each of the
smallest rules.

* `Leaves.escape`: an escape stood there.
* `Leaves.keyString`, `Leaves.valueString`: a spelling of the key, and what writes the value.
* `Leaves.lineEnd`: the end of a line. -/

namespace HttpScript.Grammar

open Script Text

variable {α β : Type} {text : Array Char} {l : List Char}

/-- **What a rule leaves** that succeeds before the characters `l`. -/
def Leaves (text : Array Char) (l : List Char) (r : Rule α) (Q : α → List Char → Prop) : Prop :=
  ∀ ⦃s t : State⦄ ⦃a : α⦄, s.Before text l → r s = .ok a t → ∃ k, t.Before text k ∧ Q a k

/-- **The end of a line** `l`, in front of the characters `k`: blanks, perhaps a comment, and what
ends the line. -/
def EndsLine (l k : List Char) : Prop :=
  ∃ (b : List Char) (o : Option Comment) (e : List Char),
    l = b ++ (o.elim [] (·.value.toList) ++ (e ++ k)) ∧
      (∀ c ∈ b, isBlank c = true) ∧ (∀ c ∈ o, c.Printable) ∧ Breaks e k

namespace Leaves

variable {r : Rule α} {f : α → Rule β} {P Q : α → List Char → Prop} {R : β → List Char → Prop}

/-! ### Combinators -/

theorem mono (h : Leaves text l r P) (hQ : ∀ a k, P a k → Q a k) : Leaves text l r Q := by
  intro s t a hs hr
  obtain ⟨k, ht, ha⟩ := h hs hr
  exact ⟨k, ht, hQ a k ha⟩

theorem pure {a : α} (h : Q a l) : Leaves text l (pure a) Q := by
  intro s t b hs hr
  cases hr
  exact ⟨l, hs, h⟩

theorem bind (h : Leaves text l r Q) (hf : ∀ a k, Q a k → Leaves text k (f a) R) :
    Leaves text l (r >>= f) R := by
  intro s t b hs hb
  change EStateM.bind r f s = .ok b t at hb
  unfold EStateM.bind at hb
  split at hb
  · rename_i a u hr
    obtain ⟨k, hu, ha⟩ := h hs hr
    exact hf a k ha hu hb
  · cases hb

theorem map {g : α → β} (h : Leaves text l r Q) (hg : ∀ a k, Q a k → R (g a) k) :
    Leaves text l (g <$> r) R := by
  intro s t b hs hb
  change EStateM.map g r s = .ok b t at hb
  unfold EStateM.map at hb
  split at hb
  · rename_i a u hr
    cases hb
    obtain ⟨k, hu, ha⟩ := h hs hr
    exact ⟨k, hu, hg a k ha⟩
  · cases hb

theorem failAt {p : Position} {cause : Fault} : Leaves text l (Rule.failAt p cause) Q :=
  fun _ _ _ _ hr => by cases hr

theorem failHere {cause : Fault} : Leaves text l (Rule.failHere cause) Q :=
  fun _ _ _ _ hr => by cases hr

theorem ite {c : Prop} [Decidable c] {r r' : Rule α} (h : c → Leaves text l r Q)
    (h' : ¬ c → Leaves text l r' Q) : Leaves text l (if c then r else r') Q := by
  split
  · exact h ‹_›
  · exact h' ‹_›

theorem guardAt {c : Prop} [Decidable c] {p : Position} {cause : Fault} {k : Unit → Rule α}
    (h : ¬ c → Leaves text l (k ()) Q) :
    Leaves text l (if c then Rule.failAt p cause >>= k else k ()) Q :=
  .ite (fun _ => (failAt (Q := fun _ _ => False)).bind fun _ _ h => h.elim) h

theorem guardHere {c : Prop} [Decidable c] {cause : Fault} {k : Unit → Rule α}
    (h : ¬ c → Leaves text l (k ()) Q) :
    Leaves text l (if c then Rule.failHere cause >>= k else k ()) Q :=
  .ite (fun _ => (failHere (Q := fun _ _ => False)).bind fun _ _ h => h.elim) h

/-! ### The cursor -/

theorem cursor : Leaves text l Rule.cursor fun c k => k = l ∧ c.text = text ∧ c.rest = l := by
  intro s t c hs hr
  cases hr
  exact ⟨l, hs, rfl, hs.text_eq, hs.rest_eq⟩

theorem position : Leaves text l Rule.position fun p k =>
    k = l ∧ text.toList.drop p.offset = l := by
  intro s t p hs hr
  cases hr
  refine ⟨l, hs, rfl, ?_⟩
  rw [← hs.text_eq]
  exact hs.rest_eq

theorem peek : Leaves text l Rule.peek fun o k => k = l ∧ o = l.head? := by
  intro s t o hs hr
  cases hr
  exact ⟨l, hs, rfl, by rw [Cursor.peek?_eq_head?, hs.rest_eq]⟩

theorem moveTo {c : Cursor} (h : c.text = text) :
    Leaves text l (Rule.moveTo c) fun _ k => k = c.rest := by
  intro s t _ _ hr
  cases hr
  exact ⟨c.rest, ⟨h, rfl, rfl⟩, rfl⟩

theorem read : Leaves text l Rule.read fun x k => l = x :: k := by
  intro s t x hs hr
  unfold Rule.read at hr
  cases l with
  | nil =>
    have hpeek : s.cursor.peek? = none := by rw [Cursor.peek?_eq_head?, hs.rest_eq]; rfl
    have hread : s.cursor.read.1 = none := by
      unfold Cursor.read
      rw [hs.fresh, hpeek]
      rfl
    split at hr
    · rename_i heq
      rw [heq] at hread
      cases hread
    · cases hr
  | cons y k =>
    rw [Cursor.read_of_rest hs.fresh hs.rest_eq] at hr
    cases hr
    refine ⟨k, ⟨hs.text_eq, hs.fresh, ?_⟩, rfl⟩
    rw [Cursor.rest_step, hs.rest_eq, List.tail_cons]

theorem readWhile (p : Char → Bool) : Leaves text l (Rule.readWhile p) fun w k =>
    l = w ++ k ∧ (∀ c ∈ w, p c = true) ∧ HeadNot p k := by
  intro s t w hs hr
  obtain ⟨hread, hrest, htext, hfresh⟩ := Cursor.readWhile_spec p s.cursor
  rw [hs.rest_eq] at hread hrest
  cases hr
  refine ⟨l.dropWhile p, ⟨htext.trans hs.text_eq, hfresh.trans hs.fresh, hrest⟩, ?_⟩
  dsimp only
  rw [hread]
  exact ⟨List.takeWhile_append_dropWhile.symm, fun c hc => List.mem_takeWhile_imp hc,
    headNot_dropWhile p l⟩

theorem readN (n : Nat) : Leaves text l (Rule.readN n) fun w k => l = w ++ k := by
  intro s t w hs hr
  unfold Rule.readN at hr
  split at hr
  · rename_i w c hread
    cases hr
    obtain ⟨hrest, htext, hfresh⟩ := Cursor.rest_of_readN hs.fresh hread
    exact ⟨c.rest, ⟨htext.trans hs.text_eq, hfresh, rfl⟩, hs.rest_eq.symm.trans hrest⟩
  · cases hr

theorem mapError {g : ParseError → ParseError} (h : Leaves text l r Q) :
    Leaves text l (Rule.mapError g r) Q := by
  intro s t a hs hr
  unfold Rule.mapError at hr
  split at hr
  · rename_i heq
    cases hr
    exact h hs heq
  · cases hr

theorem readOr (cause : Fault) : Leaves text l (Rule.readOr cause) fun x k => l = x :: k :=
  fun s _ _ hs hr => mapError (g := fun _ => .fault cause s.cursor.position) read hs hr

/-! ### Repetition and alternatives -/

theorem optional (h : Leaves text l r Q) : Leaves text l (Rule.optional r) fun o k =>
    (o = none ∧ k = l) ∨ ∃ a, o = some a ∧ Q a k := by
  intro s t o hs hr
  unfold Rule.optional at hr
  split at hr
  · rename_i heq
    cases hr
    obtain ⟨k, ht, ha⟩ := h hs heq
    exact ⟨k, ht, .inr ⟨_, rfl, ha⟩⟩
  · cases hr
    exact ⟨l, hs.backtrack _ _, .inl ⟨rfl, rfl⟩⟩

/-- **The fixed text** that was read. -/
theorem firstOf {literal : String → Rule Unit} {name : β → String} {bs : List β}
    (h : ∀ b ∈ bs, Leaves text l (literal (name b)) fun _ k => l = (name b).toList ++ k) :
    Leaves text l (Rule.firstOf literal name bs) fun o k =>
      ∀ b ∈ o, l = (name b).toList ++ k := by
  induction bs with
  | nil => exact pure (by simp)
  | cons b bs ih =>
    unfold Rule.firstOf
    refine (h b (by simp)).optional.bind fun o k ho => ?_
    rcases ho with ⟨rfl, rfl⟩ | ⟨a, rfl, hl⟩
    · exact ih fun b' hb' => h b' (by simp [hb'])
    · exact pure (by simpa using hl)

theorem collect {r : Rule (Option α)} {S : List α → List Char → List Char → Prop}
    (hnil : ∀ l, Leaves text l r fun o k => o = none → S [] l k)
    (hcons : ∀ l, Leaves text l r fun o k =>
      ∀ a ∈ o, S [a] l k ∧ ∀ as m, S as k m → S (a :: as) l m) :
    Leaves text l (Rule.collect r) fun as k => S as l k := by
  intro s
  -- along the rounds
  induction hn : s.cursor.left using Nat.strongRecOn generalizing s l with
  | ind n ih =>
    intro t as hs hr
    unfold Rule.collect at hr
    split at hr
    · cases hr
    · rename_i heq
      cases hr
      obtain ⟨k, ht, hk⟩ := hnil l hs heq
      exact ⟨k, ht, hk rfl⟩
    · rename_i a u heq
      obtain ⟨k, hu, hk⟩ := hcons l hs heq
      obtain ⟨hone, hmore⟩ := hk a rfl
      split at hr
      · rename_i hlt
        split at hr
        · cases hr
        · rename_i as' t' hrest
          cases hr
          obtain ⟨m, ht, hm⟩ := ih _ (hn ▸ hlt) rfl hu hrest
          exact ⟨m, ht, hmore as' m hm⟩
      · cases hr
        exact ⟨k, hu, hone⟩

theorem zeroOrMore (h : ∀ l, Leaves text l r fun _ _ => True) :
    Leaves text l (Rule.zeroOrMore r) fun _ _ => True := by
  have hround : ∀ l, Leaves text l (Rule.optionalBeforeEnd r) fun _ _ => True := by
    intro l s t o hs hr
    unfold Rule.optionalBeforeEnd at hr
    split at hr
    · cases hr
      exact ⟨l, hs, trivial⟩
    · obtain ⟨k, ht, -⟩ := (h l).optional hs hr
      exact ⟨k, ht, trivial⟩
  exact collect (S := fun _ _ _ => True) (fun l => (hround l).mono fun _ _ _ _ => trivial)
    fun l => (hround l).mono fun _ _ _ _ _ => ⟨trivial, fun _ _ _ => trivial⟩

/-! ### Fixed texts and line ends -/

theorem literal (s : String) : Leaves text l (literal s) fun _ k => l = s.toList ++ k := by
  unfold Grammar.literal
  generalize s.toList = w
  induction w generalizing l with
  | nil => exact pure rfl
  | cons x w ih =>
    unfold literalTail
    refine peek.bind fun o m h => ?_
    obtain ⟨rfl, ho⟩ := h
    cases o with
    | none => exact failHere
    | some c =>
      refine .ite (fun hc => ?_) fun _ => failHere
      subst hc
      refine read.bind fun y k hy => ih.mono fun _ k' hk' => ?_
      rw [hy] at ho ⊢
      rw [Option.some.inj ho, hk']
      rfl

theorem blanks : Leaves text l blanks fun _ k =>
    ∃ b, l = b ++ k ∧ (∀ c ∈ b, isBlank c = true) ∧ HeadNot isBlank k :=
  (readWhile isBlank).bind fun b _ h => pure ⟨b, h⟩

theorem colon : Leaves text l colon fun _ k => ∃ b b', l = b ++ ':' :: (b' ++ k) ∧
    (∀ c ∈ b, isBlank c = true) ∧ (∀ c ∈ b', isBlank c = true) ∧ HeadNot isBlank k := by
  refine blanks.bind fun _ _ ⟨b, hl, hb, _⟩ => (literal ":").bind fun _ _ hcolon => ?_
  refine blanks.mono fun _ k ⟨b', hk, hb', hend⟩ => ⟨b, b', ?_, hb, hb', hend⟩
  rw [hl, hcolon, hk]
  rfl

theorem lineBreak : Leaves text l lineBreak fun _ k => ∃ e : LineEnding, l = e.text ++ k := by
  refine position.bind fun p _ ⟨hp, _⟩ => ?_
  subst hp
  refine read.bind fun c m hc => .ite (fun hfeed => ?_) fun _ => .ite (fun hreturn => ?_) fun _ =>
    failAt
  · subst hfeed
    exact pure ⟨.lineFeed, hc⟩
  · subst hreturn
    refine (mapError read).bind fun d k hd => .ite (fun hfeed => ?_) fun _ => failAt
    subst hfeed
    exact pure ⟨.carriageReturn, by rw [hc, hd]; rfl⟩

theorem endOfLine {p : Position} : Leaves text l (endOfLine p) fun _ k =>
    ∃ e, l = e ++ k ∧ Breaks e k := by
  refine peek.bind fun o m ⟨hm, ho⟩ => ?_
  subst hm
  cases o with
  | none =>
    obtain rfl : m = [] := List.head?_eq_none_iff.mp ho.symm
    exact pure ⟨[], rfl, .inr ⟨rfl, rfl⟩⟩
  | some c =>
    refine .ite (fun _ => ?_) fun _ => failAt
    exact lineBreak.mono fun _ k ⟨e, hk⟩ => ⟨e.text, hk, breaks_ending e k⟩

theorem comment : Leaves text l comment fun c k => l = c.value.toList ++ k ∧ c.Printable := by
  refine position.bind fun p m ⟨hm, _⟩ => ?_
  subst hm
  refine (literal "#").bind fun _ _ hsign => (readWhile _).bind fun w k ⟨hw, hline, _⟩ => ?_
  have hvalue : ("#" ++ String.ofList w).toList = '#' :: w := by simp
  refine pure ⟨by rw [hsign, hw, hvalue]; rfl, ⟨by rw [hvalue]; rfl, fun x hx => ?_⟩⟩
  rw [hvalue] at hx
  rcases List.mem_cons.mp hx with rfl | hx
  · rfl
  · simpa using hline x hx

theorem lineEnd : Leaves text l lineEnd fun _ k => EndsLine l k := by
  refine position.bind fun p m ⟨hm, _⟩ => ?_
  subst hm
  refine blanks.bind fun _ n ⟨b, hb, hblank, _⟩ => peek.bind fun o n' ⟨hn, _⟩ => ?_
  subst hn
  -- what stands between the blanks and the break
  have hend : ∀ {r : Rule (Option Comment)}, Leaves text n' r (fun o k =>
      n' = o.elim [] (·.value.toList) ++ k ∧ ∀ c ∈ o, c.Printable) →
      Leaves text n' (r >>= fun found => Grammar.endOfLine p >>= fun _ => Pure.pure found)
        fun _ k => EndsLine m k := fun hr => hr.bind fun o n ⟨hn, ho⟩ =>
    endOfLine.bind fun _ k ⟨e, he, hbreaks⟩ =>
      pure ⟨b, o, e, by rw [hb, hn, he], hblank, ho, hbreaks⟩
  split
  · exact hend (comment.map fun c k ⟨hc, hprintable⟩ => ⟨hc, by simpa using hprintable⟩)
  · exact hend (pure ⟨rfl, by simp⟩)

theorem leadingLines : Leaves text l leadingLines fun _ _ => True :=
  (zeroOrMore fun _ => lineEnd.mono fun _ _ _ => trivial).bind fun _ _ _ =>
    blanks.bind fun _ _ _ => pure trivial

/-! ### Strings -/

theorem codePoint : Leaves text l codePoint fun c k => ∃ digits, digits ≠ [] ∧
    digits.length ≤ 8 ∧ (∀ d ∈ digits, isHexDigit d = true) ∧ hexNumber digits = c.toNat ∧
      l = '\x7b' :: digits ++ '\x7d' :: k := by
  refine position.bind fun p m ⟨hm, _⟩ => ?_
  subst hm
  refine read.bind fun x _ hx => .guardAt fun hopening => ?_
  refine (readWhile isHexDigit).bind fun digits _ ⟨hl, hdigits, _⟩ => ?_
  refine position.bind fun q n ⟨hn, _⟩ => ?_
  subst hn
  refine .guardAt fun hlength => read.bind fun y k hy => .guardAt fun hclosing => ?_
  simp only [Bool.or_eq_true, List.isEmpty_iff, decide_eq_true_eq, not_or, Nat.not_lt] at hlength
  by_cases hvalid : (hexNumber digits).isValidChar
  · rw [dif_pos hvalid]
    refine pure ⟨digits, hlength.1, hlength.2, hdigits, ?_, ?_⟩
    · rfl
    · rw [hx, hl, hy, not_not.mp hopening, not_not.mp hclosing]
      rfl
  · rw [dif_neg hvalid]
    exact failAt

theorem escape {plain : List Char} {broken : Fault} :
    Leaves text l (escape plain broken) fun c k => ∃ w, l = w ++ k ∧ Escapes plain c w := by
  refine position.bind fun p m ⟨hm, _⟩ => ?_
  subst hm
  refine (readOr broken).bind fun x k hx => .ite (fun hplain => ?_) fun _ => ?_
  · exact pure ⟨[x], hx, .plain hplain⟩
  split
  · exact pure ⟨['b'], hx, .backspace rfl⟩
  · exact pure ⟨['n'], hx, .lineFeed rfl⟩
  · exact pure ⟨['r'], hx, .carriageReturn rfl⟩
  · exact pure ⟨['t'], hx, .tab rfl⟩
  · refine codePoint.mono fun c k ⟨digits, hne, hlength, hdigits, hnumber, hk⟩ => ?_
    refine ⟨_, ?_, .codePoint hne hlength hdigits hnumber⟩
    rw [hx, hk]
    simp
  · exact failAt

theorem keyChar : Leaves text l keyChar fun o k =>
    (o = none → k = l ∧ HeadNot (!endsKey ·) l) ∧ ∀ c ∈ o, ∀ v w, Spells isKeyChar keyEscapes v w →
      ∃ u, l = u ++ k ∧ Spells isKeyChar keyEscapes (c :: v) (u ++ w) := by
  refine peek.bind fun o m ⟨hm, ho⟩ => ?_
  subst hm
  cases o with
  | none =>
    obtain rfl : m = [] := List.head?_eq_none_iff.mp ho.symm
    exact pure ⟨fun _ => ⟨rfl, headNot_nil _⟩, by simp⟩
  | some c =>
    obtain ⟨n, rfl⟩ := List.head?_eq_some_iff.mp ho.symm
    refine .ite (fun hkey => ?_) fun hkey => .ite (fun hbackslash => ?_) fun hbackslash => ?_
    · refine read.map fun x k hx => ⟨by simp, fun y hy v w hw => ⟨[c], ?_, ?_⟩⟩
      · rw [(List.cons.inj hx).2]
        rfl
      · rw [← Option.some.inj hy, ← (List.cons.inj hx).1]
        exact .plain hkey hw
    · subst hbackslash
      refine read.bind fun x k hx => escape.map fun y k' ⟨e, hk, he⟩ => ⟨by simp, ?_⟩
      rintro z hz v w hw
      refine ⟨'\\' :: e, by rw [(List.cons.inj hx).2, hk]; rfl, ?_⟩
      rw [← Option.some.inj hz]
      exact .escape he hw
    · refine pure ⟨fun _ => ⟨rfl, headNot_cons.mpr ?_⟩, by simp⟩
      simp [endsKey, hkey, hbackslash]

theorem keyString : Leaves text l keyString fun key k => key ≠ "" ∧
    ∃ w, l = w ++ k ∧ Spells isKeyChar keyEscapes key.toList w := by
  have hchars : Leaves text l (Rule.collect Grammar.keyChar) fun key k =>
      (key = [] → HeadNot (!endsKey ·) l) ∧
        ∃ w, l = w ++ k ∧ Spells isKeyChar keyEscapes key w := by
    refine collect (S := fun key l k => (key = [] → HeadNot (!endsKey ·) l) ∧
      ∃ w, l = w ++ k ∧ Spells isKeyChar keyEscapes key w) (fun l => ?_) fun l => ?_
    · refine keyChar.mono fun o k ⟨hnone, _⟩ ho => ?_
      obtain ⟨rfl, hhead⟩ := hnone ho
      exact ⟨fun _ => hhead, [], rfl, .nil⟩
    · refine keyChar.mono fun o k ⟨_, hsome⟩ c hc => ⟨?_, fun key m ⟨_, w, hk, hw⟩ => ?_⟩
      · obtain ⟨u, hl, hu⟩ := hsome c hc [] [] .nil
        exact ⟨by simp, u, hl, by simpa using hu⟩
      · obtain ⟨u, hl, hu⟩ := hsome c hc key w hw
        exact ⟨by simp, u ++ w, by rw [hl, hk, List.append_assoc], hu⟩
  have hread : Leaves text l Grammar.keyString fun key k => (key = "" → HeadNot (!endsKey ·) l) ∧
      ∃ w, l = w ++ k ∧ Spells isKeyChar keyEscapes key.toList w := by
    refine position.bind fun p m ⟨hm, _⟩ => ?_
    subst hm
    refine hchars.bind fun key k hkey => position.bind fun q k' ⟨hk, _⟩ => .guardAt fun _ => ?_
    subst hk
    exact pure (by simpa using hkey)
  intro s t key hs hr
  obtain ⟨k, ht, hempty, hw⟩ := hread hs hr
  refine ⟨k, ht, fun h => ?_, hw⟩
  obtain ⟨e, u, herror⟩ := Rejects.keyString (hempty h) s hs
  rw [hr] at herror
  cases herror

end Leaves

/-! ### Values -/

/-- **The characters `vs` of a value** that were read from `l` to `k`: what writes the value without
the blanks at its end, and then these blanks. -/
def ValueRead (text : Array Char) (vs : List ValueChar) (l k : List Char) : Prop :=
  ∃ w b, l = w ++ (b ++ k) ∧
    Spells isValueChar valueEscapes ((dropTrailingBlanks vs).map (·.char)) w ∧
    HeadNot isBlank w.reverse ∧ (∀ c ∈ b, isBlank c = true) ∧
    EndsAt text (b ++ k) (dropTrailingBlanks vs)

theorem ValueRead.nil : ValueRead text [] l l :=
  ⟨[], [], rfl, .nil, headNot_nil _, by simp, fun _ hv => by cases hv⟩

theorem dropTrailingBlanks_cons (v : ValueChar) (vs : List ValueChar) :
    dropTrailingBlanks (v :: vs) =
      if dropTrailingBlanks vs = [] then (if v.blank then [] else [v])
      else v :: dropTrailingBlanks vs := by
  unfold dropTrailingBlanks
  rw [List.reverse_cons, List.dropWhile_append]
  cases h : vs.reverse.dropWhile (·.blank) with
  | nil =>
    cases hv : v.blank <;> simp [hv]
  | cons u us => simp

theorem ValueRead.cons {v : ValueChar} {vs : List ValueChar} {u k m : List Char}
    (h : ValueRead text vs k m)
    (hspell : ∀ {x w}, Spells isValueChar valueEscapes x w →
      Spells isValueChar valueEscapes (v.char :: x) (u ++ w))
    (hblank : v.blank = true → ∀ c ∈ u, isBlank c = true)
    (hsolid : v.blank = false → HeadNot isBlank u.reverse)
    (hnext : v.next.text = text ∧ v.next.rest = k) : ValueRead text (v :: vs) (u ++ k) m := by
  obtain ⟨w, b, hk, hw, hlast, hb, hend⟩ := h
  unfold ValueRead
  rw [dropTrailingBlanks_cons]
  by_cases hempty : dropTrailingBlanks vs = []
  · rw [if_pos hempty]
    rw [hempty] at hw
    cases hw
    cases hv : v.blank with
    | true =>
      refine ⟨[], u ++ b, by rw [hk]; simp, .nil, headNot_nil _, fun c hc => ?_, ?_⟩
      · exact (List.mem_append.mp hc).elim (hblank hv c) (hb c)
      · exact fun _ h => by cases h
    | false =>
      refine ⟨u, b, by rw [hk]; simp, ?_, hsolid hv, hb, ?_⟩
      · simpa using hspell .nil
      · intro x hx
        obtain rfl : v = x := Option.some.inj hx
        exact ⟨hv, hnext.1, by rw [hnext.2, hk]; rfl⟩
  · rw [if_neg hempty]
    have hne : w ≠ [] := by
      rintro rfl
      generalize hx : (dropTrailingBlanks vs).map (·.char) = x at hw
      cases hw
      exact hempty (List.map_eq_nil_iff.mp hx)
    refine ⟨u ++ w, b, by rw [hk]; simp, hspell hw, .reverse_append hne hlast, hb, ?_⟩
    exact hend.cons fun h => (hempty h).elim

namespace Leaves

theorem valueChar : Leaves text l valueChar fun o k => (o = none → k = l) ∧
    ∀ v ∈ o, ∀ vs m, ValueRead text vs k m → ValueRead text (v :: vs) l m := by
  refine peek.bind fun o n ⟨hn, ho⟩ => ?_
  subst hn
  cases o with
  | none => exact pure ⟨fun _ => rfl, by simp⟩
  | some c =>
    obtain ⟨k, rfl⟩ := List.head?_eq_some_iff.mp ho.symm
    refine .ite (fun _ => pure ⟨fun _ => rfl, by simp⟩) fun hstop => .ite (fun hbackslash => ?_)
      fun hbackslash => ?_
    · subst hbackslash
      refine read.bind fun x n hx => escape.bind fun d m ⟨e, hm, he⟩ => ?_
      obtain ⟨rfl, rfl⟩ := List.cons.inj hx
      refine cursor.bind fun next m' ⟨hm', htext, hrest⟩ => pure ⟨by simp, fun v hv vs m'' h => ?_⟩
      subst hm' hm
      obtain rfl : ValueChar.mk d false next = v := Option.some.inj hv
      refine h.cons (u := '\\' :: e) (fun hw => .escape he hw) (by simp) (fun _ => ?_)
        ⟨htext, hrest⟩
      obtain ⟨e', y, rfl, hy⟩ := he.last
      rw [← List.cons_append, List.reverse_append]
      exact headNot_cons.mpr hy
    · refine read.bind fun x n hx => ?_
      obtain ⟨rfl, rfl⟩ := List.cons.inj hx
      refine cursor.bind fun next m ⟨hm, htext, hrest⟩ => pure ⟨by simp, fun v hv vs m' h => ?_⟩
      subst hm
      obtain rfl : ValueChar.mk c (isBlank c) next = v := Option.some.inj hv
      have hplain : isValueChar c = true := by
        simp only [Bool.or_eq_true, not_or] at hstop
        simp [isValueChar, valueEscapes, hstop, hbackslash]
      refine h.cons (u := [c]) (fun hw => .plain hplain hw) (fun hblank => ?_) (fun hblank => ?_)
        ⟨htext, hrest⟩
      · exact List.forall_mem_singleton.mpr hblank
      · exact headNot_cons.mpr hblank

/-- **A value** stood there, and the characters that write it are those that were read. -/
theorem valueString : Leaves text l valueString fun t k =>
    text.toList.drop t.position.offset = l ∧ ∃ w, l = w ++ k ∧ WritesValue t.value.toList w := by
  refine cursor.bind fun c m ⟨hm, htext, hrest⟩ => .guardHere fun hhead => ?_
  subst hm
  have hchars : Leaves text m (Rule.collect Grammar.valueChar) fun vs k => ValueRead text vs m k :=
    collect (S := ValueRead text) (fun l => valueChar.mono fun o k ⟨hnone, _⟩ ho => by
      rw [hnone ho]
      exact .nil) fun l => valueChar.mono fun o k ⟨_, hsome⟩ v hv =>
        ⟨hsome v hv [] k .nil, hsome v hv⟩
  refine hchars.bind fun vs k ⟨w, b, hm, hw, hlast, hb, hend⟩ => ?_
  have hplace : text.toList.drop c.position.offset = m := by
    rw [← htext]
    exact hrest
  have hblank : HeadNot isBlank w := by
    intro x hx
    have hx' : m.head? = some x := by rw [hm, List.head?_append, hx]; rfl
    rw [Cursor.peek?_eq_head?, hrest, hx'] at hhead
    simpa using hhead
  -- the cursor goes back over the blanks at the end
  have hback : ∀ e : Cursor, e.text = text → e.rest = b ++ k → Leaves text k (do
      Rule.moveTo e
      return (⟨.ofList ((dropTrailingBlanks vs).map (·.char)), c.position⟩ : Template))
        fun t k => text.toList.drop t.position.offset = m ∧ ∃ w, m = w ++ k ∧
          WritesValue t.value.toList w := fun e he hrest => by
    refine (moveTo he).bind fun _ k' hk' => pure ⟨hplace, w, ?_, ?_, hblank, hlast⟩
    · rw [hk', hrest, hm]
    · rwa [String.toList_ofList]
  dsimp only
  cases hget : (dropTrailingBlanks vs).getLast? with
  | some v => exact hback v.next (hend v hget).2.1 (hend v hget).2.2
  | none =>
    refine hback c htext ?_
    rw [List.getLast?_eq_none_iff.mp hget] at hw
    cases hw
    exact hrest.trans hm

end Leaves

end HttpScript.Grammar
