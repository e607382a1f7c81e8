import HttpScript.Pattern.Engine
import Mathlib.Data.List.TakeWhile

/-! # Patterns with a parenthesis behind them

What reads a pattern reads it in the same way where a parenthesis closes it, with one exception:
a comment that is open at the end of the pattern hides the parenthesis. So a reader is compared with
what it reads from the same characters with a closing text behind them.

* `Prolongs r r'`: what `r` reads, `r' k` reads with `k` behind it, and `k` is left, or hidden where
  nothing else is left.
* `Prolongs.bind`, `Prolongs.rest`, `Prolongs.peek`: the judgement is closed under what readers are
  made of.
* `IsLoop.prolongs_rest`: loops that read a character in each round, whose steps are the characters
  left.
* `prolongs_skip`: the only place where the closing text can be hidden. -/

namespace HttpScript.Pattern

open Text

variable {α β : Type}

/-- What stands behind a pattern that is put in parentheses. -/
def Closing (k : List Char) : Prop := k = [')'] ∨ k = [')', '$']

theorem Closing.eq_cons {k : List Char} (hk : Closing k) : ∃ l, k = ')' :: l := by
  rcases hk with rfl | rfl
  · exact ⟨_, rfl⟩
  · exact ⟨_, rfl⟩

/-- A word without a parenthesis that no text begins with is at no beginning with it behind. -/
theorem Closing.not_prefix {k l : List Char} (hk : Closing k) (w : List Char)
    (hw : ')' ∉ w) (h : ∀ r, l = w ++ r → False) (r : List Char) : l ++ k = w ++ r → False := by
  intro he
  rcases List.append_eq_append_iff.1 he with ⟨u, rfl, hu⟩ | ⟨u, rfl, -⟩
  · cases u with
    | nil => exact h [] (by simp)
    | cons c u =>
      obtain ⟨q, rfl⟩ := hk.eq_cons
      obtain rfl := (List.cons.inj hu).1
      exact hw (by simp)
  · exact h u rfl

/-- The source with `k` behind it, which an open comment may hide. -/
def Source.append (s : Source) (hidden : Bool) (k : List Char) : Source :=
  if hidden then s else { s with rest := s.rest ++ k }

@[simp] theorem Source.append_false (s : Source) (k : List Char) :
    s.append false k = { s with rest := s.rest ++ k } := rfl

theorem Source.append_length (s : Source) (hidden : Bool) (k : List Char) :
    (s.append hidden k).rest.length ≤ s.rest.length + k.length := by
  cases hidden with
  | true => exact Nat.le_add_right _ _
  | false => simp

/-- What `r` reads from `s`, `r' k` reads with `k` behind. -/
def ProlongsAt (s : Source) (hidden : Bool) (r : Reader α) (r' : List Char → Reader α) : Prop :=
  ∀ a t, r s = some (a, t) → ∃ hides, (hides = true → t.rest = []) ∧
    ∀ k, Closing k → r' k (s.append hidden k) = some (a, t.append hides k)

/-- **The same reading with a closing text behind**: what `r` reads, `r' k` reads with `k` behind
it, and `k` is left over. Only where nothing else is left can a comment have hidden `k`. -/
def Prolongs (r : Reader α) (r' : List Char → Reader α) : Prop :=
  ∀ s hidden, (hidden = true → s.rest = []) → ProlongsAt s hidden r r'

theorem bind_apply (m : Reader α) (f : α → Reader β) (s : Source) :
    (m >>= f) s = (m s).bind fun p => f p.1 p.2 := rfl

theorem ProlongsAt.bind {s : Source} {hidden : Bool} {m : Reader α} {m' : List Char → Reader α}
    {f : α → Reader β} {f' : List Char → α → Reader β} (hm : ProlongsAt s hidden m m')
    (hf : ∀ a t hides, m s = some (a, t) → (hides = true → t.rest = []) →
      ProlongsAt t hides (f a) fun k => f' k a) :
    ProlongsAt s hidden (m >>= f) fun k => m' k >>= f' k := by
  intro b u h
  obtain ⟨⟨a, t⟩, ha, hb⟩ := Option.bind_eq_some_iff.1 h
  obtain ⟨mid, hmid, hm⟩ := hm a t ha
  obtain ⟨hides, hlast, hf⟩ := hf a t mid ha hmid b u hb
  refine ⟨hides, hlast, fun k hk => ?_⟩
  dsimp only
  rw [bind_apply, hm k hk]
  exact hf k hk

namespace Prolongs

theorem refuse {r' : List Char → Reader α} : Prolongs refuse r' :=
  fun _ _ _ _ _ h => by cases h

theorem refuse_bind {f : α → Reader β} {r' : List Char → Reader β} :
    Prolongs (Pattern.refuse >>= f) r' :=
  fun _ _ _ _ _ h => by cases h

theorem pure {a : α} : Prolongs (pure a) fun _ => pure a := by
  intro s hidden hs a' t h
  cases h
  exact ⟨hidden, hs, fun _ _ => rfl⟩

theorem bind {m : Reader α} {m' : List Char → Reader α} {f : α → Reader β}
    {f' : List Char → α → Reader β} (hm : Prolongs m m')
    (hf : ∀ a, Prolongs (f a) fun k => f' k a) :
    Prolongs (m >>= f) fun k => m' k >>= f' k :=
  fun s hidden hs => (hm s hidden hs).bind fun a t hides _ ht => hf a t hides ht

theorem congr {r : Reader α} {x y : List Char → Reader α} (h : Prolongs r x)
    (he : ∀ k, Closing k → x k = y k) : Prolongs r y := by
  intro s hidden hs a t hr
  obtain ⟨hides, hlast, hf⟩ := h s hidden hs a t hr
  exact ⟨hides, hlast, fun k hk => he k hk ▸ hf k hk⟩

theorem ite_iff {c : Prop} [Decidable c] {c' : List Char → Prop} [∀ k, Decidable (c' k)]
    {x y : Reader α} {x' y' : List Char → Reader α} (hc : ∀ k, Closing k → (c' k ↔ c))
    (hx : c → Prolongs x x') (hy : ¬ c → Prolongs y y') :
    Prolongs (if c then x else y) fun k => if c' k then x' k else y' k := by
  by_cases h : c
  · rw [if_pos h]
    exact (hx h).congr fun k hk => (if_pos ((hc k hk).2 h)).symm
  · rw [if_neg h]
    exact (hy h).congr fun k hk => (if_neg (mt (hc k hk).1 h)).symm

theorem ite {c : Prop} [Decidable c] {x y : Reader α} {x' y' : List Char → Reader α}
    (hx : c → Prolongs x x') (hy : ¬ c → Prolongs y y') :
    Prolongs (if c then x else y) fun k => if c then x' k else y' k :=
  ite_iff (fun _ _ => Iff.rfl) hx hy

theorem flags : Prolongs flags fun _ => flags := by
  intro s hidden hs a t h
  cases h
  refine ⟨hidden, hs, fun k _ => ?_⟩
  cases hidden <;> rfl

theorem setFlags (f : Flags) : Prolongs (setFlags f) fun _ => setFlags f := by
  intro s hidden hs a t h
  cases h
  refine ⟨hidden, hs, fun k _ => ?_⟩
  cases hidden <;> rfl

theorem countGroup : Prolongs countGroup fun _ => countGroup := by
  intro s hidden hs a t h
  cases h
  refine ⟨hidden, hs, fun k _ => ?_⟩
  cases hidden <;> rfl

/-- Going on with characters of one's own. -/
theorem goTo (l : List Char) : Prolongs (goTo l) fun k => goTo (l ++ k) := by
  intro s hidden hs a t h
  cases h
  refine ⟨false, by simp, fun k _ => ?_⟩
  cases hidden <;> rfl

theorem goTo_nil : Prolongs (Pattern.goTo []) fun _ => Pattern.goTo [] := by
  intro s hidden hs a t h
  cases h
  refine ⟨true, fun _ => rfl, fun k _ => ?_⟩
  cases hidden <;> rfl

/-- What is done with the characters left has to be the same with the closing text among them. -/
theorem rest {f : List Char → Reader α} {f' : List Char → List Char → Reader α}
    (h : ∀ l, Prolongs (f l) fun k => f' k (l ++ k))
    (hhidden : Prolongs (f []) fun k => f' k []) :
    Prolongs (Pattern.rest >>= f) fun k => Pattern.rest >>= f' k := by
  intro s hidden hs a t hr
  have hr : f s.rest s = some (a, t) := hr
  cases hidden with
  | false => exact h s.rest s false hs a t hr
  | true =>
    rw [hs rfl] at hr
    obtain ⟨hides, hlast, hf⟩ := hhidden s true hs a t hr
    refine ⟨hides, hlast, fun k hk => ?_⟩
    change f' k s.rest s = _
    rw [hs rfl]
    exact hf k hk

theorem mark {f : List Char → Reader α}
    (h : ∀ l (l' : List Char → List Char),
      Prolongs (Pattern.goTo l) (fun k => Pattern.goTo (l' k)) →
        Prolongs (f l) fun k => f (l' k)) :
    Prolongs (Pattern.rest >>= f) fun _ => Pattern.rest >>= f :=
  rest (fun l => h l _ (goTo l)) (h [] _ goTo_nil)

/-- Where a character is left, only the text behind it matters. -/
theorem rest_of_cons {f : List Char → Reader α} {f' : List Char → List Char → Reader α}
    (hnil : f [] = Pattern.refuse)
    (hcons : ∀ c l, Prolongs (f (c :: l)) fun k => f' k (c :: (l ++ k))) :
    Prolongs (Pattern.rest >>= f) fun k => Pattern.rest >>= f' k := by
  refine rest (fun l => ?_) (by rw [hnil]; exact refuse)
  cases l with
  | nil => rw [hnil]; exact refuse
  | cons c l => exact hcons c l

/-- In front of a closing text stands the parenthesis. -/
theorem of_closing {r : Reader α} {f : List Char → List Char → Reader α}
    (h : Prolongs r fun k => f k (')' :: k.tail)) : Prolongs r fun k => f k k := by
  intro s hidden hs a t hr
  obtain ⟨hides, hlast, hf⟩ := h s hidden hs a t hr
  refine ⟨hides, hlast, fun k hk => ?_⟩
  have := hf k hk
  obtain ⟨l, rfl⟩ := hk.eq_cons
  exact this

/-- Looking at the next character is looking at the parenthesis where no other is left. -/
theorem peek {f : Option Char → Reader α} {f' : List Char → Option Char → Reader α}
    (hsome : ∀ c, Prolongs (f (some c)) fun k => f' k (some c))
    (hnone : Prolongs (f none) fun k => f' k none)
    (hclosing : Prolongs (f none) fun k => f' k (some ')')) :
    Prolongs (Pattern.peek >>= f) fun k => Pattern.peek >>= f' k := by
  have hpeek : ∀ g : Option Char → Reader α,
      (Pattern.peek >>= g) = Pattern.rest >>= fun l => g l.head? := fun _ => rfl
  simp only [hpeek]
  refine rest (fun l => ?_) hnone
  cases l with
  | nil => exact of_closing (f := fun k l => f' k l.head?) hclosing
  | cons c l => exact hsome c

theorem next : Prolongs next fun _ => next :=
  rest_of_cons rfl fun _ l => (goTo l).bind fun _ => pure

theorem expect (c : Char) : Prolongs (expect c) fun _ => expect c := by
  refine next.bind fun d => ?_
  exact ite (fun _ => refuse) fun _ => pure

theorem accept {c : Char} (hc : c ≠ ')') : Prolongs (accept c) fun _ => accept c := by
  refine rest (fun l => ?_) pure
  cases l with
  | nil =>
    refine (pure (a := false)).congr fun k hk => ?_
    obtain ⟨r, rfl⟩ := hk.eq_cons
    exact (if_neg (Ne.symm hc)).symm
  | cons d l => exact ite (fun _ => (goTo l).bind fun _ => pure) fun _ => pure

end Prolongs

/-! ### White space and comments -/

/-- Behind what is ignored the closing text is left, unless a comment is open at the end. -/
theorem skipIgnored_append (l : List Char) (inComment : Bool) :
    (∀ k, Closing k → skipIgnored inComment (l ++ k) = skipIgnored inComment l ++ k) ∨
      skipIgnored inComment l = [] ∧ ∀ k, Closing k → skipIgnored inComment (l ++ k) = [] := by
  induction l generalizing inComment with
  | nil =>
    cases inComment with
    | false =>
      refine .inl fun k hk => ?_
      rcases hk with rfl | rfl <;> decide
    | true =>
      refine .inr ⟨rfl, fun k hk => ?_⟩
      rcases hk with rfl | rfl <;> decide
  | cons c l ih =>
    simp only [List.cons_append, skipIgnored]
    split
    · exact ih _
    · split
      · exact ih _
      · split
        · exact ih _
        · exact .inl fun k _ => rfl

theorem visibleRest_append (f : Flags) (l : List Char) :
    (∀ k, Closing k → visibleRest f (l ++ k) = visibleRest f l ++ k) ∨
      visibleRest f l = [] ∧ ∀ k, Closing k → visibleRest f (l ++ k) = [] := by
  unfold visibleRest
  split
  · exact skipIgnored_append l false
  · exact .inl fun k _ => rfl

theorem skipIgnored_length (l : List Char) (inComment : Bool) :
    (skipIgnored inComment l).length ≤ l.length := by
  induction l generalizing inComment with
  | nil => rfl
  | cons c l ih =>
    simp only [skipIgnored]
    split
    · exact (ih _).trans (by simp)
    · split
      · exact (ih _).trans (by simp)
      · split
        · exact (ih _).trans (by simp)
        · rfl

theorem visibleRest_length (f : Flags) (l : List Char) : (visibleRest f l).length ≤ l.length := by
  unfold visibleRest
  split
  · exact skipIgnored_length l false
  · rfl

theorem prolongs_skip : Prolongs skip fun _ => skip := by
  refine Prolongs.flags.bind fun f => Prolongs.rest (fun l => ?_) ?_
  · rcases visibleRest_append f l with h | ⟨hnil, h⟩
    · exact (Prolongs.goTo _).congr fun k hk => by rw [h k hk]
    · rw [hnil]
      exact Prolongs.goTo_nil.congr fun k hk => by rw [h k hk]
  · have hnil : visibleRest f [] = [] := by cases f; unfold visibleRest; split <;> rfl
    rw [hnil]
    exact Prolongs.goTo_nil

theorem prolongs_nextSkip : Prolongs nextSkip fun _ => nextSkip :=
  Prolongs.next.bind fun _ => prolongs_skip.bind fun _ => .pure

theorem nextSkip_length {s t : Source} {c : Char} (h : nextSkip s = some (c, t)) :
    t.rest.length < s.rest.length := by
  obtain ⟨rest, f, g, names⟩ := s
  cases rest with
  | nil => cases h
  | cons d l =>
    cases h
    exact Nat.lt_succ_of_le (visibleRest_length f l)

/-! ### Numbers and code points -/

theorem Prolongs.rest_bind {g : List Char → Reader α} {g' : List Char → List Char → Reader α}
    {f : α → Reader β} {f' : List Char → α → Reader β}
    (hg : Prolongs (Pattern.rest >>= g) fun k => Pattern.rest >>= g' k)
    (hf : ∀ a, Prolongs (f a) fun k => f' k a) :
    Prolongs (Pattern.rest >>= fun l => g l >>= f) fun k =>
      Pattern.rest >>= fun l => g' k l >>= f' k :=
  hg.bind hf

/-- One step more is left with the closing text too. -/
theorem Prolongs.step {r : Nat → Reader α} {n : Nat} {m : List Char → Nat}
    (hm : ∀ k, Closing k → n + 1 ≤ m k)
    (h : Prolongs (r (n + 1)) fun k => r (m k - 1 + 1)) :
    Prolongs (r (n + 1)) fun k => r (m k) :=
  h.congr fun k hk => by rw [Nat.sub_add_cancel (by have := hm k hk; omega)]

/-- **A loop that reads a character in each round**, as long as the next one passes a test. The
number of steps it is given bounds its rounds. -/
structure IsLoop {σ : Type} (loop : Nat → σ → Reader α) (test : Char → Bool) (out : σ → α)
    (body : Char → σ → Reader σ) : Prop where
  stops : ∀ n x s, (∀ c ∈ s.rest.head?, test c = false) → loop n x s = some (out x, s)
  goes : ∀ n x s c, s.rest.head? = some c → test c = true →
    loop (n + 1) x s = (body c x >>= loop n) s
  shortens : ∀ c x s y t, body c x s = some (y, t) → t.rest.length < s.rest.length
  prolongs : ∀ c x, Prolongs (body c x) fun _ => body c x

namespace IsLoop

variable {σ : Type} {loop : Nat → σ → Reader α} {test : Char → Bool} {out : σ → α}
  {body : Char → σ → Reader σ}

/-- Where the test fails nothing is read, with whatever steps and also with a closing text. -/
theorem prolongsAt_of_not (hl : IsLoop loop test out body) (hclosing : test ')' = false) {n : Nat}
    {m : List Char → Nat} (x : σ) {s : Source} {hidden : Bool}
    (hs : hidden = true → s.rest = []) (hno : ∀ c ∈ s.rest.head?, test c = false) :
    ProlongsAt s hidden (loop n x) fun k => loop (m k) x := by
  intro a t h
  rw [hl.stops n x s hno] at h
  cases h
  refine ⟨hidden, hs, fun k hk => hl.stops _ _ _ fun c hc => ?_⟩
  obtain ⟨l, rfl⟩ := hk.eq_cons
  cases hidden with
  | true => exact hno c hc
  | false =>
    cases hrest : s.rest with
    | nil =>
      rw [Source.append_false, hrest] at hc
      cases hc
      exact hclosing
    | cons d r =>
      rw [Source.append_false, hrest] at hc
      exact hno c (by rw [hrest]; exact hc)

/-- Such a loop ends where a closing text begins, if its steps suffice for the characters. -/
theorem prolongsAt (hl : IsLoop loop test out body) (hclosing : test ')' = false) {n : Nat}
    {m : List Char → Nat} (x : σ) {s : Source} {hidden : Bool}
    (hs : hidden = true → s.rest = []) (hn : s.rest.length ≤ n)
    (hm : ∀ k, Closing k → (s.append hidden k).rest.length ≤ m k) :
    ProlongsAt s hidden (loop n x) fun k => loop (m k) x := by
  induction n generalizing m x s hidden with
  | zero =>
    refine hl.prolongsAt_of_not hclosing x hs ?_
    simp [List.eq_nil_of_length_eq_zero (Nat.le_zero.1 hn)]
  | succ n ih =>
    cases hrest : s.rest with
    | nil => exact hl.prolongsAt_of_not hclosing x hs (by simp [hrest])
    | cons c l =>
      by_cases hc : test c = true
      · obtain rfl : hidden = false := by
          cases hidden with
          | false => rfl
          | true => cases hrest.symm.trans (hs rfl)
        have hsteps : ∀ k, Closing k → s.rest.length + k.length ≤ m k := fun k hk => by
          simpa using hm k hk
        have hround : ProlongsAt s false (body c x >>= loop n) fun k =>
            body c x >>= loop (m k - 1) := by
          refine (hl.prolongs c x s false hs).bind fun y t hides ht hlast => ?_
          have hshort := hl.shortens c x s y t ht
          refine ih y hlast (by omega) fun k hk => ?_
          have happend := t.append_length hides k
          have := hsteps k hk
          omega
        intro a t h
        rw [hl.goes n x s c (by rw [hrest]; rfl) hc] at h
        obtain ⟨hides, hlast, hread⟩ := hround a t h
        refine ⟨hides, hlast, fun k hk => ?_⟩
        have hm' : m k - 1 + 1 = m k := by
          have := hsteps k hk
          rw [hrest, List.length_cons] at this
          omega
        dsimp only
        rw [← hm', hl.goes _ x _ c (by simp [hrest]) hc]
        exact hread k hk
      · exact hl.prolongsAt_of_not hclosing x hs (by simpa [hrest] using hc)

/-- With a step for each character left, the steps suffice. -/
theorem prolongs_rest (hl : IsLoop loop test out body) (hclosing : test ')' = false) (x : σ) :
    Prolongs (rest >>= fun l => loop l.length x) fun _ => rest >>= fun l => loop l.length x := by
  intro s hidden hs a t h
  exact hl.prolongsAt hclosing (m := fun k => (s.append hidden k).rest.length) x hs le_rfl
    (fun _ _ => le_rfl) a t h

end IsLoop

theorem isLoop_readDigits (isDigit : Char → Bool) :
    IsLoop (readDigits isDigit) isDigit List.reverse fun c done => do
      let _ ← nextSkip
      return c :: done where
  stops n done s h := by
    obtain ⟨chars, f, g, names⟩ := s
    cases n with
    | zero => rfl
    | succ n =>
      cases chars with
      | nil => rfl
      | cons c l =>
        have hc : isDigit c = false := h c rfl
        change (if isDigit c = true then _ else _ : Reader (List Char)) _ = _
        rw [if_neg (by simp [hc])]
        rfl
  goes n done s c h hc := by
    obtain ⟨chars, f, g, names⟩ := s
    cases chars with
    | nil => cases h
    | cons d l =>
      cases h
      change (if isDigit c = true then _ else _ : Reader (List Char)) _ = _
      rw [if_pos hc]
      rfl
  shortens c done s y t h := by
    obtain ⟨⟨d, t'⟩, hnext, h⟩ := Option.bind_eq_some_iff.1 h
    cases h
    exact nextSkip_length hnext
  prolongs c done := prolongs_nextSkip.bind fun _ => .pure

theorem prolongs_readDigits {isDigit : Char → Bool} (hd : isDigit ')' = false) (done : List Char) :
    Prolongs (rest >>= fun l => readDigits isDigit l.length done) fun _ =>
      rest >>= fun l => readDigits isDigit l.length done :=
  (isLoop_readDigits isDigit).prolongs_rest hd done

theorem prolongs_dropWhite : Prolongs (rest >>= fun l => goTo (l.dropWhile isWhite)) fun _ =>
    rest >>= fun l => goTo (l.dropWhile isWhite) := by
  refine Prolongs.rest (fun l => (Prolongs.goTo _).congr fun k hk => ?_) Prolongs.goTo_nil
  have hk' : k.dropWhile isWhite = k := by rcases hk with rfl | rfl <;> decide
  rw [List.dropWhile_append, hk']
  split
  · rename_i h
    rw [List.isEmpty_iff.1 h, List.nil_append]
  · rfl

theorem prolongs_readCount : Prolongs readCount fun _ => readCount := by
  refine prolongs_dropWhite.rest_bind fun _ => ?_
  refine (prolongs_readDigits rfl _).rest_bind fun l => ?_
  refine prolongs_dropWhite.rest_bind fun _ => prolongs_skip.bind fun _ => ?_
  refine .ite (fun _ => .refuse_bind) fun _ => ?_
  exact .ite (fun _ => .refuse_bind) fun _ => .pure

theorem prolongs_charOf (n : Nat) : Prolongs (charOf n) fun _ => charOf n := by
  unfold charOf
  by_cases h : n.isValidChar
  · rw [dif_pos h]
    exact .pure
  · rw [dif_neg h]
    exact .refuse

theorem prolongs_readHexDigits (n : Nat) (done : List Char) :
    Prolongs (readHexDigits n done) fun _ => readHexDigits n done := by
  induction n generalizing done with
  | zero => exact .pure
  | succ n ih =>
    refine prolongs_skip.bind fun _ => Prolongs.next.bind fun c => ?_
    exact .ite (fun _ => ih _) fun _ => .refuse

theorem prolongs_readCodePoint (n : Nat) :
    Prolongs (readCodePoint n) fun _ => readCodePoint n := by
  have hplain : Prolongs (do
      let l ← readHexDigits n []
      return (← charOf (hexNumber l), n == 2)) fun _ => do
      let l ← readHexDigits n []
      return (← charOf (hexNumber l), n == 2) :=
    (prolongs_readHexDigits n []).bind fun l => (prolongs_charOf _).bind fun _ => .pure
  refine prolongs_skip.bind fun _ => Prolongs.peek (fun c => ?_) hplain hplain
  refine .ite (fun _ => ?_) fun _ => hplain
  refine prolongs_nextSkip.bind fun _ => (prolongs_readDigits rfl _).rest_bind fun l => ?_
  refine .ite (fun _ => .refuse_bind) fun _ => ?_
  exact (Prolongs.expect _).bind fun _ => (prolongs_charOf _).bind fun _ => .pure

end HttpScript.Pattern
