import HttpScript.Proofs.Grammar.Reached

/-! # Backtracking is clean and reading ends

A rule that fails where another one may be tried leaves no trace but its error. So the repetitions
and alternatives of the grammar can be told as if every attempt began in the same place:

* `Repeats`: the rounds of a repetition. `Rule.zeroOrMore_repeats`: every repetition comes to an end
  in this way, and a round that is followed by another one has read something.
* `Attempted`: alternatives that have failed one after the other.
* `PartsRead`: the rounds in which the parts of a multipart form are read, which nothing stops but
  the end of the text and a line that is no part. Each of them reads something
  (`Tracks.filePart_lt`, `Tracks.fieldLine_lt`), so they come to an end too.
* `orderly_reading`: all of this for every text, with what it gives for whole scripts. -/

namespace HttpScript.Grammar

open Script

variable {α : Type} {text : List Char} {i : Nat} {s : State}

/-! ### Going back -/

/-- Going back to a place from which reading could go on changes nothing but the log. -/
theorem backtrack_of_fresh (h : s.cursor.exhausted = false) (t : State) (e : ParseError) :
    t.backtrack s.cursor e = ⟨s.cursor, e :: t.log⟩ := by
  have hclear : s.cursor.clear = s.cursor := by
    unfold Cursor.clear
    rw [← h]
  rw [State.backtrack, hclear]

theorem optional_of_error {r : Rule α} {t : State} {e : ParseError}
    (h : s.cursor.exhausted = false) (hr : r s = .error e t) :
    Rule.optional r s = .ok none ⟨s.cursor, e :: t.log⟩ := by
  rw [Rule.optional, hr, ← backtrack_of_fresh h]

theorem optional_of_ok {r : Rule α} {t : State} {a : α} (hr : r s = .ok a t) :
    Rule.optional r s = .ok (some a) t := by
  rw [Rule.optional, hr]

/-! ### Alternatives -/

/-- **Alternatives that have failed**, one after the other and each in the same place. -/
inductive Attempted : List (Rule α) → State → State → Prop
  | nil (s : State) : Attempted [] s s
  | cons {r : Rule α} {rules : List (Rule α)} {s t u : State} {e : ParseError}
    (h : r s = .error e t) (hrest : Attempted rules ⟨s.cursor, e :: t.log⟩ u) :
    Attempted (r :: rules) s u

theorem Attempted.cursor_eq {rules : List (Rule α)} {u : State} (h : Attempted rules s u) :
    u.cursor = s.cursor := by
  induction h with
  | nil => rfl
  | cons _ _ ih => exact ih

/-- What a choice comes to: the first alternative that succeeds, or the failure of all. -/
inductive Chosen (rules : List (Rule α)) (s : State) : EStateM.Result ParseError State α → Prop
  | found {before after : List (Rule α)} {r : Rule α} {u t : State} {a : α}
    (hrules : rules = before ++ r :: after) (hbefore : Attempted before s u) (h : r u = .ok a t) :
    Chosen rules s (.ok a t)
  | none {u : State} (h : Attempted rules s u) (e : ParseError) : Chosen rules s (.error e u)

theorem choice_chosen (rules : List (Rule α)) (h : s.cursor.exhausted = false) :
    Chosen rules s (Rule.choice rules s) := by
  suffices ∀ failures, Chosen rules s (Rule.choiceFrom s.cursor rules failures s) from this []
  induction rules generalizing s with
  | nil =>
    intro failures
    unfold Rule.choiceFrom
    split
    · exact .none (.nil s) _
    · exact .none (.nil s) _
  | cons r rules ih =>
    intro failures
    unfold Rule.choiceFrom
    cases hr : r s with
    | ok a t => exact .found (show r :: rules = [] ++ r :: rules from rfl) (.nil s) hr
    | error e t =>
      have hrest := ih (s := ⟨s.cursor, e :: t.log⟩) h (failures ++ [e])
      dsimp only at hrest ⊢
      rw [backtrack_of_fresh h]
      -- an alternative found among the rest has one more failed alternative before it
      generalize Rule.choiceFrom s.cursor rules _ _ = outcome at hrest
      cases hrest with
      | found hrules hbefore h => exact .found (by rw [hrules]; rfl) (.cons hr hbefore) h
      | none h e' => exact .none (.cons hr h) e'

/-! ### Repetition -/

/-- **The rounds of a repetition.** It ends at the end of the text, where the rule fails, or where
the rule has read nothing. -/
inductive Repeats (r : Rule α) : State → List α → State → Prop
  | atEnd {s : State} (hleft : s.cursor.left = 0) : Repeats r s [] s
  | failed {s t : State} {e : ParseError} (hleft : s.cursor.left ≠ 0) (h : r s = .error e t) :
    Repeats r s [] ⟨s.cursor, e :: t.log⟩
  | still {s t : State} {a : α} (hleft : s.cursor.left ≠ 0) (h : r s = .ok a t)
    (hsame : t.cursor.position.offset = s.cursor.position.offset) : Repeats r s [a] t
  | further {s t u : State} {a : α} {l : List α} (hleft : s.cursor.left ≠ 0) (h : r s = .ok a t)
    (hlt : s.cursor.position.offset < t.cursor.position.offset) (hrest : Repeats r t l u) :
    Repeats r s (a :: l) u

theorem State.StandsAt.left_eq (h : s.StandsAt text i) : s.cursor.left = text.length - i := by
  rw [Cursor.left, h.offset_eq, ← h.text_eq, Array.length_toList]

theorem Rule.zeroOrMore_eq (r : Rule α) (s : State) : Rule.zeroOrMore r s =
    if s.cursor.left = 0 then .ok [] s
    else match r s with
      | .error e t => .ok [] (t.backtrack s.cursor e)
      | .ok a t =>
        if t.cursor.left < s.cursor.left then
          match Rule.zeroOrMore r t with
          | .error e u => .error e u
          | .ok l u => .ok (a :: l) u
        else .ok [a] t := by
  rw [Rule.zeroOrMore, Rule.collect, Rule.optionalBeforeEnd, Rule.optional]
  by_cases hleft : s.cursor.left = 0
  · rw [if_pos hleft, if_pos hleft]
  · rw [if_neg hleft, if_neg hleft]
    cases r s <;> rfl

/-- **A repetition ends.** It never fails, and its rounds are those of `Repeats`. -/
theorem Rule.zeroOrMore_repeats {r : Rule α} (hr : ∀ j, Tracks text j r fun _ _ => True)
    (hs : s.StandsAt text i) : ∃ l t, Rule.zeroOrMore r s = .ok l t ∧ Repeats r s l t := by
  -- by induction on what is left to read
  generalize hn : s.cursor.left = n
  induction n using Nat.strongRecOn generalizing s i with
  | ind n ih =>
    rw [Rule.zeroOrMore_eq]
    by_cases hleft : s.cursor.left = 0
    · exact ⟨[], s, if_pos hleft, .atEnd hleft⟩
    rw [if_neg hleft]
    cases h : r s with
    | error e t =>
      exact ⟨[], _, congrArg (EStateM.Result.ok []) (backtrack_of_fresh hs.fresh t e),
        .failed hleft h⟩
    | ok a t =>
      obtain ⟨j, hij, ht, -⟩ := (hr i).ok hs h
      have hend := ht.exact.offset_le
      have hleft_s := hs.left_eq
      have hleft_t := ht.left_eq
      have hoffset_s := hs.offset_eq
      have hoffset_t := ht.offset_eq
      by_cases hlt : t.cursor.left < s.cursor.left
      · obtain ⟨l, u, hrest, hrepeats⟩ := ih _ (by omega) ht rfl
        refine ⟨a :: l, u, ?_, .further hleft h (by omega) hrepeats⟩
        simp only [hlt, if_true, hrest]
      · refine ⟨[a], t, ?_, .still hleft h (by omega)⟩
        simp only [hlt, if_false]

theorem Rule.oneOrMore_repeats {r : Rule α} (hr : ∀ j, Tracks text j r fun _ _ => True)
    (hs : s.StandsAt text i) :
    (∃ e t, r s = .error e t ∧ Rule.oneOrMore r s = .error e t) ∨
      ∃ a t l u, r s = .ok a t ∧ Repeats r t l u ∧ Rule.oneOrMore r s = .ok (a :: l) u := by
  have hbind : Rule.oneOrMore r s = EStateM.bind r
      (fun a => Rule.zeroOrMore r >>= fun l => pure (a :: l)) s := rfl
  rw [hbind]
  unfold EStateM.bind
  cases h : r s with
  | error e t => exact .inl ⟨e, t, rfl, rfl⟩
  | ok a t =>
    obtain ⟨j, -, ht, -⟩ := (hr i).ok hs h
    obtain ⟨l, u, hrest, hrepeats⟩ := zeroOrMore_repeats hr ht
    refine .inr ⟨a, t, l, u, rfl, hrepeats, ?_⟩
    show EStateM.bind (Rule.zeroOrMore r) (fun l => pure (a :: l)) t = _
    unfold EStateM.bind
    rw [hrest]
    rfl

/-! ### Parts of multipart forms -/

namespace Tracks

theorem field_lt : Tracks text i Grammar.field fun _ j => i < j := by
  refine position.bind fun _ j hj _ => keyString.bind fun _ k _ hkey =>
    later (Q := fun _ _ => True) ?_ (Nat.lt_of_le_of_lt hj hkey)
  exact colon.bind fun _ _ _ _ => valueString.bind fun _ _ _ _ => pure trivial

theorem fieldLine_lt : Tracks text i Grammar.fieldLine fun _ j => i < j := by
  refine leadingLines.bind fun _ j hj _ => field_lt.bind fun _ k _ hfield =>
    later (Q := fun _ _ => True) ?_ (Nat.lt_of_le_of_lt hj hfield)
  exact lineEnd.bind fun _ _ _ _ => pure trivial

theorem filePart_lt : Tracks text i Grammar.filePart fun _ j => i < j := by
  refine leadingLines.bind fun _ j hj _ => position.bind fun _ k hk _ => keyString.bind
    fun _ m _ hkey => later (Q := fun _ _ => True) ?_
    (Nat.lt_of_le_of_lt (Nat.le_trans hj hk) hkey)
  exact colon.bind fun _ _ _ _ => (literal _).bind fun _ _ _ _ => blanks.bind fun _ _ _ _ =>
    filename.bind fun _ _ _ _ => blanks.bind fun _ _ _ _ => (literal _).bind fun _ _ _ _ =>
    blanks.bind fun _ _ _ _ => contentType.bind fun _ _ _ _ => lineEnd.bind fun _ _ _ _ =>
    pure trivial

theorem part_lt : Tracks text i Grammar.part fun _ j => i < j := by
  refine filePart_lt.optional.bind fun o j _ ho => ?_
  rcases ho with ⟨rfl, rfl⟩ | ⟨p, rfl, hlt⟩
  · exact fieldLine_lt.map fun _ _ _ h => h
  · exact pure hlt

end Tracks

/-- **The rounds in which parts are read.** Each of them tries a file part and then a text part.
Nothing but the end of the text and a line that is no part ends them. -/
inductive PartsRead : State → List Part → State → Prop
  | atEnd {s : State} (hleft : s.cursor.left = 0) : PartsRead s [] s
  | stopped {s t u : State} {e e' : ParseError} (hleft : s.cursor.left ≠ 0)
    (hfile : filePart s = .error e t) (htext : fieldLine ⟨s.cursor, e :: t.log⟩ = .error e' u) :
    PartsRead s [] ⟨s.cursor, e' :: u.log⟩
  | file {s t u : State} {p : FilePart} {l : List Part} (hleft : s.cursor.left ≠ 0)
    (hfile : filePart s = .ok p t) (hrest : PartsRead t l u) : PartsRead s (.file p :: l) u
  | text {s t u v : State} {e : ParseError} {f : Field} {l : List Part} (hleft : s.cursor.left ≠ 0)
    (hfile : filePart s = .error e t) (htext : fieldLine ⟨s.cursor, e :: t.log⟩ = .ok f u)
    (hrest : PartsRead u l v) : PartsRead s (.text f :: l) v

theorem part_eq (h : s.cursor.exhausted = false) : part s =
    match filePart s with
    | .ok p t => .ok (.file p) t
    | .error e t =>
      match fieldLine ⟨s.cursor, e :: t.log⟩ with
      | .ok f u => .ok (.text f) u
      | .error e' u => .error e' u := by
  show EStateM.bind (Rule.optional filePart) _ s = _
  unfold EStateM.bind
  cases hfile : filePart s with
  | ok p t => rw [optional_of_ok hfile]; rfl
  | error e t =>
    rw [optional_of_error h hfile]
    show EStateM.map Part.text fieldLine ⟨s.cursor, e :: t.log⟩ = _
    unfold EStateM.map
    dsimp only
    cases fieldLine ⟨s.cursor, e :: t.log⟩ <;> rfl

/-- **The parts of a multipart form are read in such rounds**, as every part has been read that is
followed by another round. -/
theorem Repeats.partsRead {l : List Part} {t : State} (h : Repeats part s l t)
    (hs : s.StandsAt text i) : PartsRead s l t := by
  induction h generalizing i with
  | atEnd hleft => exact .atEnd hleft
  | @failed s t e hleft h =>
    rw [part_eq hs.fresh] at h
    cases hfile : filePart s with
    | ok p u => rw [hfile] at h; cases h
    | error e' u =>
      simp only [hfile] at h
      cases htext : fieldLine ⟨s.cursor, e' :: u.log⟩ with
      | ok f v => rw [htext] at h; cases h
      | error e'' v =>
        rw [htext] at h
        cases h
        exact .stopped hleft hfile htext
  | @still s t p hleft h hsame =>
    obtain ⟨j, -, ht, hlt⟩ := Tracks.part_lt.ok hs h
    rw [hs.offset_eq, ht.offset_eq] at hsame
    omega
  | @further s t u p l hleft h hlt hrest ih =>
    obtain ⟨j, -, ht, -⟩ := Tracks.part_lt.ok hs h
    have hparts := ih ht
    rw [part_eq hs.fresh] at h
    cases hfile : filePart s with
    | ok f v =>
      rw [hfile] at h
      cases h
      exact .file hleft hfile hparts
    | error e v =>
      simp only [hfile] at h
      cases htext : fieldLine ⟨s.cursor, e :: v.log⟩ with
      | error e' x => rw [htext] at h; cases h
      | ok f x =>
        rw [htext] at h
        cases h
        exact .text hleft hfile htext hparts

/-! ### Whole scripts -/

/-- What is left to read is nothing at the end of the text only. -/
theorem State.StandsAt.peek?_eq_none_iff (h : s.StandsAt text i) :
    s.cursor.peek? = none ↔ i = text.length := by
  have hend := h.exact.offset_le
  have hsize : s.cursor.text.size = text.length := by rw [← h.text_eq, Array.length_toList]
  rw [Cursor.peek?, Array.getElem?_eq_none_iff, hsize, h.offset_eq]
  rw [h.offset_eq] at hend
  omega

/-- **Reading a script comes to an end**: behind its entries and the lines that follow them. -/
theorem script_repeats (text : String) : ∃ entries s comments t,
    Repeats entry (.ofText text) entries s ∧ Repeats lineEnd s comments t ∧
      Script.rule (.ofText text) = .ok ⟨entries⟩ t ∧ ∃ i, t.StandsAt text.toList i := by
  have hstart : Reached text (.ofText text) := .start
  obtain ⟨i, hi⟩ := hstart.standsAt
  obtain ⟨entries, s, hentries, hentriesRounds⟩ :=
    Rule.zeroOrMore_repeats (fun j => IsRule.entry.tracks text.toList j) hi
  have hs : Reached text s := .behind (.zeroOrMore .entry) hstart hentries
  obtain ⟨j, hj⟩ := hs.standsAt
  obtain ⟨comments, t, hlines, hlinesRounds⟩ :=
    Rule.zeroOrMore_repeats (fun j => IsRule.lineEnd.tracks text.toList j) hj
  refine ⟨entries, s, comments, t, hentriesRounds, hlinesRounds, ?_,
    (Reached.behind (.zeroOrMore .lineEnd) hs hlines).standsAt⟩
  show EStateM.bind (Rule.zeroOrMore entry) _ (State.ofText text) = _
  unfold EStateM.bind
  rw [hentries]
  show EStateM.bind (Rule.zeroOrMore lineEnd) _ s = _
  unfold EStateM.bind
  rw [hlines]
  rfl

/-- A rule for single pieces has read something wherever it yields one. -/
def Advances (text : String) (r : Rule (Option α)) : Prop :=
  ∀ (s t : State) (a : α), Reached text s → r s = .ok (some a) t →
    s.cursor.position.offset < t.cursor.position.offset

/-- **Reading a text is orderly.** -/
structure Orderly (text : String) : Prop where
  /-- A rule that succeeds ends behind its beginning and in the text, and reading can go on. -/
  succeeds : ∀ {α : Type} {r : Rule α} {s t : State} {a : α}, Reached text s → IsRule r →
    r s = .ok a t → s.cursor.position.offset ≤ t.cursor.position.offset ∧
      t.cursor.position.offset ≤ text.length ∧ t.cursor.exhausted = false
  /-- A rule that fails where it is optional changes nothing but the log. -/
  optional : ∀ {α : Type} {r : Rule α} {s t : State} {e : ParseError}, Reached text s →
    r s = .error e t → Rule.optional r s = .ok none ⟨s.cursor, e :: t.log⟩
  /-- Alternatives that fail change nothing but the log. -/
  choice : ∀ {α : Type} (rules : List (Rule α)) {s : State}, Reached text s →
    Chosen rules s (Rule.choice rules s) ∧
      ∀ before u, Attempted (α := α) before s u → u.cursor = s.cursor
  /-- A repetition ends. Where its rule fails nothing is changed but the log, and where it goes on
  something has been read. -/
  zeroOrMore : ∀ {α : Type} {r : Rule α} {s : State}, Reached text s → IsRule r →
    ∃ l t, Rule.zeroOrMore r s = .ok l t ∧ Repeats r s l t
  oneOrMore : ∀ {α : Type} {r : Rule α} {s : State}, Reached text s → IsRule r →
    (∃ e t, r s = .error e t ∧ Rule.oneOrMore r s = .error e t) ∨
      ∃ a t l u, r s = .ok a t ∧ Repeats r t l u ∧ Rule.oneOrMore r s = .ok (a :: l) u
  /-- The parts of a multipart form come to an end although nothing demands that they read. -/
  parts : ∀ {s : State}, Reached text s →
    ∃ l t, Rule.zeroOrMore part s = .ok l t ∧ PartsRead s l t
  /-- Every part has read something. -/
  file : ∀ {s t : State} {p : FilePart}, Reached text s → filePart s = .ok p t →
    s.cursor.position.offset < t.cursor.position.offset
  field : ∀ {s t : State} {f : Field}, Reached text s → fieldLine s = .ok f t →
    s.cursor.position.offset < t.cursor.position.offset
  /-- So have the characters of a key, a value, a quoted string and a raw body. -/
  characters : Advances text keyChar ∧ Advances text valueChar ∧ Advances text quotedChar ∧
    Advances text rawChar
  /-- Reading ends. It yields the entries if the whole text has been read, and only then. -/
  ends : ∃ entries s comments t, Repeats entry (.ofText text) entries s ∧
    Repeats lineEnd s comments t ∧
    ((t.cursor.position.offset = text.length ∧ Script.read? text = .ok ⟨entries⟩) ∨
      (t.cursor.position.offset < text.length ∧ ∃ e, Script.read? text = .error e))

theorem advances_of_tracks {text : String} {r : Rule (Option α)}
    (h : ∀ i, Tracks text.toList i r fun o j => ∀ a ∈ o, i < j) : Advances text r :=
  fun _ _ a hs hr => hs.yields h hr a rfl

/-- **Reading every text is orderly.** -/
theorem orderly_reading (text : String) : Orderly text where
  succeeds hs hr h := hs.succeeds hr h
  optional hs h := optional_of_error hs.fresh h
  choice rules _ hs := ⟨choice_chosen rules hs.fresh, fun _ _ h => h.cursor_eq⟩
  zeroOrMore hs hr := by
    obtain ⟨i, hs⟩ := hs.standsAt
    exact Rule.zeroOrMore_repeats (fun j => hr.tracks text.toList j) hs
  oneOrMore hs hr := by
    obtain ⟨i, hs⟩ := hs.standsAt
    exact Rule.oneOrMore_repeats (fun j => hr.tracks text.toList j) hs
  parts hs := by
    obtain ⟨i, hs⟩ := hs.standsAt
    obtain ⟨l, t, hread, hrounds⟩ :=
      Rule.zeroOrMore_repeats (fun j => IsRule.part.tracks text.toList j) hs
    exact ⟨l, t, hread, hrounds.partsRead hs⟩
  file hs h := hs.yields (fun _ => Tracks.filePart_lt) h
  field hs h := hs.yields (fun _ => Tracks.fieldLine_lt) h
  characters := ⟨advances_of_tracks fun _ => Tracks.keyChar,
    advances_of_tracks fun i =>
      (Tracks.valueChar (Nat.le_refl i)).mono fun _ _ _ h v hv => (h v hv).1,
    advances_of_tracks fun _ => Tracks.quotedChar, advances_of_tracks fun _ => Tracks.rawChar⟩
  ends := by
    obtain ⟨entries, s, comments, t, hentries, hlines, hrule, i, ht⟩ := script_repeats text
    refine ⟨entries, s, comments, t, hentries, hlines, ?_⟩
    have hend := ht.exact.offset_le
    have hlength : text.toList.length = text.length := String.length_toList
    rw [ht.offset_eq] at hend ⊢
    unfold Script.read?
    rw [hrule]
    by_cases hi : i = text.toList.length
    · refine .inl ⟨by omega, ?_⟩
      simp only [ht.peek?_eq_none_iff.mpr hi]
    · refine .inr ⟨by omega, ?_⟩
      obtain ⟨c, hc⟩ := Option.ne_none_iff_exists'.mp fun h => hi (ht.peek?_eq_none_iff.mp h)
      simp only [hc]
      exact ⟨_, rfl⟩

/-- A file part and a text part are read in two rounds. -/
theorem orderly_reading_parts :
    ∃ t, PartsRead (.ofText "a: file,b;\nc: d\n")
      [.file ⟨"a", "b", none, ⟨0, 1, 1⟩⟩, .text ⟨"c", ⟨"d", ⟨14, 2, 4⟩⟩, ⟨11, 2, 1⟩⟩] t := by
  obtain ⟨l, t, h, hparts⟩ := (orderly_reading "a: file,b;\nc: d\n").parts .start
  have hl : (match Rule.zeroOrMore part (.ofText "a: file,b;\nc: d\n") with
    | EStateM.Result.ok l _ => l
    | EStateM.Result.error _ _ => []) =
      [.file ⟨"a", "b", none, ⟨0, 1, 1⟩⟩, .text ⟨"c", ⟨"d", ⟨14, 2, 4⟩⟩, ⟨11, 2, 1⟩⟩] := by
    decide +kernel
  rw [h] at hl
  obtain rfl : l = _ := hl
  exact ⟨t, hparts⟩

end HttpScript.Grammar
