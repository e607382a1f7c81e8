import HttpScript.Proofs.Grammar.Leaves
import HttpScript.Proofs.Grammar.Logging
import HttpScript.Proofs.Grammar.Backtracking

/-! # Parts of multipart forms as they are written

A line of a multipart form is tried as a file part and then as a text part. `Part.StandsIn` says how
a part is written in the text that it was read from.

* `Labels`, `OpensFile`: a key with its colon, and the opening of a line with a file.
* `Leaves.filePart`, `Leaves.fieldLine`: what stood there.
* `filePart_of_opensFile`: a line that is read as a field and opens a file is read as a file part.
* `Script.parts_written`: all parts of a script are written as they were read, so that a text part
  can begin with `file,` only where the name of the file is missing, refers to a parent directory or
  has no semicolon behind it. `Script.read?_parent`: such a line is read. -/

namespace HttpScript

namespace Grammar

open Script Text

variable {α β : Type}

/-! ### Lines -/

/-- **A key with its colon**, in front of `value`. -/
def Labels (key : String) (l value : List Char) : Prop :=
  key ≠ "" ∧ ∃ k b b', l = k ++ (b ++ ':' :: (b' ++ value)) ∧
    Spells isKeyChar keyEscapes key.toList k ∧
    (∀ c ∈ b, isBlank c = true) ∧ ∀ c ∈ b', isBlank c = true

/-- **The opening of a line with a file**, in front of `k`. -/
def OpensFile (name : String) (l k : List Char) : Prop :=
  IsFilename name ∧ ∃ b b', l = "file,".toList ++ (b ++ (name.toList ++ (b' ++ ';' :: k))) ∧
    (∀ c ∈ b, isBlank c = true) ∧ ∀ c ∈ b', isBlank c = true

/-- **A value at the end of a line.** -/
def EndsWithValue (v l : List Char) : Prop :=
  ∃ w k m, l = w ++ k ∧ WritesValue v w ∧ EndsLine k m

end Grammar

namespace Script

open Grammar Text

/-- **How a part is written** in a text: a file part with its name and its content type, a text part
with a value that does not open a file. -/
def Part.StandsIn (text : List Char) : Part → Prop
  | .file p => ∃ l b k, Labels p.key (text.drop p.position.offset) l ∧
      OpensFile p.filename l (b ++ k) ∧ (∀ c ∈ b, isBlank c = true) ∧
      EndsWithValue (p.contentType.getD "").toList k ∧ p.contentType ≠ some ""
  | .text f => Labels f.key (text.drop f.position.offset) (text.drop f.value.position.offset) ∧
      EndsWithValue f.value.value.toList (text.drop f.value.position.offset) ∧
      ∀ name k, ¬ OpensFile name (text.drop f.value.position.offset) k

end Script

namespace Grammar

open Script Text

variable {text : Array Char} {l : List Char}

/-! ### What was read -/

namespace Leaves

/-- **What a field stands for in the text.** -/
theorem fieldLine : Leaves text l fieldLine fun f _ =>
    Labels f.key (text.toList.drop f.position.offset) (text.toList.drop f.value.position.offset) ∧
      EndsWithValue f.value.value.toList (text.toList.drop f.value.position.offset) := by
  refine leadingLines.bind fun _ l₁ _ => (bind (Q := fun f k =>
    Labels f.key (text.toList.drop f.position.offset) (text.toList.drop f.value.position.offset) ∧
      ∃ w, text.toList.drop f.value.position.offset = w ++ k ∧
        WritesValue f.value.value.toList w) ?_ fun f k ⟨hlabel, w, hvalue, hw⟩ => ?_)
  · refine position.bind fun p _ ⟨hp, hplace⟩ => ?_
    subst hp
    refine keyString.bind fun key _ ⟨hkey, u, hu, hspell⟩ => ?_
    refine colon.bind fun _ _ ⟨b, b', hb, hblank, hblank', _⟩ => ?_
    refine valueString.bind fun v k ⟨hv, w, hw, hwrites⟩ => pure ⟨⟨hkey, u, b, b', ?_, hspell,
      hblank, hblank'⟩, w, ?_, hwrites⟩
    · rw [hplace, hu, hb, hv]
    · rw [hv, hw]
  · exact lineEnd.bind fun _ m hm => pure ⟨hlabel, w, k, m, hvalue, hw, hm⟩

theorem filename : Leaves text l filename fun name k =>
    l = name.toList ++ k ∧ IsFilename name := by
  refine position.bind fun p m ⟨hm, _⟩ => ?_
  subst hm
  refine (readWhile isPathChar).bind fun name k ⟨hl, hpath, _⟩ => ?_
  refine .guardAt fun hempty => .guardAt fun hdots =>
    pure ⟨?_, isFilename_ofList hpath hempty hdots⟩
  rw [String.toList_ofList]
  exact hl

theorem contentType : Leaves text l contentType fun o k =>
    ∃ w, l = w ++ k ∧ WritesValue (o.getD "").toList w ∧ o ≠ some "" := by
  refine valueString.optional.bind fun o k ho => pure ?_
  rcases ho with ⟨rfl, rfl⟩ | ⟨t, rfl, -, w, hl, hw⟩
  · exact ⟨[], rfl, ⟨.nil, headNot_nil _, headNot_nil _⟩, by simp⟩
  · refine ⟨w, hl, ?_, ?_⟩
    · by_cases ht : t.value = "" <;> simpa [Option.filter, ht] using hw
    · simp [Option.filter_eq_some_iff]

/-- **What a file part stands for in the text.** -/
theorem filePart : Leaves text l filePart fun p _ => (Part.file p).StandsIn text.toList := by
  refine leadingLines.bind fun _ _ _ => position.bind fun p _ ⟨hp, hplace⟩ => ?_
  subst hp
  refine keyString.bind fun key _ ⟨hkey, u, hu, hspell⟩ => ?_
  refine colon.bind fun _ value ⟨b, b', hb, hblank, hblank', _⟩ => ?_
  refine (literal _).bind fun _ _ hfile => blanks.bind fun _ _ ⟨c, hc, hc', _⟩ => ?_
  refine filename.bind fun name _ ⟨hname, hisname⟩ => blanks.bind fun _ _ ⟨d, hd, hd', _⟩ => ?_
  refine (literal _).bind fun _ _ hsemicolon => blanks.bind fun _ l' ⟨e, he, he', hend⟩ => ?_
  have hlabel : Labels key (text.toList.drop p.offset) value :=
    ⟨hkey, u, b, b', by rw [hplace, hu, hb], hspell, hblank, hblank'⟩
  have hopens : OpensFile name value (e ++ l') :=
    ⟨hisname, c, d, by rw [hfile, hc, hname, hd, hsemicolon, he]; rfl, hc', hd'⟩
  refine contentType.bind fun o k ⟨w, hw, hwrites, ho⟩ => lineEnd.bind fun _ m hm => ?_
  exact pure ⟨value, e, l', hlabel, hopens, he', ⟨w, k, m, hw, hwrites, hm⟩, ho⟩

end Leaves

/-! ### The tail of a line with a file -/

/-- What stands behind plain characters of a value is the spelling of what is left of it. -/
theorem Spells.drop {v u w : List Char} (h : Spells isValueChar valueEscapes v (u ++ w))
    (hu : ∀ c ∈ u, isValueChar c = true) : ∃ v', Spells isValueChar valueEscapes v' w := by
  induction u generalizing v with
  | nil => exact ⟨v, h⟩
  | cons c u ih =>
    rw [List.cons_append] at h
    have hc := hu c (List.mem_cons_self ..)
    generalize hl : c :: (u ++ w) = l at h
    cases h with
    | nil => cases hl
    | plain _ hw =>
      obtain ⟨rfl, rfl⟩ := List.cons.inj hl
      exact ih hw fun x hx => hu x (List.mem_cons_of_mem _ hx)
    | escape _ _ =>
      obtain ⟨rfl, -⟩ := List.cons.inj hl
      cases hc

/-- Behind its blanks, the end of a line does not go on with a value. -/
theorem EndsLine.split {k m : List Char} (h : EndsLine k m) :
    ∃ b n, k = b ++ n ∧ (∀ c ∈ b, isBlank c = true) ∧ HeadNot goesOn n ∧ EndsLine n m := by
  obtain ⟨b, o, e, hl, hb, ho, he⟩ := h
  refine ⟨b, _, hl, hb, ?_, [], o, e, rfl, by simp, ho, he⟩
  cases o with
  | none => exact he.headNot rfl rfl
  | some c =>
    obtain ⟨n, hn⟩ := List.head?_eq_some_iff.mp (ho c rfl).head
    simp only [Option.elim_some, hn]
    exact headNot_cons.mpr rfl

theorem EndsLine.tail {b k m : List Char} (h : EndsLine (b ++ k) m)
    (hb : ∀ c ∈ b, isBlank c = true) (hk : HeadNot isBlank k) : EndsLine k m := by
  obtain ⟨b', n, hl, hb', hn, hend⟩ := h.split
  have hblank : HeadNot isBlank n := hn.mono fun c hc => by
    simp only [isBlank, Bool.or_eq_true, beq_iff_eq] at hc
    rcases hc with rfl | rfl <;> rfl
  have hdrop := congrArg (List.dropWhile isBlank) hl
  rw [dropWhile_append_of_headNot hb hk, dropWhile_append_of_headNot hb' hblank] at hdrop
  rwa [hdrop]

theorem EndsLine.not_mem {u k m : List Char} (h : EndsLine (u ++ k) m)
    (hu : ∀ c ∈ u, isValueChar c = true) {c : Char} (hc : c ∈ u) : isBlank c = true := by
  obtain ⟨b, n, hl, hb, hn, -⟩ := h.split
  rcases List.append_eq_append_iff.mp hl with ⟨v, rfl, -⟩ | ⟨v, rfl, rfl⟩
  · exact hb c (List.mem_append_left _ hc)
  · cases v with
    | nil => exact hb c (by simpa using hc)
    | cons d v =>
      have hd := hu d (by simp)
      have hstop : goesOn d = false := headNot_cons.mp hn
      simp only [goesOn, Bool.not_eq_false', Bool.or_eq_true, beq_iff_eq] at hstop
      rcases hstop with rfl | hbreak
      · cases hd
      · simp [isValueChar, hbreak] at hd

theorem Reads.endsLine {k m : List Char} (h : EndsLine k m) :
    Reads text Grammar.lineEnd k m fun _ => True := by
  obtain ⟨b, o, e, rfl, hb, ho, he⟩ := h
  exact (Reads.lineEnd hb ho he).mono fun _ _ => trivial

/-- **What follows the semicolon of a line with a file** ends with a value if the whole does. -/
theorem EndsWithValue.behind {v p b k : List Char} (h : EndsWithValue v (p ++ ';' :: (b ++ k)))
    (hp : ∀ c ∈ p, isValueChar c = true) (hb : ∀ c ∈ b, isBlank c = true) (hk : HeadNot isBlank k) :
    ∃ v', EndsWithValue v' k := by
  obtain ⟨w, r, m, hl, hw, hend⟩ := h
  -- where the value goes on there, what is left of it; and nothing where it has ended
  have hempty : ∀ {u : List Char}, (∀ c ∈ u, isBlank c = true) → r = u ++ k →
      ∃ v', EndsWithValue v' k := fun hu hr =>
    ⟨[], [], k, m, rfl, ⟨.nil, headNot_nil _, headNot_nil _⟩, (hr ▸ hend).tail hu hk⟩
  rw [show p ++ ';' :: (b ++ k) = (p ++ [';']) ++ (b ++ k) by simp] at hl
  rcases List.append_eq_append_iff.mp hl with ⟨u, rfl, hrest⟩ | ⟨u, hp', rfl⟩
  · rcases List.append_eq_append_iff.mp hrest with ⟨w', rfl, rfl⟩ | ⟨u', rfl, hr⟩
    · have hplain : ∀ c ∈ p ++ [';'] ++ b, isValueChar c = true := by
        simp only [List.mem_append, List.mem_singleton]
        rintro c ((hc | rfl) | hc)
        · exact hp c hc
        · rfl
        · exact isValueChar_of_isBlank (hb c hc)
      obtain ⟨v', hspells⟩ := Spells.drop (by simpa using hw.spells) hplain
      refine ⟨v', w', r, m, rfl, ⟨hspells, ?_, ?_⟩, hend⟩
      · exact fun c hc => hk c (by rw [List.head?_append, hc]; rfl)
      · rw [← List.append_assoc] at hw
        exact hw.last.of_reverse_append
    · exact hempty (fun c hc => hb c (List.mem_append_right _ hc)) hr
  · rcases List.eq_nil_or_concat u with rfl | ⟨u', x, rfl⟩
    · exact hempty hb rfl
    · -- the value cannot have ended before the semicolon, which is no part of the end of a line
      rw [List.concat_eq_append, ← List.append_assoc] at hp'
      obtain ⟨rfl, hx⟩ := List.append_inj' hp' rfl
      obtain rfl : ';' = x := (List.cons.inj hx).1
      have hplain : ∀ c ∈ u' ++ [';'], isValueChar c = true := by
        simp only [List.mem_append, List.mem_singleton]
        rintro c (hc | rfl)
        · exact hp c (List.mem_append_right _ hc)
        · rfl
      have hblank : isBlank ';' = true := EndsLine.not_mem (by simpa using hend) hplain (by simp)
      cases hblank

/-! ### One line, two rules -/

theorem bind_of_ok {r : Rule α} {f : α → Rule β} {s t : State} {a : α} (h : r s = .ok a t) :
    (r >>= f) s = f a t := by
  show EStateM.bind r f s = f a t
  unfold EStateM.bind
  rw [h]

theorem ok_of_bind {r : Rule α} {f : α → Rule β} {s u : State} {b : β}
    (h : (r >>= f) s = .ok b u) : ∃ a t, r s = .ok a t ∧ f a t = .ok b u := by
  change EStateM.bind r f s = .ok b u at h
  unfold EStateM.bind at h
  split at h
  · exact ⟨_, _, ‹_›, h⟩
  · cases h

theorem Reads.ok {r : Rule α} {m : List Char} {Q : α → Prop} (h : Reads text r l m Q) {s : State}
    (hs : s.Before text l) : ∃ a t, r s = .ok a t := by
  have hr := h s hs
  cases heq : r s with
  | ok a t => exact ⟨a, t, rfl⟩
  | error e t => rw [heq] at hr; exact hr.elim

/-- What opens a file is read as such, up to the blanks in front of the content type. -/
theorem Reads.opensFile {γ : Type} {name : String} {k : List Char} {f : String → Rule γ}
    {m : List Char} {Q : γ → Prop} (h : OpensFile name l k) (hf : Reads text (f name) k m Q) :
    Reads text (Grammar.literal "file," >>= fun _ => Grammar.blanks >>= fun _ =>
      Grammar.filename >>= fun filename => Grammar.blanks >>= fun _ =>
      Grammar.literal ";" >>= fun _ => f filename) l m Q := by
  obtain ⟨hname, b, b', rfl, hb, hb'⟩ := h
  refine (Reads.literal _).bind fun _ _ => (Reads.blanks hb (headNot_filename hname)).bind
    fun _ _ => ?_
  have hstop : HeadNot isPathChar (b' ++ ';' :: k) := by
    cases b' with
    | nil => exact headNot_cons.mpr rfl
    | cons c b' =>
      refine headNot_cons.mpr (Bool.eq_false_iff.mpr fun hc => ?_)
      have hblank := hb' c (List.mem_cons_self ..)
      rw [isBlank_eq_false rfl hc] at hblank
      cases hblank
  refine (Reads.filename hname hstop).bind fun n hn => ?_
  subst hn
  refine (Reads.blanks hb' (headNot_cons.mpr rfl)).bind fun _ _ => ?_
  exact (Reads.literal ";").bind fun _ _ => hf

theorem Reads.contentTypeLine {γ : Type} {v : List Char} {f : Option String → Rule γ}
    (h : EndsWithValue v l) (hl : HeadNot isBlank l)
    (hf : ∀ o k, Reads text (f o) k k fun _ => True) :
    ∃ m, Reads text (Grammar.contentType >>= fun o => Grammar.lineEnd >>= fun _ => f o) l m
      fun _ => True := by
  obtain ⟨w, k, m, rfl, hw, hend⟩ := h
  obtain ⟨b, n, rfl, hb, hn, -⟩ := hend.split
  refine ⟨m, (((Reads.value hw hb hl hn).optional.bind fun o _ => .pure trivial).bind
    (Q := fun _ => True) fun o _ => ?_)⟩
  exact (Reads.endsLine hend).bind fun _ _ => hf o m

/-- What opens a file holds characters that a value can hold. -/
theorem OpensFile.split {name : String} {k : List Char} (h : OpensFile name l k) :
    ∃ p, l = p ++ ';' :: k ∧ ∀ c ∈ p, isValueChar c = true := by
  obtain ⟨hname, b, b', rfl, hb, hb'⟩ := h
  refine ⟨"file,".toList ++ (b ++ (name.toList ++ b')), by simp, ?_⟩
  simp only [List.mem_append]
  rintro c (hc | hc | hc | hc)
  · exact List.all_eq_true.mp (show "file,".toList.all isValueChar = true from rfl) c hc
  · exact isValueChar_of_isBlank (hb c hc)
  · have hpath := hname.path c hc
    have hbreak := isLineBreak_eq_false rfl hpath
    have hescape := not_mem_of_any_eq_false (w := valueEscapes) rfl hpath
    simp [isValueChar, hbreak, hescape]
  · exact isValueChar_of_isBlank (hb' c hc)

/-- **A line that is read as a field and opens a file** is read as a file part. -/
theorem filePart_of_opensFile {s u : State} {f : Field} {name : String} {k : List Char}
    (hs : s.Before text l) (h : fieldLine s = .ok f u)
    (hopens : OpensFile name (text.toList.drop f.value.position.offset) k) (log : List ParseError) :
    ∃ p t, filePart ⟨s.cursor, log⟩ = .ok p t := by
  obtain ⟨_, -, -, hvalue⟩ := Leaves.fieldLine hs h
  -- both rules read the same up to the value
  obtain ⟨_, s₁, hlines, h⟩ := ok_of_bind h
  obtain ⟨_, _, hfield, h⟩ := ok_of_bind h
  obtain ⟨_, _, hposition, hfield⟩ := ok_of_bind hfield
  cases hposition
  obtain ⟨key, s₂, hkey, hfield⟩ := ok_of_bind hfield
  obtain ⟨_, s₃, hcolon, hfield⟩ := ok_of_bind hfield
  obtain ⟨v, s₄, hv, hfield⟩ := ok_of_bind hfield
  cases hfield
  obtain ⟨_, _, -, h⟩ := ok_of_bind h
  cases h
  obtain ⟨l₁, hs₁, -⟩ := Leaves.leadingLines hs hlines
  obtain ⟨l₂, hs₂, -⟩ := Leaves.keyString hs₁ hkey
  obtain ⟨l₃, hs₃, -⟩ := Leaves.colon hs₂ hcolon
  obtain ⟨_, -, hplace, -⟩ := Leaves.valueString hs₃ hv
  dsimp only at hopens hvalue
  rw [hplace] at hopens hvalue
  obtain ⟨log₁, h₁⟩ := IsRule.leadingLines.writesLog.ok hlines log
  obtain ⟨log₂, h₂⟩ := IsRule.keyString.writesLog.ok hkey log₁
  obtain ⟨log₃, h₃⟩ := IsRule.colon.writesLog.ok hcolon log₂
  -- and a file part goes on from there
  obtain ⟨p, hp, hplain⟩ := hopens.split
  have hk := List.takeWhile_append_dropWhile (p := isBlank) (l := k)
  have hblank : ∀ c ∈ k.takeWhile isBlank, isBlank c = true := fun c hc => List.mem_takeWhile_imp hc
  have hend := headNot_dropWhile isBlank k
  rw [hp, ← hk] at hvalue
  obtain ⟨v', hbehind⟩ := hvalue.behind hplain hblank hend
  let tail : String → Rule FilePart := fun filename => Grammar.blanks >>= fun _ =>
    contentType >>= fun o => lineEnd >>= fun _ => pure ⟨key, filename, o, s₁.cursor.position⟩
  obtain ⟨m, hm⟩ : ∃ m, Reads text (tail name) k m fun _ => True := by
    obtain ⟨m, hm⟩ := Reads.contentTypeLine hbehind hend fun o _ =>
      .pure (a := FilePart.mk key name o s₁.cursor.position) trivial
    rw [← hk]
    exact ⟨m, (Reads.blanks hblank hend).bind fun _ _ => hm⟩
  obtain ⟨part, t, hread⟩ := (Reads.opensFile (f := tail) hopens hm).ok (s := ⟨s₃.cursor, log₃⟩)
    ⟨hs₃.text_eq, hs₃.fresh, hs₃.rest_eq⟩
  have hsame : filePart ⟨s.cursor, log⟩ = _ :=
    (bind_of_ok h₁).trans <| (bind_of_ok rfl).trans <| (bind_of_ok h₂).trans (bind_of_ok h₃)
  exact ⟨part, t, hsame.trans hread⟩

/-- **A part stands in the text as it was read.** -/
theorem part_standsIn {s t : State} {p : Part} (hs : s.Before text l) (h : part s = .ok p t) :
    p.StandsIn text.toList := by
  rw [part_eq hs.fresh] at h
  cases hfile : filePart s with
  | ok q u =>
    rw [hfile] at h
    cases h
    obtain ⟨_, -, hq⟩ := Leaves.filePart hs hfile
    exact hq
  | error e u =>
    simp only [hfile] at h
    have hs' : State.Before ⟨s.cursor, e :: u.log⟩ text l := ⟨hs.text_eq, hs.fresh, hs.rest_eq⟩
    cases htext : fieldLine ⟨s.cursor, e :: u.log⟩ with
    | error e' v => rw [htext] at h; cases h
    | ok f v =>
      rw [htext] at h
      cases h
      obtain ⟨_, -, hlabel, hvalue⟩ := Leaves.fieldLine hs' htext
      refine ⟨hlabel, hvalue, fun name k hopens => ?_⟩
      obtain ⟨q, w, hq⟩ := filePart_of_opensFile hs' htext hopens s.log
      rw [show (⟨s.cursor, s.log⟩ : State) = s from rfl, hfile] at hq
      cases hq

/-! ### Whole scripts -/

namespace Tracks

variable {text : List Char} {i : Nat} {P : Part → Prop}

/-- What holds of every part that is read holds of those of a section. -/
theorem partsOfSection (h : ∀ j, Tracks text j Grammar.part fun p _ => P p) :
    Tracks text i Grammar.requestSection fun s _ => ∀ p ∈ s.getMultipart, P p := by
  have hmultipart : Tracks text i Grammar.multipartSection fun l _ => ∀ p ∈ l, P p :=
    (sectionLine _).bind fun _ _ _ _ => zeroOrMore fun j _ => h j
  refine choice fun r hr => ?_
  simp only [List.mem_cons, List.not_mem_nil, or_false] at hr
  rcases hr with rfl | rfl | rfl | rfl | rfl | rfl
  · exact (fieldSection _).map fun _ _ _ _ _ hp => nomatch hp
  · exact (fieldSection _).map fun _ _ _ _ _ hp => nomatch hp
  · exact (fieldSection _).map fun _ _ _ _ _ hp => nomatch hp
  · exact hmultipart.map fun _ _ _ hl => hl
  · exact capturesSection.map fun _ _ _ _ _ hp => nomatch hp
  · exact assertsSection.map fun _ _ _ _ _ hp => nomatch hp

theorem partsOfRequest (h : ∀ j, Tracks text j Grammar.part fun p _ => P p) :
    Tracks text i Grammar.request fun r _ => ∀ p ∈ r.multipart, P p := by
  refine leadingLines.bind fun _ _ _ _ => position.bind fun _ _ _ _ => method.bind fun _ _ _ _ =>
    someBlanks.bind fun _ _ _ _ => url.bind fun _ _ _ _ => lineEnd.bind fun _ _ _ _ =>
    (zeroOrMore fun _ _ => fieldLine).bind fun _ _ _ _ =>
    (zeroOrMore fun _ _ => partsOfSection h).bind fun l _ _ hl =>
    body.optionalPart.bind fun _ _ _ _ => pure fun p hp => ?_
  obtain ⟨s, hs, hp⟩ := List.mem_flatMap.mp hp
  exact hl s hs p hp

theorem partsOfScript (h : ∀ j, Tracks text j Grammar.part fun p _ => P p) :
    Tracks text i Script.rule fun script _ =>
      ∀ e ∈ script.entries, ∀ p ∈ e.request.multipart, P p := by
  have hentry : ∀ j, Tracks text j Grammar.entry fun e _ => ∀ p ∈ e.request.multipart, P p :=
    fun _ => (partsOfRequest h).bind fun _ _ _ hr => response.optionalPart.bind fun _ _ _ _ =>
      pure hr
  exact (zeroOrMore fun j _ => hentry j).bind fun _ _ _ hl => (zeroOrMore fun _ _ => lineEnd).bind
    fun _ _ _ _ => pure hl

theorem part_standsIn : Tracks text i Grammar.part fun p _ => p.StandsIn text := by
  intro s hs
  have hexact := Tracks.part s hs
  cases h : Grammar.part s with
  | error e t => rwa [h] at hexact
  | ok p t =>
    rw [h] at hexact
    obtain ⟨j, hij, ht, -⟩ := hexact
    have hbefore : s.Before text.toArray (s.cursor.rest) :=
      ⟨by rw [← hs.text_eq, Array.toArray_toList], hs.fresh, rfl⟩
    exact ⟨j, hij, ht, Grammar.part_standsIn hbefore h⟩

end Tracks

end Grammar

open Grammar

/-- **All parts of multipart forms in a script stand in its text as they were read.** -/
theorem Script.parts_written {text : String} {script : Script} (h : read? text = .ok script) :
    ∀ e ∈ script.entries, ∀ p ∈ e.request.multipart, p.StandsIn text.toList := by
  have htracked := Tracks.partsOfScript (fun _ => Tracks.part_standsIn) _
    (State.StandsAt.ofText text)
  unfold read? at h
  split at h
  · cases h
  · rename_i s t hrule
    rw [hrule] at htracked
    obtain ⟨_, -, -, hparts⟩ := htracked
    split at h
    · cases h
      exact hparts
    · cases h

/-- A line with a file, and one that refers to a parent directory. -/
theorem Script.parts_written_upload :
    let text := "POST http://h\n[MultipartFormData]\na: file,x; t/p\nb: file,../x;\n"
    ∃ script, (read? text = .ok script ∧ script.entries.flatMap (·.request.multipart) =
        [.file ⟨"a", "x", some "t/p", ⟨34, 3, 1⟩⟩,
          .text ⟨"b", ⟨"file,../x;", ⟨52, 4, 4⟩⟩, ⟨49, 4, 1⟩⟩]) ∧
      ∀ e ∈ script.entries, ∀ p ∈ e.request.multipart, p.StandsIn text.toList := by
  intro text
  have hparts : (read? text).toOption.map (fun script => script.entries.flatMap
      (·.request.multipart)) = some [.file ⟨"a", "x", some "t/p", ⟨34, 3, 1⟩⟩,
        .text ⟨"b", ⟨"file,../x;", ⟨52, 4, 4⟩⟩, ⟨49, 4, 1⟩⟩] := by
    decide +kernel
  cases hread : read? text with
  | error e =>
    rw [hread] at hparts
    cases hparts
  | ok script =>
    rw [hread] at hparts
    exact ⟨script, ⟨rfl, Option.some.inj hparts⟩, parts_written hread⟩

/-- **A line with a file that refers to a parent directory is read**, as a text part. -/
theorem Script.read?_parent :
    let text := "POST http://h\n[MultipartFormData]\na: file,../x;\n"
    ∃ script, read? text = .ok script ∧ ∃ e ∈ script.entries, ∃ f,
      .text f ∈ e.request.multipart ∧
        "file,".toList <+: text.toList.drop f.value.position.offset := by
  intro text
  have hparts : (read? text).toOption.map (fun script => script.entries.map
      (·.request.multipart)) = some [[.text ⟨"a", ⟨"file,../x;", ⟨37, 3, 4⟩⟩, ⟨34, 3, 1⟩⟩]] := by
    decide +kernel
  cases hread : read? text with
  | error e =>
    rw [hread] at hparts
    cases hparts
  | ok script =>
    rw [hread] at hparts
    obtain ⟨e, hentries, he⟩ := List.map_eq_singleton_iff.mp (Option.some.inj hparts)
    exact ⟨script, rfl, e, by simp [hentries], _, by rw [he]; exact List.mem_singleton_self _,
      by decide +kernel⟩

end HttpScript
