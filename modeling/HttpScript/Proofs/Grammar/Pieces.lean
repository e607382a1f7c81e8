import HttpScript.Proofs.Grammar.Bodies
import HttpScript.Proofs.Grammar.Leaves
import HttpScript.Proofs.Grammar.Placed

/-! # The pieces of a script in its text

What a script holds as it was written are its comments, its keywords, its urls and the documents and
raw texts among its bodies (`Script.pieces`). Each of them is the slice of the text that begins at
its position, and they stand one behind the other as they follow each other in the script.

* `Laid`: pieces laid in a text between two places.
* `Tracks.leaving`: what `Leaves` says about a rule that keeps track of the text.
* `Script.pieces_laid`: **every script that is read is laid in its text.** -/

namespace HttpScript

namespace Script

/-- The pieces of the content of a body. -/
def Content.pieces : Content → List (Located String)
  | .json t | .xml t | .raw t => [⟨t.value, t.position⟩]
  | .base64 _ | .file _ _ => []

/-- The pieces of a request: its comments, its method, its url and its body. -/
def Request.pieces (r : Request) : List (Located String) :=
  r.comments.map (fun c => ⟨c.value, c.position⟩) ++ [⟨r.method.name, r.position⟩] ++
    [⟨r.url.value, r.url.position⟩] ++ r.body.elim [] (·.content.pieces)

/-- The pieces of a response: its version and its body. -/
def Response.pieces (r : Response) : List (Located String) :=
  [⟨r.version.value.name, r.position⟩] ++ r.body.elim [] (·.content.pieces)

/-- The pieces of an entry. -/
def Entry.pieces (e : Entry) : List (Located String) :=
  e.request.pieces ++ e.response.elim [] (·.pieces)

/-- **The pieces of a script** that it holds as they are written. -/
def pieces (s : Script) : List (Located String) := s.entries.flatMap (·.pieces)

end Script

namespace Grammar

open Script Text

variable {α : Type} {text : List Char} {i j k : Nat}

/-! ### Pieces laid in a text -/

/-- A piece that is the slice of a text at its position. -/
def Stands (text : List Char) (x : Located String) : Prop :=
  (text.drop x.position.offset).take x.value.length = x.value.toList

/-- **Pieces laid in a text** from the place `i` to the place `j`, one behind the other. -/
inductive Laid (text : List Char) : Nat → List (Located String) → Nat → Prop
  | nil {i j : Nat} (h : i ≤ j) : Laid text i [] j
  | cons {x : Located String} {l : List (Located String)} {i j k : Nat}
      (hi : i ≤ x.position.offset) (hx : Stands text x) (hlt : x.position.offset < k)
      (hlength : x.position.offset + x.value.length ≤ k) (hl : Laid text k l j) :
      Laid text i (x :: l) j

theorem lt_of_drop {w : List Char} (hne : w ≠ []) (h : text.drop i = w ++ text.drop j) :
    i < j := by
  have hlength := congrArg List.length h
  have hpos := List.length_pos_iff.mpr hne
  rw [List.length_append, List.length_drop, List.length_drop] at hlength
  omega

namespace Laid

variable {l m : List (Located String)} {x : Located String}

theorem le (h : Laid text i l j) : i ≤ j := by
  induction h with
  | nil h => exact h
  | cons hi _ hlt _ _ ih => omega

theorem widen (h : Laid text i l j) {i' j' : Nat} (hi : i' ≤ i) (hj : j ≤ j') :
    Laid text i' l j' := by
  induction h generalizing i' with
  | nil h => exact .nil (by omega)
  | cons hi' hx hlt hlength _ ih => exact .cons (by omega) hx hlt hlength (ih (Nat.le_refl _) hj)

theorem append (h : Laid text i l j) (h' : Laid text j m k) : Laid text i (l ++ m) k := by
  induction h with
  | nil hi => exact h'.widen hi (Nat.le_refl k)
  | cons hi hx hlt hlength _ ih => exact .cons hi hx hlt hlength (ih h')

/-- **A piece that has been read** up to the place `k`, and something from its position on. -/
theorem of_drop (hi : i ≤ x.position.offset) (hk : x.position.offset ≤ k) (hj : k ≤ j)
    (hlt : x.position.offset < j)
    (h : text.drop x.position.offset = x.value.toList ++ text.drop k) : Laid text i [x] j := by
  have hlength := congrArg List.length h
  rw [List.length_append, List.length_drop, List.length_drop, String.length_toList] at hlength
  refine .cons hi ?_ hlt (by omega) (.nil (Nat.le_refl j))
  unfold Stands
  rw [h, ← String.length_toList, List.take_left]

theorem of_ne_empty (hi : i ≤ x.position.offset) (hne : x.value.toList ≠ [])
    (h : text.drop x.position.offset = x.value.toList ++ text.drop j) : Laid text i [x] j := by
  have hlt := lt_of_drop hne h
  exact of_drop hi (Nat.le_of_lt hlt) (Nat.le_refl j) hlt h

theorem stands (h : Laid text i l j) : ∀ x ∈ l, Stands text x := by
  induction h with
  | nil => simp
  | cons _ hx _ _ _ ih => exact List.forall_mem_cons.mpr ⟨hx, ih⟩

theorem le_offset (h : Laid text i l j) : ∀ x ∈ l, i ≤ x.position.offset := by
  induction h with
  | nil => simp
  | cons hi _ hlt _ _ ih =>
    refine List.forall_mem_cons.mpr ⟨hi, fun x hx => ?_⟩
    have := ih x hx
    omega

/-- **Each piece ends before those behind it begin.** -/
theorem pairwise (h : Laid text i l j) : l.Pairwise fun x y =>
    x.position.offset < y.position.offset ∧
      x.position.offset + x.value.length ≤ y.position.offset := by
  induction h with
  | nil => exact .nil
  | cons _ _ hlt hlength hl ih =>
    refine List.pairwise_cons.mpr ⟨fun y hy => ?_, ih⟩
    have := hl.le_offset y hy
    omega

end Laid

/-! ### What is left of a text -/

theorem Tracks.leaving {r : Rule α} {Q : α → Nat → Prop} {P : α → List Char → Prop}
    (h : Tracks text i r Q) (h' : Leaves text.toArray (text.drop i) r P) :
    Tracks text i r fun a j => Q a j ∧ P a (text.drop j) := by
  intro s hs
  have hbefore : ∀ {t : State} {k : Nat}, t.StandsAt text k →
      t.Before text.toArray (text.drop k) := fun {t k} ht => by
    have htext : t.cursor.text = text.toArray := by rw [← ht.text_eq]
    refine ⟨htext, ht.fresh, ?_⟩
    unfold Cursor.rest
    rw [ht.text_eq, ht.offset_eq]
  have hr := h s hs
  cases heq : r s with
  | error e t => rw [heq] at hr; exact hr
  | ok a t =>
    rw [heq] at hr
    obtain ⟨j, hj, ht, ha⟩ := hr
    obtain ⟨k, hk, hP⟩ := h' (hbefore hs) heq
    obtain rfl : text.drop j = k := (hbefore ht).rest_eq.symm.trans hk.rest_eq
    exact ⟨j, hj, ht, ha, hP⟩

theorem Rejects.leaves {text : Array Char} {l : List Char} {r : Rule α} (h : Rejects text r l) :
    Leaves text l r fun _ _ => False := by
  intro s t a hs hr
  obtain ⟨e, u, herror⟩ := h s hs
  rw [hr] at herror
  cases herror

namespace Tracks

/-! ### Comments, methods and urls -/

theorem comment_laid : Tracks text i Grammar.comment fun c j =>
    Laid text i [⟨c.value, c.position⟩] j := by
  refine position.bind fun p _ _ ⟨hi, _, hp⟩ => ?_
  obtain rfl := hi.symm
  refine ((literal "#").leaving (.literal "#")).bind fun _ k _ ⟨_, hsign⟩ => ?_
  refine ((readWhile _).leaving (.readWhile _)).bind fun w j _ ⟨_, hw, _⟩ => pure ?_
  have hvalue : ("#" ++ String.ofList w).toList = '#' :: w := by simp
  refine .of_ne_empty (Nat.le_of_eq hp.symm) (by rw [hvalue]; simp) ?_
  rw [hp, hsign, hw, hvalue]
  rfl

theorem lineEnd_laid : Tracks text i Grammar.lineEnd fun o j =>
    Laid text i (o.toList.map fun c => ⟨c.value, c.position⟩) j := by
  refine position.bind fun p _ _ ⟨hi, hp, _⟩ => ?_
  obtain rfl := hi.symm
  refine blanks.bind fun _ k hk _ => peek.bind fun o _ _ hk' => ?_
  obtain rfl := hk'.symm
  have hend : ∀ {r : Rule (Option Comment)}, Tracks text k r (fun o j =>
      Laid text k (o.toList.map fun c => ⟨c.value, c.position⟩) j) →
      Tracks text k (r >>= fun found => Grammar.endOfLine p >>= fun _ => Pure.pure found)
        fun o j => Laid text i (o.toList.map fun c => ⟨c.value, c.position⟩) j := fun hr =>
    hr.bind fun o j _ ho => (endOfLine hp).bind fun _ j' hj _ => pure (ho.widen hk hj)
  split
  · exact hend (comment_laid.map fun _ _ _ hc => hc)
  · exact hend (pure (.nil (Nat.le_refl k)))

theorem leadingLines_laid : Tracks text i Grammar.leadingLines fun l j =>
    Laid text i (l.map fun c => ⟨c.value, c.position⟩) j := by
  have hlines : Tracks text i (Rule.zeroOrMore Grammar.lineEnd) fun l j =>
      Laid text i ((l.filterMap id).map fun c => ⟨c.value, c.position⟩) j := by
    refine zeroOrMore_along (S := fun l i j =>
      Laid text i ((l.filterMap id).map fun c => ⟨c.value, c.position⟩) j)
      (fun j => .nil (Nat.le_refl j)) fun j _ => lineEnd_laid.mono fun o k _ ho l m _ hl => ?_
    cases o with
    | none => exact hl.widen ho.le (Nat.le_refl m)
    | some c => exact ho.append hl
  exact hlines.bind fun l j _ hl => blanks.bind fun _ k hk _ =>
    pure (hl.widen (Nat.le_refl i) hk)

/-- The first of some keywords that stands in the text. -/
theorem firstOf_laid (name : α → String) (l : List α) :
    Tracks text i (Rule.firstOf Grammar.literal name l) fun o j =>
      ∀ a, o = some a → text.drop i = (name a).toList ++ text.drop j :=
  ((firstOf fun _ _ _ _ => literal _).leaving (.firstOf fun _ _ => .literal _)).mono
    fun _ _ _ h => h.2

theorem method_laid : Tracks text i Grammar.method fun m j =>
    text.drop i = m.name.toList ++ text.drop j := by
  refine position.bind fun p _ _ ⟨hi, hp, _⟩ => (firstOf_laid _ _).bind fun o j _ ho => ?_
  obtain rfl := hi.symm
  cases o with
  | none => exact failAt hp
  | some m => exact pure (ho m rfl)

theorem url_laid : Tracks text i Grammar.url fun t j => Laid text i [⟨t.value, t.position⟩] j := by
  refine position.bind fun p _ _ ⟨hi, hexact, hp⟩ => ?_
  obtain rfl := hi.symm
  refine ((readWhile _).leaving (.readWhile _)).bind fun w j _ ⟨_, hw, _⟩ =>
    .guardAt hexact fun hne => pure ?_
  refine .of_ne_empty (Nat.le_of_eq hp.symm) ?_ ?_
  · rwa [String.toList_ofList, Ne, ← List.isEmpty_iff]
  · rw [hp, hw, String.toList_ofList]

/-! ### Bodies -/

/-- A place where no line ends. -/
def Unended (l : List Char) : Prop := l ≠ [] ∧ HeadNot isIdle l

theorem lineEnd_of_unended {Q : Option Comment → Nat → Prop} (h : Unended (text.drop i)) :
    Tracks text i Grammar.lineEnd Q :=
  (lineEnd.leaving (Rejects.lineEnd h.2 h.1).leaves).mono fun _ _ _ hfalse => hfalse.2.elim

/-- A JSON value does not begin like the end of a line. -/
theorem isIdle_of_startsValue {c : Char} (h : Json.startsValue c = true) : isIdle c = false := by
  by_contra hc
  simp only [isIdle, isBlank, isLineBreak, Bool.not_eq_false, Bool.or_eq_true, beq_iff_eq] at hc
  rcases hc with ((rfl | rfl) | rfl | rfl) | rfl <;> exact absurd h (by decide)

theorem templateOf_laid (n : Nat) : Tracks text i (Grammar.templateOf n) fun t j =>
    Laid text i [⟨t.value, t.position⟩] j ∨ text.drop j = text.drop i := by
  refine position.bind fun p _ _ ⟨hi, _, hp⟩ => ?_
  obtain rfl := hi.symm
  refine ((readN n).leaving (.readN n)).bind fun w j _ ⟨_, hw⟩ => pure ?_
  cases w with
  | nil => exact .inr hw.symm
  | cons c w =>
    refine .inl (.of_ne_empty (Nat.le_of_eq hp.symm) (by simp) ?_)
    rw [hp, hw, String.toList_ofList]

theorem jsonContent_laid : Tracks text i Grammar.jsonContent fun c j =>
    Laid text i c.pieces j ∨ Unended (text.drop j) := by
  refine (cursor.leaving .cursor).bind fun c _ _ ⟨⟨hi, _⟩, _, _, hrest⟩ =>
    .guardHere fun hwhite => ?_
  obtain rfl := hi.symm
  dsimp only
  split
  · rename_i n hextent
    refine (templateOf_laid n).map fun t j _ ht => ht.imp_right fun hj => ?_
    rw [hj, ← hrest]
    rw [Cursor.peek?_eq_head?] at hwhite
    obtain ⟨d, k, hdrop, hd⟩ := Json.startsValue_of_extent? hextent
    cases hchars : c.rest with
    | nil =>
      rw [hchars] at hdrop
      cases hdrop
    | cons x l =>
      have hx : isWhite x = false := by simpa [hchars] using hwhite
      have hblank : Json.isBlank x = false := by
        by_contra h
        rw [isWhite_of_isBlank (by simpa using h)] at hx
        cases hx
      rw [hchars, List.dropWhile_cons, hblank] at hdrop
      obtain ⟨rfl, rfl⟩ := List.cons.inj hdrop
      exact ⟨by simp, headNot_cons.mpr (isIdle_of_startsValue hd)⟩
  · exact failHere

theorem xmlContent_laid : Tracks text i Grammar.xmlContent fun c j =>
    Laid text i c.pieces j ∨ Unended (text.drop j) := by
  refine (cursor.leaving .cursor).bind fun c _ _ ⟨⟨hi, _⟩, _, _, hrest⟩ =>
    .guardHere fun hopen => ?_
  obtain rfl := hi.symm
  dsimp only
  split
  · rename_i n hextent
    refine (templateOf_laid n).map fun t j _ ht => ht.imp_right fun hj => ?_
    rw [Cursor.peek?_eq_head?, not_not] at hopen
    obtain ⟨l, hl⟩ := List.head?_eq_some_iff.mp hopen
    rw [hj, ← hrest, hl]
    exact ⟨by simp, headNot_cons.mpr rfl⟩
  · exact failHere

end Tracks

theorem Leaves.rawChars {text : Array Char} {l : List Char} :
    Leaves text l (Rule.collect rawChar) fun w k => l = w ++ k := by
  have hchar : ∀ l, Leaves text l rawChar fun o k => (o = none → k = l) ∧ ∀ x ∈ o, l = x :: k :=
    fun l => by
      refine Leaves.cursor.bind fun c m ⟨hm, _⟩ => .ite (fun _ => ?_) fun _ => ?_
      · exact .pure ⟨fun _ => hm, by simp⟩
      · subst hm
        exact (Leaves.read.mapError).map fun x k hx => ⟨by simp, by simpa using hx⟩
  refine .collect (S := fun w l k => l = w ++ k) (fun l => (hchar l).mono fun o k h ho => ?_)
    fun l => (hchar l).mono fun o k h x hx => ?_
  · exact (h.1 ho).symm
  · rw [h.2 x hx]
    exact ⟨rfl, fun w m hw => by rw [hw, List.cons_append]⟩

namespace Tracks

theorem rawContent_laid : Tracks text i Grammar.rawContent fun c j => Laid text i c.pieces j := by
  have hopening : ∀ j, Tracks text j (do Grammar.blanks; Grammar.lineBreak) fun _ _ => True :=
    fun _ => blanks.bind fun _ _ _ _ => lineBreak
  have hchars : ∀ j, Tracks text j (Rule.collect Grammar.rawChar) fun _ _ => True := fun j =>
    collect_along (S := fun _ _ _ => True) fun k _ => rawChar.mono fun _ _ _ _ =>
      ⟨fun _ => trivial, fun _ _ => ⟨trivial, fun _ _ _ _ => trivial⟩⟩
  refine (literal _).bind fun _ i₁ h₁ _ => (hopening i₁).optional.bind fun _ i₂ h₂ _ =>
    position.bind fun p _ _ ⟨hi, _, hp⟩ => ?_
  obtain rfl := hi.symm
  refine ((hchars i₂).leaving .rawChars).bind fun w k hk ⟨_, hw⟩ =>
    ((literal marker).leaving (.literal marker)).bind fun _ j hj ⟨_, hmarker⟩ => pure ?_
  have hlt : k < j := lt_of_drop (by simp [marker]) hmarker
  refine .of_drop (k := k) ?_ ?_ hj ?_ ?_
  · dsimp only
    omega
  · dsimp only
    omega
  · dsimp only
    omega
  · rw [hp, hw, String.toList_ofList]

theorem base64Content_laid : Tracks text i Grammar.base64Content fun c j =>
    Laid text i c.pieces j := by
  refine (literal _).bind fun _ i₁ h₁ _ => blanks.bind fun _ i₂ h₂ _ =>
    position.bind fun _ i₃ h₃ ⟨_, hp, _⟩ => (readWhile _).bind fun _ i₄ h₄ _ => ?_
  split
  · refine blanks.bind fun _ i₅ h₅ _ => (literal _).bind fun _ j h₆ _ => pure (.nil ?_)
    omega
  · exact failAt hp

theorem fileContent_laid : Tracks text i Grammar.fileContent fun c j =>
    Laid text i c.pieces j := by
  refine (literal _).bind fun _ i₁ h₁ _ => blanks.bind fun _ i₂ h₂ _ => position.bind
    fun _ i₃ h₃ _ => filename.bind fun _ i₄ h₄ _ => blanks.bind fun _ i₅ h₅ _ =>
    (literal _).bind fun _ j h₆ _ => pure (.nil ?_)
  omega

theorem content_laid : Tracks text i Grammar.content fun c j =>
    Laid text i c.pieces j ∨ Unended (text.drop j) := by
  refine position.bind fun _ _ _ ⟨hi, _⟩ => mapError (choice fun r hr => ?_) fun e he => ?_
  · obtain rfl := hi.symm
    simp only [List.mem_cons, List.not_mem_nil, or_false] at hr
    rcases hr with rfl | rfl | rfl | rfl | rfl
    · exact jsonContent_laid
    · exact xmlContent_laid
    · exact rawContent_laid.mono fun _ _ _ h => .inl h
    · exact base64Content_laid.mono fun _ _ _ h => .inl h
    · exact fileContent_laid.mono fun _ _ _ h => .inl h
  · cases e <;> exact he

theorem body_laid : Tracks text i Grammar.body fun b j => Laid text i b.content.pieces j := by
  refine leadingLines.bind fun _ i₁ h₁ _ => position.bind fun _ _ _ ⟨hi, _⟩ => ?_
  obtain rfl := hi.symm
  refine content_laid.bind fun c i₂ _ hc => ?_
  rcases hc with hc | hc
  · exact lineEnd.bind fun _ j hj _ => pure (hc.widen h₁ hj)
  · exact (lineEnd_of_unended (Q := fun _ _ => False) hc).bind fun _ _ _ h => h.elim

/-! ### Entries -/

theorem optional_laid {r : Rule α} {pieces : α → List (Located String)}
    (h : Tracks text i r fun a j => Laid text i (pieces a) j) :
    Tracks text i (Rule.optional r) fun o j => Laid text i (o.elim [] pieces) j :=
  h.optional.mono fun o j hj ho => by
    rcases ho with ⟨rfl, -⟩ | ⟨a, rfl, ha⟩
    · exact .nil hj
    · exact ha

theorem version_laid : Tracks text i Grammar.version fun v j =>
    text.drop i = v.value.name.toList ++ text.drop j := by
  refine position.bind fun p _ _ ⟨hi, hp, _⟩ => (firstOf_laid _ _).bind fun o j _ ho => ?_
  obtain rfl := hi.symm
  cases o with
  | none => exact failAt hp
  | some v => exact pure (ho v rfl)

theorem response_laid : Tracks text i Grammar.response fun r j => Laid text i r.pieces j := by
  refine leadingLines.bind fun _ i₁ h₁ _ => position.bind fun p _ _ ⟨hi, _, hp⟩ => ?_
  obtain rfl := hi.symm
  refine version_laid.bind fun v i₂ h₂ hv => someBlanks.bind fun _ i₃ h₃ _ => status.bind
    fun _ i₄ h₄ _ => lineEnd.bind fun _ i₅ h₅ _ => (zeroOrMore fun _ _ => fieldLine).bind
    fun _ i₆ h₆ _ => (zeroOrMore fun _ _ => responseSection).bind fun _ i₇ h₇ _ =>
    (optional_laid body_laid).bind fun b j hj hbody => pure ?_
  have hname : v.value.name.toList ≠ [] := by cases v.value <;> decide
  have hversion : Laid text i [⟨v.value.name, p⟩] i₂ :=
    .of_ne_empty (by dsimp only; omega) hname (by rw [hp, hv])
  exact hversion.append (hbody.widen (by omega) (Nat.le_refl j))

theorem request_laid : Tracks text i Grammar.request fun r j => Laid text i r.pieces j := by
  refine leadingLines_laid.bind fun _ i₁ h₁ hcomments => position.bind fun p _ _ ⟨hi, _, hp⟩ => ?_
  obtain rfl := hi.symm
  refine method_laid.bind fun m i₂ h₂ hm => someBlanks.bind fun _ i₃ h₃ _ => url_laid.bind
    fun _ i₄ h₄ hurl => lineEnd.bind fun _ i₅ h₅ _ => (zeroOrMore fun _ _ => fieldLine).bind
    fun _ i₆ h₆ _ => (zeroOrMore fun _ _ => requestSection).bind fun _ i₇ h₇ _ =>
    (optional_laid body_laid).bind fun b j hj hbody => pure ?_
  have hname : m.name.toList ≠ [] := by cases m <;> decide
  have hmethod : Laid text i₁ [⟨m.name, p⟩] i₂ :=
    .of_ne_empty (Nat.le_of_eq hp.symm) hname (by rw [hp, hm])
  refine ((hcomments.append hmethod).append (hurl.widen h₃ (Nat.le_refl i₄))).append ?_
  exact hbody.widen (by omega) (Nat.le_refl j)

theorem entry_laid : Tracks text i Grammar.entry fun e j => Laid text i e.pieces j :=
  request_laid.bind fun _ _ _ hr => (optional_laid response_laid).bind fun _ _ _ ho =>
    pure (hr.append ho)

theorem script_laid : Tracks text i Script.rule fun s j => Laid text i s.pieces j := by
  have hentries : Tracks text i (Rule.zeroOrMore Grammar.entry) fun l j =>
      Laid text i (l.flatMap (·.pieces)) j :=
    zeroOrMore_along (S := fun (l : List Entry) i j => Laid text i (l.flatMap (·.pieces)) j)
      (fun j => .nil (Nat.le_refl j)) fun _ _ => entry_laid.mono fun e _ _ he l _ _ hl => by
        rw [List.flatMap_cons]
        exact he.append hl
  refine hentries.bind fun l j _ hl => (zeroOrMore fun _ _ => lineEnd).bind fun _ k hk _ => pure ?_
  exact hl.widen (Nat.le_refl i) hk

end Tracks

end Grammar

namespace Script

open Grammar

/-- **A script that is read is laid in its text.** Its comments, the keywords of its requests and
responses, its urls, and the documents and raw texts of its bodies are slices of the text at their
positions, and each of them ends before the next one begins. -/
theorem pieces_laid {text : String} {script : Script} (h : read? text = .ok script) :
    (∀ x ∈ script.pieces,
      (text.toList.drop x.position.offset).take x.value.length = x.value.toList) ∧
    script.pieces.Pairwise fun x y => x.position.offset < y.position.offset ∧
      x.position.offset + x.value.length ≤ y.position.offset := by
  unfold read? at h
  cases heq : rule (State.ofText text) with
  | error e s =>
    rw [heq] at h
    cases h
  | ok script' s =>
    rw [heq] at h
    have hscript : script' = script := by
      dsimp only at h
      split at h
      · exact Except.ok.inj h
      · cases h
    subst hscript
    obtain ⟨j, -, -, hlaid⟩ := Tracks.script_laid.ok (State.StandsAt.ofText text) heq
    exact ⟨hlaid.stands, hlaid.pairwise⟩

/-- The pieces of two entries with a comment, a JSON value and a raw text. -/
theorem pieces_laid_entries :
    let text := "# ü\nPUT x\n\x7b\x7d\nHTTP/* 200\n\x60\x60\x60\né\x60\x60\x60\nGET y\n"
    ∃ script, (read? text = .ok script ∧ script.pieces.map (fun x => (x.position.offset, x.value)) =
        [(0, "# ü"), (4, "PUT"), (8, "x"), (10, "\x7b\x7d"), (13, "HTTP/*"), (28, "é"), (33, "GET"),
          (37, "y")]) ∧
      (∀ x ∈ script.pieces,
        (text.toList.drop x.position.offset).take x.value.length = x.value.toList) ∧
      script.pieces.Pairwise fun x y => x.position.offset < y.position.offset ∧
        x.position.offset + x.value.length ≤ y.position.offset := by
  intro text
  have hpieces : (read? text).toOption.map (fun script =>
      script.pieces.map fun x => (x.position.offset, x.value)) =
        some [(0, "# ü"), (4, "PUT"), (8, "x"), (10, "\x7b\x7d"), (13, "HTTP/*"), (28, "é"),
          (33, "GET"), (37, "y")] := by
    decide +kernel
  cases hread : read? text with
  | error e =>
    rw [hread] at hpieces
    cases hpieces
  | ok script =>
    rw [hread] at hpieces
    exact ⟨script, ⟨rfl, Option.some.inj hpieces⟩, pieces_laid hread⟩

end Script

end HttpScript
