import HttpScript.App
import HttpScript.Proofs.Files.Inside
import HttpScript.Proofs.Grammar.Lines

/-! # Names of files in a script

Every file that a script names, as a body, as an expected body or as a part of a form, went through
the rule `filename`.

* `Gives`: what holds of every value that a rule yields, with a lemma for each combinator.
* `Gives.filename`: a file name is not empty, has characters of paths only, and no two dots follow
  each other in it.
* `Script.filenames`, `isFilename_of_mem_filenames`: so it is for all files that a script names that
  was read.
* `IsFilename.not_parent`: none of them refers to a parent directory. -/

namespace HttpScript

namespace Grammar

open Script

variable {α β : Type}

/-- **What holds of every value that a rule yields.** -/
def Gives (r : Rule α) (P : α → Prop) : Prop := ∀ ⦃s t : State⦄ ⦃a : α⦄, r s = .ok a t → P a

namespace Gives

variable {r : Rule α} {f : α → Rule β} {P : α → Prop} {R : β → Prop}

/-! ### Combinators -/

theorem pure {a : α} (h : P a) : Gives (pure a) P := fun _ _ _ hr => by
  cases hr
  exact h

theorem bind (h : Gives r P) (hf : ∀ a, P a → Gives (f a) R) : Gives (r >>= f) R := by
  intro s t b hb
  change EStateM.bind r f s = .ok b t at hb
  unfold EStateM.bind at hb
  split at hb
  · rename_i a s' hr
    exact hf a (h hr) hb
  · cases hb

theorem skip (hf : ∀ a, Gives (f a) R) : Gives (r >>= f) R :=
  bind (P := fun _ => True) (fun _ _ _ _ => trivial) fun a _ => hf a

theorem map {g : α → β} (h : Gives r P) (hg : ∀ a, P a → R (g a)) : Gives (g <$> r) R := by
  intro s t b hb
  change EStateM.map g r s = .ok b t at hb
  unfold EStateM.map at hb
  split at hb
  · rename_i a s' hr
    cases hb
    exact hg a (h hr)
  · cases hb

theorem make (r : Rule α) {g : α → β} (hg : ∀ a, R (g a)) : Gives (g <$> r) R :=
  map (P := fun _ => True) (fun _ _ _ _ => trivial) fun a _ => hg a

theorem failAt {p : Position} {cause : Fault} : Gives (Rule.failAt p cause) P :=
  fun _ _ _ hr => by cases hr

theorem failHere {cause : Fault} : Gives (Rule.failHere cause) P := fun _ _ _ hr => by cases hr

theorem ite {c : Prop} [Decidable c] {r r' : Rule α} (h : c → Gives r P) (h' : ¬ c → Gives r' P) :
    Gives (if c then r else r') P := by
  split
  · exact h ‹_›
  · exact h' ‹_›

theorem readWhile (p : Char → Bool) : Gives (Rule.readWhile p) fun l => ∀ c ∈ l, p c = true := by
  intro s t l hl
  cases hl
  generalize s.cursor = c
  fun_induction Cursor.readWhile p c with
  | case1 => simp
  | case2 c x _ hx r ih => exact List.forall_mem_cons.mpr ⟨hx, ih⟩
  | case3 => simp

theorem mapError {g : ParseError → ParseError} (h : Gives r P) : Gives (Rule.mapError g r) P := by
  intro s t a ha
  unfold Rule.mapError at ha
  split at ha
  · rename_i hr
    cases ha
    exact h hr
  · cases ha

theorem optional (h : Gives r P) : Gives (Rule.optional r) fun o => ∀ a ∈ o, P a := by
  intro s t o ho a ha
  unfold Rule.optional at ho
  split at ho
  · rename_i hr
    cases ho
    cases ha
    exact h hr
  · cases ho
    cases ha

theorem collect {r : Rule (Option α)} (h : Gives r fun o => ∀ a ∈ o, P a) :
    Gives (Rule.collect r) fun l => ∀ a ∈ l, P a := by
  intro s
  -- along the rounds
  induction hn : s.cursor.left using Nat.strongRecOn generalizing s with
  | ind n ih =>
    intro t l hl
    unfold Rule.collect at hl
    split at hl
    · cases hl
    · cases hl
      simp
    · rename_i a s' hr
      have ha : P a := h hr a rfl
      split at hl
      · rename_i hlt
        split at hl
        · cases hl
        · rename_i rest t' hrest
          cases hl
          have htail := ih _ (hn ▸ hlt) rfl hrest
          exact List.forall_mem_cons.mpr ⟨ha, htail⟩
      · cases hl
        exact List.forall_mem_singleton.mpr ha

theorem zeroOrMore (h : Gives r P) : Gives (Rule.zeroOrMore r) fun l => ∀ a ∈ l, P a := by
  refine collect fun s t o ho => ?_
  unfold Rule.optionalBeforeEnd at ho
  split at ho
  · cases ho
    simp
  · exact h.optional ho

theorem choice {rules : List (Rule α)} (h : ∀ r ∈ rules, Gives r P) :
    Gives (Rule.choice rules) P := by
  suffices ∀ (start : Cursor) (failures : List ParseError),
      Gives (Rule.choiceFrom start rules failures) P from
    fun s _ _ hs => this s.cursor [] hs
  induction rules with
  | nil =>
    intro start failures s t a ha
    unfold Rule.choiceFrom at ha
    split at ha <;> cases ha
  | cons r rules ih =>
    intro start failures s t a ha
    unfold Rule.choiceFrom at ha
    split at ha
    · rename_i hr
      cases ha
      exact h r (List.mem_cons_self ..) hr
    · exact ih (fun r hr => h r (List.mem_cons_of_mem _ hr)) start _ ha

theorem guardAt {c : Prop} [Decidable c] {p : Position} {cause : Fault} {k : Unit → Rule α}
    (h : ¬ c → Gives (k ()) P) : Gives (if c then Rule.failAt p cause >>= k else k ()) P :=
  .ite (fun _ => (failAt (P := fun _ => False)).bind fun _ h => h.elim) h

theorem guardHere {c : Prop} [Decidable c] {cause : Fault} {k : Unit → Rule α}
    (h : ¬ c → Gives (k ()) P) : Gives (if c then Rule.failHere cause >>= k else k ()) P :=
  .ite (fun _ => (failHere (P := fun _ => False)).bind fun _ h => h.elim) h

end Gives

/-! ### The rule for names -/

/-- **What a file name is that was read.** -/
theorem Gives.filename : Gives filename IsFilename :=
  .skip fun _ => (Gives.readWhile isPathChar).bind fun _ hname =>
    .guardAt fun hempty => .guardAt fun hdots => .pure (isFilename_ofList hname hempty hdots)

end Grammar

/-! ### Names in scripts

A part of a script is `Named` if the files that it names have names which the grammar accepts. -/

namespace Script

/-- No name in the path that a file name is refers to a parent directory. -/
theorem IsFilename.not_parent {name : String} (h : IsFilename name) : ".." ∉ Path.names name :=
  fun hup => h.inside (Path.infix_of_mem_names hup)

def Content.Named (c : Content) : Prop := ∀ name ∈ App.fileOf? c, IsFilename name

def Part.Named (p : Part) : Prop := ∀ name ∈ App.fileOfPart? p, IsFilename name

def Body.Named (b : Body) : Prop := b.content.Named

structure Request.Named (r : Request) : Prop where
  body : ∀ b ∈ r.body, b.Named
  multipart : ∀ p ∈ r.multipart, p.Named

structure Entry.Named (e : Entry) : Prop where
  request : e.request.Named
  response : ∀ r ∈ e.response, ∀ b ∈ r.body, b.Named

/-- The files that a script names. -/
def filenames (script : Script) : List String := script.entries.flatMap App.filesOf

theorem Entry.Named.filesOf {e : Entry} (h : e.Named) :
    ∀ name ∈ App.filesOf e, IsFilename name := by
  intro name hname
  unfold App.filesOf at hname
  rcases List.mem_append.mp hname with hrequest | hresponse
  · rcases List.mem_append.mp hrequest with hbody | hpart
    · obtain ⟨b, hb, hfile⟩ := Option.bind_eq_some_iff.mp (Option.mem_toList.mp hbody)
      exact h.request.body b hb name hfile
    · obtain ⟨p, hp, hfile⟩ := List.mem_filterMap.mp hpart
      exact h.request.multipart p hp name hfile
  · obtain ⟨b, hb, hfile⟩ := Option.bind_eq_some_iff.mp (Option.mem_toList.mp hresponse)
    obtain ⟨r, hr, hb⟩ := Option.bind_eq_some_iff.mp hb
    exact h.response r hr b hb name hfile

end Script

namespace Grammar

open Script

def RequestSection.Named (s : RequestSection) : Prop := ∀ p ∈ s.getMultipart, p.Named

namespace Gives

theorem content : Gives content Content.Named := by
  -- only one kind of content names a file
  have hnone : ∀ c : Content, App.fileOf? c = none → c.Named := fun c hc name hname => by
    rw [hc] at hname
    cases hname
  refine .skip fun _ => mapError (choice fun r hr => ?_)
  simp only [List.mem_cons, List.not_mem_nil, or_false] at hr
  rcases hr with rfl | rfl | rfl | rfl | rfl
  · refine .skip fun _ => .guardHere fun _ => ?_
    dsimp only
    split
    · exact make _ fun _ => hnone _ rfl
    · exact failHere
  · refine .skip fun _ => .guardHere fun _ => ?_
    dsimp only
    split
    · exact make _ fun _ => hnone _ rfl
    · exact failHere
  · exact .skip fun _ => .skip fun _ => .skip fun _ => .skip fun _ => .skip fun _ =>
      .pure (hnone _ rfl)
  · refine .skip fun _ => .skip fun _ => .skip fun _ => .skip fun _ => ?_
    split
    · exact .skip fun _ => .skip fun _ => .pure (hnone _ rfl)
    · exact failAt
  · refine .skip fun _ => .skip fun _ => .skip fun _ => filename.bind fun name hname =>
      .skip fun _ => .skip fun _ => .pure fun n hn => ?_
    cases hn
    exact hname

theorem body : Gives body Body.Named :=
  .skip fun _ => .skip fun _ => content.bind fun _ hc => .skip fun _ => .pure hc

theorem part : Gives part Part.Named := by
  have hfilePart : Gives filePart fun p => IsFilename p.filename :=
    .skip fun _ => .skip fun _ => .skip fun _ => .skip fun _ => .skip fun _ => .skip fun _ =>
      filename.bind fun _ hname => .skip fun _ => .skip fun _ => .skip fun _ => .skip fun _ =>
      .skip fun _ => .pure hname
  refine hfilePart.optional.bind fun o ho => ?_
  cases o with
  | none =>
    exact make _ fun _ _ hname => nomatch hname
  | some p =>
    refine .pure fun name hname => ?_
    cases hname
    exact ho p rfl

theorem requestSection : Gives requestSection RequestSection.Named := by
  have hother : ∀ s : RequestSection, s.getMultipart = [] → s.Named := fun s hs p hp => by
    rw [hs] at hp
    cases hp
  have hmultipart : Gives multipartSection fun l => ∀ p ∈ l, p.Named :=
    .skip fun _ => zeroOrMore part
  refine choice fun r hr => ?_
  simp only [List.mem_cons, List.not_mem_nil, or_false] at hr
  rcases hr with rfl | rfl | rfl | rfl | rfl | rfl
  · exact make _ fun _ => hother _ rfl
  · exact make _ fun _ => hother _ rfl
  · exact make _ fun _ => hother _ rfl
  · exact hmultipart.map fun _ hl => hl
  · exact make _ fun _ => hother _ rfl
  · exact make _ fun _ => hother _ rfl

theorem request : Gives request Request.Named := by
  refine .skip fun _ => .skip fun _ => .skip fun _ => .skip fun _ => .skip fun _ => .skip fun _ =>
    .skip fun _ => (zeroOrMore requestSection).bind fun sections hsections =>
    body.optional.bind fun o hbody => .pure ⟨hbody, fun p hp => ?_⟩
  obtain ⟨s, hs, hp⟩ := List.mem_flatMap.mp hp
  exact hsections s hs p hp

theorem response : Gives response fun r => ∀ b ∈ r.body, b.Named :=
  .skip fun _ => .skip fun _ => .skip fun _ => .skip fun _ => .skip fun _ => .skip fun _ =>
    .skip fun _ => .skip fun _ => body.optional.bind fun _ hbody => .pure hbody

theorem entry : Gives entry Entry.Named :=
  request.bind fun _ hrequest => response.optional.bind fun _ hresponse =>
    .pure ⟨hrequest, hresponse⟩

theorem script : Gives Script.rule fun script => ∀ e ∈ script.entries, e.Named :=
  (zeroOrMore entry).bind fun _ hentries => .skip fun _ => .pure hentries

end Gives

end Grammar

/-- **The names of files in a script that was read.** -/
theorem Script.isFilename_of_mem_filenames {text : String} {script : Script}
    (h : Script.read? text = .ok script) : ∀ name ∈ script.filenames, IsFilename name := by
  intro name hname
  obtain ⟨e, he, hfile⟩ := List.mem_flatMap.mp hname
  unfold read? at h
  split at h
  · cases h
  · rename_i s t hrule
    split at h
    · cases h
      exact (Grammar.Gives.script hrule e he).filesOf name hfile
    · cases h

end HttpScript
