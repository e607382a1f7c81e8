import HttpScript.Proofs.Grammar.Sections
import HttpScript.Script.Read

/-! # Reading undoes printing

`Script.read?_print`: a script that can be printed is read back from its canonical form, up to
positions. The proof goes along the recursion of the grammar; `Reads.request` and `Reads.response`
put together what the parts of an entry give, each in front of what may stand behind it, and
`Reads.entries` is the induction over the entries.

* `Reads.entry`: an entry, in front of further entries or the end of the text.
* `led_entry`: an entry is behind its comments no response, which the induction rests on. -/

namespace HttpScript.Grammar

open Script Text

variable {text : Array Char} {l : List Char} {w : Layout}

/-! ### Request and response lines -/

/-- Of words none of which begins another one, the one that stands is read. -/
theorem Reads.firstOf_mem {α : Type} {name : α → String} {all : List α} {b : α} (hb : b ∈ all)
    (hapart : ∀ b' ∈ all, b' = b ∨ TellsApart (name b).toList [name b']) :
    Reads text (Rule.firstOf Grammar.literal name all) ((name b).toList ++ l) l (· = some b) := by
  obtain ⟨before, after, rfl, hbefore⟩ := List.eq_append_cons_of_mem hb
  refine Reads.firstOf before rfl (fun b' hb' => .literal ?_) (Reads.literal _)
  have hne : b' ≠ b := fun h => hbefore (h ▸ hb')
  have hname := (hapart b' (by simp [hb'])).resolve_left hne
  exact not_prefix_of_tellsApart _ hname _ (by simp)

theorem Reads.method (m : Method) : Reads text method (m.name.toList ++ l) l (· = m) := by
  have hm : ∀ m, m ∈ Method.all := fun m => by cases m <;> decide
  have hapart : ∀ m ∈ Method.all, ∀ m' ∈ Method.all,
      m' = m ∨ TellsApart m.name.toList [m'.name] := by decide
  refine Reads.position.bind fun p _ => ?_
  refine (Reads.firstOf_mem (hm m) (hapart m (hm m))).bind fun o ho => ?_
  subst ho
  exact .pure rfl

theorem Reads.version (v : VersionPattern) :
    Reads text version (v.name.toList ++ l) l fun a => a.value = v := by
  have hv : ∀ v, v ∈ VersionPattern.all := fun v => by cases v <;> decide
  have hapart : ∀ v ∈ VersionPattern.all, ∀ v' ∈ VersionPattern.all,
      v' = v ∨ TellsApart v.name.toList [v'.name] := by decide
  refine Reads.position.bind fun p _ => ?_
  refine (Reads.firstOf_mem (hv v) (hapart v (hv v))).bind fun o ho => ?_
  subst ho
  exact .pure rfl

theorem Reads.url {url : String} (hurl : IsUrl url) (h : HeadNot isUrlChar l) :
    Reads text Grammar.url (url.toList ++ l) l fun t => t.value = url := by
  refine Reads.position.bind fun p _ => (Reads.readWhile_append hurl.url h).bind fun a ha => ?_
  subst ha
  exact .ite_neg (by simpa using hurl.ne_empty) (.pure String.ofList_toList)

theorem Reads.status (s : StatusPattern) (h : HeadNot Char.isDigit l) :
    Reads text status (Layout.status s ++ l) l fun a => a.value = s := by
  refine Reads.position.bind fun p _ => Reads.peek.bind fun o ho => ?_
  subst ho
  cases s with
  | any => exact .ite_pos rfl (Reads.read.bind fun _ _ => .pure rfl)
  | code n =>
    have hdigits := isDigits_toDigits n.toNat
    obtain ⟨c, k, hk, hc⟩ := digits_cons hdigits
    have hstar : c ≠ '*' := by rintro rfl; exact absurd hc (by decide)
    rw [show Layout.status (.code n) = Nat.toDigits 10 n.toNat from rfl]
    refine .ite_neg (by rw [hk]; simpa using hstar) ?_
    refine (Reads.readWhile_append hdigits.2 h).bind fun a ha => ?_
    subst ha
    rw [natOfDigits_toDigits]
    have hlt : n.toNat < UInt16.size := n.toNat_lt
    refine .ite_neg (by simp [hdigits.1, hlt]) (.pure ?_)
    simp

theorem headNot_status (s : StatusPattern) : HeadNot isBlank (Layout.status s ++ l) := by
  cases s with
  | any => exact headNot_cons.mpr rfl
  | code n =>
    obtain ⟨c, k, hk, hc⟩ := digits_cons (isDigits_toDigits n.toNat)
    rw [show Layout.status (.code n) = Nat.toDigits 10 n.toNat from rfl, hk]
    exact headNot_cons.mpr (isBlank_eq_false rfl hc)

/-! ### Bodies at the end -/

theorem Reads.optionalBody {o : Option Body} (ho : ∀ b ∈ o, b.content.Printable)
    (hl : Led w EndsBody l) :
    Reads text (Rule.optional Grammar.body) (o.elim [] w.body ++ l) l fun a =>
      a.map (·.unplaced) = o.map (·.unplaced) := by
  cases o with
  | none => exact (Reads.optional_none (.body hl)).mono fun a ha => by rw [ha]
  | some b =>
    refine (Reads.body (ho b rfl)).optional.mono fun a ha => ?_
    obtain ⟨c, rfl, hc⟩ := ha
    exact congrArg some hc

theorem led_body {o : Option Body} (ho : ∀ b ∈ o, b.content.Printable) (hl : Led w EndsBody l) :
    Led w EndsSections (o.elim [] w.body ++ l) := by
  cases o with
  | none => exact hl.mono fun _ hk => hk.toEndsSections
  | some b =>
    rw [Option.elim_some, Layout.body, Layout.line, List.append_assoc]
    exact .of (endsSections_content (ho b rfl))

theorem Reads.headers {fields : List Field} (hfields : ∀ f ∈ fields, f.Printable)
    (hl : Led w EndsLines l) :
    Reads text (Rule.zeroOrMore Grammar.fieldLine) (fields.flatMap w.field ++ l) l fun as =>
      as.map (·.unplaced) = fields.map (·.unplaced) :=
  Reads.zeroOrMore_flatMap (fun f hf _ => Reads.fieldLine (hfields f hf))
    (fun _ _ => line_ne_nil w _) fun _ => .fieldLine hl

/-! ### Requests, responses and entries -/

theorem headNot_url {p : Char → Bool} (hp : ∀ c, isUrlChar c = true → c ≠ ':' → p c = false)
    {url : String} (hurl : IsUrl url) : HeadNot p (url.toList ++ l) := by
  obtain ⟨c, k, hk⟩ := List.exists_cons_of_ne_nil (mt String.toList_eq_nil_iff.mp hurl.ne_empty)
  have hc : isUrlChar c = true := hurl.url c (by rw [hk]; simp)
  have hcolon : c ≠ ':' := fun h => hurl.head (by rw [hk, h]; rfl)
  rw [hk]
  exact headNot_cons.mpr (hp c hc hcolon)

/-- The line of a request is no response. -/
theorem endsResponse_request (m : Method) {url : String} (hurl : IsUrl url) :
    EndsResponse (m.name.toList ++ ' ' :: (url.toList ++ l)) :=
  endsResponse_method m (headNot_url (fun _ hc _ => isBlank_eq_false rfl hc) hurl)
    (headNot_url (fun _ _ hcolon => by simpa using hcolon) hurl)

theorem Reads.request {r : Request} (hr : r.Printable w) (hl : Led w EndsBody l) :
    Reads text request (w.request r ++ l) l fun a => a.unplaced = r.unplaced := by
  have htext : w.request r ++ l = r.comments.flatMap w.comment ++ (r.method.name.toList ++
      ' ' :: (r.url.value.toList ++ (w.ending.text ++ (r.headers.flatMap w.field ++
        ((RequestSection.all r).flatMap (·.print w) ++ (r.body.elim [] w.body ++ l)))))) := by
    rw [RequestSection.print_all]
    simp [Layout.request, Layout.line]
  have hbody : Led w EndsSections (r.body.elim [] w.body ++ l) := led_body hr.body hl
  have hsections : Led w EndsLines ((RequestSection.all r).flatMap (·.print w) ++
      (r.body.elim [] w.body ++ l)) :=
    led_sections (fun s hs => RequestSection.print_of_holds
      (RequestSection.printable_of_mem_all hr hs).2) hbody
  have hidle : ∀ k, HeadNot isIdle (r.method.name.toList ++ ' ' :: (r.url.value.toList ++ k)) :=
    fun _ => (endsResponse_request r.method hr.url).idle
  have hblank : ∀ k, HeadNot isBlank (r.url.value.toList ++ k) := fun _ =>
    headNot_url (fun _ hc _ => isBlank_eq_false rfl hc) hr.url
  rw [htext]
  refine (Reads.leadingLines hr.comments (hidle _)).bind fun comments hcomments => ?_
  refine Reads.position.bind fun p _ => (Reads.method r.method).bind fun m hm => ?_
  refine (Reads.someBlanks (hblank _)).bind fun _ _ => ?_
  have hend : ∀ k, HeadNot isUrlChar (w.ending.text ++ k) := fun _ =>
    headNot_ending rfl rfl _
  refine (Reads.url hr.url (hend _)).bind fun u hu => ?_
  refine (Reads.lineStop w.ending).bind fun _ _ => ?_
  refine (Reads.headers hr.headers hsections).bind fun headers hheaders => ?_
  refine (Reads.requestSections hr hbody).bind fun sections hs => ?_
  refine (Reads.optionalBody hr.body hl).bind fun body hb => .pure ?_
  obtain ⟨hquery, hform, hmultipart, hcookies, hcaptures, hasserts⟩ := RequestSection.gathered hs
  simp only [Request.unplaced, Template.unplaced, hcomments, hm, hu, hheaders, hquery, hform,
    hmultipart, hcookies, hcaptures, hasserts, hb]

theorem Reads.response {r : Response} (hr : r.Printable w) (hl : Led w EndsBody l) :
    Reads text response (w.response r ++ l) l fun a => a.unplaced = r.unplaced := by
  have htext : w.response r ++ l = r.version.value.name.toList ++ ' ' ::
      (Layout.status r.status.value ++ (w.ending.text ++ (r.headers.flatMap w.field ++
        ((ResponseSection.all r).flatMap (·.print w) ++ (r.body.elim [] w.body ++ l))))) := by
    rw [ResponseSection.print_all]
    simp [Layout.response, Layout.line]
  have hbody : Led w EndsSections (r.body.elim [] w.body ++ l) := led_body hr.body hl
  have hsections : Led w EndsLines ((ResponseSection.all r).flatMap (·.print w) ++
      (r.body.elim [] w.body ++ l)) :=
    led_sections (fun s hs => ResponseSection.print_of_holds
      (ResponseSection.printable_of_mem_all hr hs).2) hbody
  rw [htext]
  refine (Reads.noLines (endsBody_version r.version.value).idle).bind fun _ _ => ?_
  refine Reads.position.bind fun p _ => (Reads.version r.version.value).bind fun v hv => ?_
  refine (Reads.someBlanks (headNot_status _)).bind fun _ _ => ?_
  have hend : ∀ k, HeadNot isNumeralChar (w.ending.text ++ k) := fun _ =>
    headNot_ending rfl rfl _
  refine (Reads.status r.status.value (hend _).isDigit).bind fun s hstatus => ?_
  refine (Reads.lineStop w.ending).bind fun _ _ => ?_
  refine (Reads.headers hr.headers hsections).bind fun headers hheaders => ?_
  refine (Reads.responseSections hr hbody).bind fun sections hs => ?_
  refine (Reads.optionalBody hr.body hl).bind fun body hb => .pure ?_
  obtain ⟨hcaptures, hasserts⟩ := ResponseSection.gathered hs
  simp only [Response.unplaced, hv, hstatus, hheaders, hcaptures, hasserts, hb]

theorem led_response {o : Option Response} (hl : Led w EndsResponse l) :
    Led w EndsBody (o.elim [] w.response ++ l) := by
  cases o with
  | none => exact hl.mono fun _ hk => hk.toEndsBody
  | some r =>
    obtain ⟨k, hk⟩ : ∃ k, w.response r ++ l = r.version.value.name.toList ++ k :=
      ⟨_, by simp only [Layout.response, Layout.line, List.append_assoc]; rfl⟩
    rw [Option.elim_some, hk]
    exact .of (endsBody_version r.version.value)

/-- An entry is behind its comments no response. -/
theorem led_entry {e : Entry} (he : e.Printable w) : Led w EndsResponse (w.entry e ++ l) := by
  have hr := he.request
  obtain ⟨k, hk⟩ : ∃ k, w.entry e ++ l = e.request.comments.flatMap w.comment ++
      (e.request.method.name.toList ++ ' ' :: (e.request.url.value.toList ++ k)) :=
    ⟨_, by
      simp only [Layout.entry, Layout.request, Layout.line, List.append_assoc, List.cons_append]
      rfl⟩
  exact ⟨_, _, hr.comments, hk, endsResponse_request _ hr.url⟩

/-- **An entry is read back.** -/
theorem Reads.entry {e : Entry} (he : e.Printable w) (hl : Led w EndsResponse l) :
    Reads text entry (w.entry e ++ l) l fun a => a.unplaced = e.unplaced := by
  rw [show w.entry e ++ l = w.request e.request ++ (e.response.elim [] w.response ++ l) from
    List.append_assoc ..]
  refine (Reads.request he.request (led_response hl)).bind fun r hr => ?_
  have hresponse : Reads text (Rule.optional Grammar.response)
      (e.response.elim [] w.response ++ l) l fun a =>
        a.map (·.unplaced) = e.response.map (·.unplaced) := by
    cases hresponse : e.response with
    | none => exact (Reads.optional_none (.response hl)).mono fun a ha => by rw [ha]
    | some r =>
      refine (Reads.response (he.response r hresponse)
        (hl.mono fun _ hk => hk.toEndsBody)).optional.mono fun a ha => ?_
      obtain ⟨b, rfl, hb⟩ := ha
      exact congrArg some hb
  refine hresponse.bind fun o ho => .pure ?_
  simp [Entry.unplaced, hr, ho]

/-- **The entries of a script are read back**, up to the end of the text. -/
theorem Reads.entries {entries : List Entry} (h : ∀ e ∈ entries, e.Printable w) :
    Reads text (Rule.zeroOrMore Grammar.entry) (entries.flatMap w.entry) [] fun as =>
      as.map (·.unplaced) = entries.map (·.unplaced) := by
  have hread : Reads text (Rule.zeroOrMore Grammar.entry) (entries.flatMap w.entry ++ []) []
      fun as => as.map (·.unplaced) = entries.map (·.unplaced) := by
    refine Reads.zeroOrMore_items (fun e he k hk => Reads.entry (h e he) hk) (fun e he => ?_)
      (fun e he k _ => led_entry (h e he)) (.of endsResponse_nil) fun hne => (hne rfl).elim
    simp [Layout.entry, Layout.request, Layout.line]
  rwa [List.append_nil] at hread

end HttpScript.Grammar

namespace HttpScript.Script

open Grammar Text

/-- **Reading undoes printing**, up to positions. -/
theorem read?_print (w : Layout) {s : Script} (h : s.Printable w) :
    ∃ script, read? (.ofList (print w s)) = .ok script ∧ script.unplaced = s.unplaced := by
  have hrule : Reads (print w s).toArray rule (print w s) [] fun a => a.unplaced = s.unplaced := by
    refine (Reads.entries h).bind fun entries hentries => ?_
    have hend : Reads (print w s).toArray (Rule.zeroOrMore lineEnd)
        (([] : List Comment).flatMap w.comment ++ []) [] _ :=
      Reads.commentLines (by simp) (headNot_nil _)
    refine hend.bind fun _ _ => .pure ?_
    simp [unplaced, hentries]
  have hbefore := State.before_ofText (.ofList (print w s))
  rw [String.toList_ofList] at hbefore
  have hstop := hrule _ hbefore
  unfold read?
  cases hs : rule (State.ofText (.ofList (print w s))) with
  | error e t =>
    rw [hs] at hstop
    exact hstop.elim
  | ok script t =>
    rw [hs] at hstop
    obtain ⟨ht, hscript⟩ := hstop
    refine ⟨script, ?_, hscript⟩
    have hpeek : t.cursor.peek? = none := by rw [Cursor.peek?_eq_head?, ht.rest_eq]; rfl
    simp only [hpeek]


/-! ### An upload -/

/-- Lines that end with a carriage return, and one numeral for every number. -/
def twos : Layout := ⟨.carriageReturn, fun _ => ⟨false, ['2'], none⟩⟩

/-- An upload with a comment, a header with escapes, sections, and a body on either side. -/
def upload : Script :=
  ⟨[{ request :=
        { position := .start
          comments := [⟨"# an upload", .start⟩]
          method := .post
          url := ⟨"https://example.org/files?new", .start⟩
          headers := [⟨"Trace Id", ⟨" #1 ", .start⟩, .start⟩]
          query := []
          form := []
          multipart := [.text ⟨"note", ⟨"file", .start⟩, .start⟩,
            .file ⟨"data", "a/b.txt", none, .start⟩]
          cookies := []
          captures := [⟨"id", ⟨.jsonpath ⟨"$.id", .start⟩, none, .start⟩, .start⟩]
          asserts := [⟨⟨.body, some .count, .start⟩, ⟨true, .countEquals 2, .start⟩, .start⟩]
          body := some ⟨.json ⟨"[true]", .start⟩, .start⟩ }
      response := some
        { position := .start
          version := ⟨.any, .start⟩
          status := ⟨.code 201, .start⟩
          headers := []
          captures := []
          asserts := [⟨⟨.duration, none, .start⟩,
            ⟨false, .ordered .less (Numeral.value ⟨false, ['2'], none⟩), .start⟩, .start⟩]
          body := some ⟨.raw ⟨"done", .start⟩, .start⟩ } }]⟩

theorem read?_print_upload : upload.Printable twos ∧
    ∃ script, read? (.ofList (print twos upload)) = .ok script ∧
      script.unplaced = upload.unplaced := by
  have hcomment : (⟨"# an upload", .start⟩ : Comment).Printable := ⟨rfl, by simp [isLineBreak]⟩
  have htext : (Part.text ⟨"note", ⟨"file", .start⟩, .start⟩).Printable :=
    ⟨show "note" ≠ "" by decide, by decide⟩
  have hfile : (Part.file ⟨"data", "a/b.txt", none, .start⟩).Printable :=
    ⟨by decide, ⟨by decide, List.all_eq_true.mp rfl, by decide⟩, by decide⟩
  have hjson : (Content.json ⟨"[true]", .start⟩).Printable :=
    ⟨fun c hc => Option.some.inj hc ▸ rfl, by decide⟩
  have hraw : (Content.raw ⟨"done", .start⟩).Printable := by
    show ¬ marker.toList <:+: _
    decide
  have htwo : (⟨false, ['2'], none⟩ : Numeral).Writes (Numeral.value ⟨false, ['2'], none⟩) :=
    ⟨⟨by decide, List.all_eq_true.mp rfl⟩, by simp, fun _ => ⟨by decide, by decide⟩, rfl⟩
  have hprintable : upload.Printable twos := by
    intro e he
    rw [List.mem_singleton.mp he]
    have hurl : IsUrl "https://example.org/files?new" :=
      ⟨by decide, List.all_eq_true.mp rfl, by decide⟩
    refine ⟨⟨?_, hurl, ?_, ?_, ?_, ?_, ?_, ?_, ?_, ?_⟩, ?_⟩
    · simpa using hcomment
    · simp [Field.Printable]
    · simp
    · simp
    · simpa using ⟨htext, hfile⟩
    · simp
    · simp [Capture.Printable]
    · simp [Assert.Printable, Condition.Printable]
    · simpa using hjson
    · rintro r ⟨⟩
      refine ⟨by simp, by simp, ?_, ?_⟩
      · simpa [Assert.Printable, Condition.Printable, twos] using htwo
      · simpa using hraw
  exact ⟨hprintable, read?_print twos hprintable⟩

end HttpScript.Script
