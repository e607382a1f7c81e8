import HttpScript.Http.Content
import HttpScript.Proofs.Http.Hop
import Mathlib.Data.List.Forall2
import Mathlib.Data.List.TakeWhile

/-! # Codings of a body and how headers announce them

A body that was coded by a row of codings is decoded by undoing them from the last to the first. The
row is read off the headers, in which it can be written in many ways: in any case of the letters,
over several headers, with white space around the names and with nothing between two commas.

* `Lists`, `Announces`: what header values and headers announce, said by how they are written.
  `announces_iff`: headers announce one list of names, which is the one that is read off them.
* `Coding.Spelled`: the names of the codings. `Coding.ofName_eq_ok_iff`: they are what is accepted.
* `Coding.Applied`: a body coded by a row of codings, each of which its decoder undoes.
* `contentWith_announced`: the content of a response is the body before it was coded, or the first
  other name is reported. -/

namespace HttpScript

/-! ### White space around a text -/

namespace Text

/-- **A text without white space at its ends.** -/
def Trimmed (l : List Char) : Prop :=
  (∀ c ∈ l.head?, isWhite c = false) ∧ ∀ c ∈ l.getLast?, isWhite c = false

theorem dropWhile_front {before l : List Char} (hbefore : ∀ c ∈ before, isWhite c = true)
    (hl : ∀ c ∈ l.head?, isWhite c = false) : (before ++ l).dropWhile isWhite = l := by
  rw [List.dropWhile_append_of_pos hbefore]
  cases l with
  | nil => rfl
  | cons c l => rw [List.dropWhile_cons_of_neg (by simp [hl c rfl])]

theorem trim_of_white {l : List Char} (h : ∀ c ∈ l, isWhite c = true) : trim l = [] := by
  have hdrop := dropWhile_front h (l := []) (by simp)
  rw [List.append_nil] at hdrop
  unfold trim
  rw [hdrop]
  rfl

theorem trim_surrounded {before name after : List Char} (hbefore : ∀ c ∈ before, isWhite c = true)
    (hafter : ∀ c ∈ after, isWhite c = true) (hne : name ≠ []) (hname : Trimmed name) :
    trim (before ++ name ++ after) = name := by
  have hfront : (before ++ (name ++ after)).dropWhile isWhite = name ++ after := by
    refine dropWhile_front hbefore ?_
    obtain ⟨c, l, rfl⟩ := List.exists_cons_of_ne_nil hne
    exact hname.1
  have hback : (after.reverse ++ name.reverse).dropWhile isWhite = name.reverse := by
    refine dropWhile_front (fun c hc => hafter c (List.mem_reverse.mp hc)) ?_
    rw [List.head?_reverse]
    exact hname.2
  unfold trim
  rw [List.append_assoc, hfront, List.reverse_append, hback, List.reverse_reverse]

theorem exists_trim (l : List Char) : ∃ before after, (∀ c ∈ before, isWhite c = true) ∧
    (∀ c ∈ after, isWhite c = true) ∧ l = before ++ trim l ++ after ∧ Trimmed (trim l) := by
  have hfront : l = l.takeWhile isWhite ++ l.dropWhile isWhite := List.takeWhile_append_dropWhile.symm
  generalize hm : l.dropWhile isWhite = m at hfront
  have hback : m = trim l ++ (m.reverse.takeWhile isWhite).reverse := by
    have hsplit := congrArg List.reverse
      (List.takeWhile_append_dropWhile (p := isWhite) (l := m.reverse))
    rw [List.reverse_append, List.reverse_reverse] at hsplit
    rw [trim, hm]
    exact hsplit.symm
  refine ⟨l.takeWhile isWhite, (m.reverse.takeWhile isWhite).reverse,
    fun c hc => List.mem_takeWhile_imp hc,
    fun c hc => List.mem_takeWhile_imp (List.mem_reverse.mp hc), ?_, fun c hc => ?_, fun c hc => ?_⟩
  · rw [List.append_assoc, ← hback]
    exact hfront
  · have hhead := List.head?_dropWhile_not isWhite l
    have hmem : c ∈ m.head? := by
      rw [hback]
      cases ht : trim l with
      | nil => rw [ht] at hc; cases hc
      | cons d t => rw [ht] at hc; exact hc
    rw [hm, Option.mem_def.mp hmem] at hhead
    exact hhead
  · have hlast := List.head?_dropWhile_not isWhite m.reverse
    rw [trim, hm, List.getLast?_reverse] at hc
    rw [Option.mem_def.mp hc] at hlast
    exact hlast

end Text

namespace Http

open Text

/-! ### What headers announce -/

/-- **A header value lists names**, as its characters say: names with white space around them,
commas between them, and blanks where a name could be. -/
inductive Lists : List Char → List String → Prop
  | blank {l : List Char} (h : ∀ c ∈ l, isWhite c = true) : Lists l []
  | name {before name after : List Char} (hbefore : ∀ c ∈ before, isWhite c = true)
      (hafter : ∀ c ∈ after, isWhite c = true) (hne : name ≠ []) (hname : Trimmed name)
      (hcomma : ',' ∉ name) : Lists (before ++ name ++ after) [.ofList name]
  | comma {l m : List Char} {names others : List String} (hl : Lists l names)
      (hm : Lists m others) : Lists (l ++ ',' :: m) (names ++ others)

/-- **Headers announce names**: those listed by the values of the headers for codings, in any case
of the header's name, one after the other. -/
inductive Announces : Pairs → List String → Prop
  | nil : Announces [] []
  | other {p : String × String} {l : Pairs} {names : List String}
      (hp : sameName p.1 "Content-Encoding" = false) (h : Announces l names) :
      Announces (p :: l) names
  | header {p : String × String} {l : Pairs} {names others : List String}
      (hp : sameName p.1 "Content-Encoding" = true) (hnames : Lists p.2.toList names)
      (h : Announces l others) : Announces (p :: l) (names ++ others)

/-- The name in a piece between commas. -/
def nameIn? (piece : List Char) : Option String :=
  if (trim piece).isEmpty then none else some (.ofList (trim piece))

/-- The names that a header value is read as. -/
def namesIn (l : List Char) : List String := (l.splitOn ',').filterMap nameIn?

theorem announced_eq (values : List String) :
    Coding.announced values = values.flatMap fun v => namesIn v.toList := by
  unfold Coding.announced
  rw [List.filterMap_flatMap]
  congr 1
  funext v
  rw [List.filterMap_map]
  rfl

theorem comma_not_white {l : List Char} (h : ∀ c ∈ l, isWhite c = true) : ',' ∉ l :=
  fun hmem => absurd (h _ hmem) (by decide)

theorem namesIn_of_not_mem {l : List Char} (h : ',' ∉ l) : namesIn l = (nameIn? l).toList := by
  unfold namesIn
  rw [List.splitOn_eq_singleton h]
  cases hname : nameIn? l <;> simp [hname]

theorem Lists.namesIn_eq {l : List Char} {names : List String} (h : Lists l names) :
    namesIn l = names := by
  induction h with
  | blank hl =>
    rw [namesIn_of_not_mem (comma_not_white hl)]
    simp [nameIn?, trim_of_white hl]
  | @name before name after hbefore hafter hne hname hcomma =>
    have hnone : ',' ∉ before ++ name ++ after := by
      simp [comma_not_white hbefore, comma_not_white hafter, hcomma]
    rw [namesIn_of_not_mem hnone, nameIn?, trim_surrounded hbefore hafter hne hname]
    simp [hne]
  | comma _ _ hl hm =>
    unfold namesIn at hl hm ⊢
    rw [List.splitOn_append_cons_self, List.filterMap_append, hl, hm]

/-- Without a comma a value is blank or one name. -/
theorem lists_of_not_mem {l : List Char} (h : ',' ∉ l) : Lists l (nameIn? l).toList := by
  obtain ⟨before, after, hbefore, hafter, hl, hname⟩ := exists_trim l
  unfold nameIn?
  by_cases hne : trim l = []
  · rw [hne, List.append_nil] at hl
    rw [hne]
    refine .blank fun c hc => ?_
    rw [hl] at hc
    exact (List.mem_append.mp hc).elim (hbefore c) (hafter c)
  · have hlists : Lists (before ++ trim l ++ after) [.ofList (trim l)] :=
      .name hbefore hafter hne hname fun hc => h (by rw [hl]; simp [hc])
    rw [← hl] at hlists
    simpa [hne] using hlists

/-- Every value lists the names that it is read as. -/
theorem lists_namesIn (l : List Char) : Lists l (namesIn l) := by
  -- by the first comma, behind which the value is shorter
  induction hn : l.length using Nat.strong_induction_on generalizing l with
  | _ n ih =>
    by_cases h : ',' ∈ l
    · obtain ⟨first, others, rfl, hfirst⟩ := List.eq_append_cons_of_mem h
      have hothers := ih others.length (by simp at hn; omega) others rfl
      have hlists := (lists_of_not_mem hfirst).comma hothers
      rw [← namesIn_of_not_mem hfirst] at hlists
      unfold namesIn at hlists ⊢
      rwa [List.splitOn_append_cons_self, List.filterMap_append]
    · rw [namesIn_of_not_mem h]
      exact lists_of_not_mem h

/-- **Headers announce one list of names**, which is the one that is read off them. -/
theorem announces_iff (l : Pairs) (names : List String) :
    Announces l names ↔ Coding.announced (l.values "Content-Encoding") = names := by
  simp only [announced_eq]
  constructor
  · intro h
    induction h with
    | nil => rfl
    | other hp _ ih =>
      rw [← ih]
      simp [Pairs.values, hp]
    | header hp hnames _ ih =>
      rw [← ih, ← hnames.namesIn_eq]
      simp [Pairs.values, hp]
  · rintro rfl
    induction l with
    | nil => exact .nil
    | cons p l ih =>
      cases hp : sameName p.1 "Content-Encoding" with
      | false =>
        have hother := ih.other hp
        simpa [Pairs.values, hp] using hother
      | true =>
        have hheader := ih.header hp (lists_namesIn p.2.toList)
        simpa [Pairs.values, hp] using hheader

/-! ### Codings -/

namespace Coding

/-- The names of a coding. -/
def names : Coding → List String
  | gzip => ["gzip", "x-gzip"]
  | deflate => ["deflate"]
  | zstd => ["zstd"]
  | identity => ["identity"]

/-- **A name of a coding**, in any case of its letters. -/
def Spelled (name : String) (c : Coding) : Prop := ∃ n ∈ c.names, sameName name n = true

theorem spelled_iff (name : String) (c : Coding) :
    Spelled name c ↔ String.ofList (name.toList.map Char.toLower) ∈ c.names := by
  have hlower : ∀ n ∈ c.names, String.ofList (n.toList.map Char.toLower) = n := by
    cases c <;> decide
  constructor
  · rintro ⟨n, hn, hname⟩
    rwa [(sameName_iff name n).mp hname, hlower n hn]
  · intro h
    refine ⟨_, h, (sameName_iff _ _).mpr ?_⟩
    have hname := congrArg String.toList (hlower _ h)
    rw [String.toList_ofList] at hname
    rw [hname, String.toList_ofList]

/-- **The names of codings are what is accepted.** -/
theorem ofName_eq_ok_iff (name : String) (c : Coding) : ofName name = .ok c ↔ Spelled name c := by
  rw [spelled_iff]
  unfold ofName
  generalize String.ofList (name.toList.map Char.toLower) = lowered
  split <;> cases c <;> simp_all [names]

theorem ofName_error {name : String} (h : ∀ c, ¬ Spelled name c) :
    ofName name = .error (.unsupportedCoding name) := by
  have hnot : ∀ c, ofName name ≠ .ok c := fun c hc => h c ((ofName_eq_ok_iff name c).mp hc)
  unfold ofName at hnot ⊢
  revert hnot
  split
  case h_6 => exact fun _ => rfl
  all_goals exact fun hnot => absurd rfl (hnot _)

/-- **A body coded by a row of codings**: from the body `l` each coding makes one that its decoder
undoes, and the last one is `coded`. -/
inductive Applied (d : Decoders) : List Coding → List UInt8 → List UInt8 → Prop
  | nil {l : List UInt8} : Applied d [] l l
  | cons {c : Coding} {codings : List Coding} {l m coded : List UInt8} (hc : c.undo d m = .ok l)
      (h : Applied d codings m coded) : Applied d (c :: codings) l coded

/-- **Codings are undone from the last to the first.** -/
theorem Applied.undoAll_eq {d : Decoders} {codings : List Coding} {l coded : List UInt8}
    (h : Applied d codings l coded) : undoAll d coded codings = .ok l := by
  induction h with
  | nil => rfl
  | @cons c codings l m coded hc _ ih =>
    unfold undoAll at ih ⊢
    rw [List.reverse_cons, List.foldlM_append, ih]
    show (c.undo d m >>= pure) = .ok l
    rw [hc]
    rfl

theorem mapM_ofName {items : List String} {codings : List Coding}
    (h : List.Forall₂ Spelled items codings) : items.mapM ofName = .ok codings := by
  induction h with
  | nil => rfl
  | cons hname _ ih =>
    rw [List.mapM_cons, (ofName_eq_ok_iff _ _).mpr hname, ih]
    rfl

theorem mapM_ofName_error {known : List String} (hknown : ∀ n ∈ known, ∃ c, Spelled n c)
    {name : String} (hname : ∀ c, ¬ Spelled name c) (others : List String) :
    (known ++ name :: others).mapM ofName = .error (.unsupportedCoding name) := by
  induction known with
  | nil =>
    rw [List.nil_append, List.mapM_cons, ofName_error hname]
    rfl
  | cons n known ih =>
    obtain ⟨c, hc⟩ := hknown n (by simp)
    rw [List.cons_append, List.mapM_cons, (ofName_eq_ok_iff _ _).mpr hc,
      ih fun n hn => hknown n (by simp [hn])]
    rfl

end Coding

/-! ### The content of a response -/

/-- **The content of a response**, however its codings are announced and whatever the decoders are.
If all names are those of codings, and the body was coded by them in their order, it is the body
before that. Otherwise the first other name is reported, whatever the body is and the decoders
do. -/
theorem contentWith_announced {r : Response} {items : List String}
    (h : Announces r.headers items) :
    (∀ (d : Decoders) (codings : List Coding) (l : List UInt8),
      List.Forall₂ Coding.Spelled items codings → Coding.Applied d codings l r.body →
        r.contentWith d = .ok l) ∧
    ∀ known name others, items = known ++ name :: others →
      (∀ n ∈ known, ∃ c, Coding.Spelled n c) → (∀ c, ¬ Coding.Spelled name c) →
        ∀ d : Decoders, r.contentWith d = .error (.unsupportedCoding name) := by
  have hread : Coding.announced (r.header "Content-Encoding") = items :=
    (announces_iff r.headers items).mp h
  unfold Response.contentWith
  rw [hread]
  constructor
  · intro d codings l hspelled happlied
    rw [Coding.mapM_ofName hspelled]
    exact happlied.undoAll_eq
  · rintro known name others rfl hknown hname d
    rw [Coding.mapM_ofName_error hknown hname]
    rfl

/-- Two bytes that are framed, then deflated and then zipped, as three headers announce in any case
and with blanks; one more header names what is no coding. -/
theorem contentWith_announced_thrice :
    let framed : List UInt8 := [40, 181, 47, 253, 32, 2, 17, 0, 0, 104, 105]
    let deflated : List UInt8 := [120, 1, 1, 11, 0, 244, 255] ++ framed ++ [20, 222, 3, 14]
    let zipped : List UInt8 := [31, 139, 8, 0, 0, 0, 0, 0, 0, 255, 1, 22, 0, 233, 255] ++ deflated ++
      [47, 37, 143, 114, 22, 0, 0, 0]
    let headers : Pairs := [("content-ENCODING", " Zstd ,,"), ("Server", "br"),
      ("Content-Encoding", "deflate"), ("Content-Encoding", "\t, X-GZIP")]
    let known : Response := ⟨.http11, 200, headers, zipped, 0⟩
    let unknown : Response := ⟨.http11, 200, headers ++ [("Content-Encoding", "br, gzip")], [], 0⟩
    (Announces known.headers ["Zstd", "deflate", "X-GZIP"] ∧ known.content = .ok [104, 105]) ∧
      Announces unknown.headers ["Zstd", "deflate", "X-GZIP", "br", "gzip"] ∧
      unknown.content = .error (.unsupportedCoding "br") := by
  have hframed : Coding.undo .standard .zstd [40, 181, 47, 253, 32, 2, 17, 0, 0, 104, 105] =
      .ok [104, 105] := by decide +kernel
  intro framed deflated zipped headers known unknown
  have hknown : Announces known.headers ["Zstd", "deflate", "X-GZIP"] :=
    (announces_iff _ _).mpr (by decide +kernel)
  have hunknown : Announces unknown.headers ["Zstd", "deflate", "X-GZIP", "br", "gzip"] :=
    (announces_iff _ _).mpr (by decide +kernel)
  have hspelled : List.Forall₂ Coding.Spelled ["Zstd", "deflate", "X-GZIP"]
      [.zstd, .deflate, .gzip] := by
    simp only [List.forall₂_cons, List.forall₂_nil_left_iff, Coding.spelled_iff]
    decide
  have happlied : Coding.Applied .standard [.zstd, .deflate, .gzip] [104, 105] zipped :=
    .cons (m := framed) hframed
      (.cons (m := deflated) (by decide +kernel) (.cons (by decide +kernel) .nil))
  refine ⟨⟨hknown, (contentWith_announced hknown).1 .standard _ _ hspelled happlied⟩, hunknown,
    (contentWith_announced hunknown).2 ["Zstd", "deflate", "X-GZIP"] "br" ["gzip"] rfl ?_ ?_
      .standard⟩
  · intro n hn
    simp only [List.mem_cons, List.not_mem_nil, or_false] at hn
    rcases hn with rfl | rfl | rfl
    exacts [⟨.zstd, (Coding.spelled_iff _ _).mpr (by decide)⟩,
      ⟨.deflate, (Coding.spelled_iff _ _).mpr (by decide)⟩,
      ⟨.gzip, (Coding.spelled_iff _ _).mpr (by decide)⟩]
  · intro c
    rw [Coding.spelled_iff]
    cases c <;> decide

end Http

end HttpScript
