import HttpScript.Proofs.Pattern.Closed
import HttpScript.Proofs.Pattern.Compile
import Mathlib.Data.Nat.Find

/-! # Matching a whole text

A pattern between the assertions of both ends is found where the pattern matches all of the text.

* `Node.leads_iff`, `Node.Preferred.matches`: the program of a node against what the node matches.
* `Node.Finds`, `Node.finds_search`: what is to be found in a text, and that a search finds it.
* `Engine.Follows`: an engine that accepts the patterns of a dialect and finds them so.
* `Node.Covers`, `Node.CoversBest`: a node matches the whole text, and the preferred way to do so.
* `Node.search_whole_eq_some_iff`, `Node.search_whole_eq_none_iff`: what is found of it. -/

namespace HttpScript.Pattern

variable {l : List Char} {n : Node} {i : Nat} {c d : Capture}

namespace Node

/-- The program of a node matches what the node matches, and then comes to its end. -/
theorem program_codes (l : List Char) (n : Node) :
    Codes n.program.2 l (n.Matches l) 1 n.program.2.size n.program.1 0 :=
  (emits_compile l n 0).codes #[.done] n.program.2 fun _ _ _ => rfl

theorem program_done (n : Node) : n.program.2[0]? = some .done :=
  (emits_compile [] n 0).keeps #[.done] 0 (by simp)

/-- Where a run through the program of a node ends, the node has matched. -/
theorem matches_of_run {k e : Nat} {σ τ : Spot} (h : Run n.program.2 l k n.program.1 σ e τ)
    (he : n.program.2[e]? = some .done) : n.Matches l σ τ := by
  have hcodes := program_codes l n
  have hout : e < 1 ∨ n.program.2.size ≤ e := by
    by_contra hin
    exact hcodes.endless e (by omega) (by omega) he
  obtain ⟨m, -, υ, hυ, hrun⟩ := hcodes.sound h hout
  -- Behind the node there is only the end.
  cases hrun with
  | refl => exact hυ
  | step hstep _ =>
    rw [step_iff] at hstep
    simp [readsTo, nexts, program_done] at hstep

theorem leads_iff (c : Capture) :
    Leads n.program.2 l ∅ n.program.1 i ↔ ∃ τ, n.Matches l ⟨i, c⟩ τ := by
  constructor
  · intro h
    obtain ⟨d, hd⟩ := h.exists_prefers c
    obtain ⟨k, e, τ, hrun, he, -⟩ := hd.run
    exact ⟨τ, matches_of_run hrun he⟩
  · rintro ⟨τ, hτ⟩
    obtain ⟨k, hrun⟩ := (program_codes l n).complete hτ
    exact hrun.leads (program_done n)

/-- The preferred match of a node from a place on, by what it captures. -/
def Preferred (n : Node) (l : List Char) (i : Nat) (d : Capture) : Prop :=
  Prefers n.program.2 l ∅ n.program.1 i ⟨none, none⟩ d

theorem Preferred.matches (h : n.Preferred l i d) : ∃ j, n.Matches l ⟨i, ⟨none, none⟩⟩ ⟨j, d⟩ := by
  obtain ⟨k, e, τ, hrun, he, rfl⟩ := Prefers.run h
  exact ⟨τ.offset, matches_of_run hrun he⟩

end Node

theorem Node.Matches.offset_le {σ τ : Spot} (h : n.Matches l σ τ) (hσ : σ.offset ≤ l.length) :
    τ.offset ≤ l.length := by
  obtain ⟨k, hrun⟩ := (n.program_codes l).complete h
  exact hrun.offset_le hσ

/-! ### What is found -/

/-- **What is found of a node in a text**: of its leftmost matches the preferred one, by what it
captures. -/
inductive Node.Finds (n : Node) (l : List Char) : Option Capture → Prop
  | found {i : Nat} {d : Capture} (hi : i ≤ l.length)
      (hfirst : ∀ k < i, ∀ τ, ¬ n.Matches l ⟨k, ⟨none, none⟩⟩ τ) (hbest : n.Preferred l i d) :
      Finds n l (some d)
  | nothing (h : ∀ k ≤ l.length, ∀ τ, ¬ n.Matches l ⟨k, ⟨none, none⟩⟩ τ) : Finds n l none

theorem Node.leads_iff_exists (k : Nat) : Leads n.program.2 l ∅ n.program.1 k ↔
    ∃ τ, n.Matches l ⟨k, ⟨none, none⟩⟩ τ := leads_iff ⟨none, none⟩

theorem Node.Finds.search_eq {o : Option Capture} (h : n.Finds l o) : n.search l = o := by
  cases h with
  | found hi hfirst hbest =>
    exact search_eq_some hi (fun k hk => by simpa [leads_iff_exists] using hfirst k hk) hbest
  | nothing h => exact search_eq_none fun k hk => by simpa [leads_iff_exists] using h k hk

/-- **A search finds** what there is to be found. -/
theorem Node.finds_search (n : Node) (l : List Char) : n.Finds l (n.search l) := by
  classical
  obtain ⟨o, ho⟩ : ∃ o, n.Finds l o := by
    by_cases hmatch : ∃ k, k ≤ l.length ∧ ∃ τ, n.Matches l ⟨k, ⟨none, none⟩⟩ τ
    · obtain ⟨hi, hτ⟩ := Nat.find_spec hmatch
      obtain ⟨d, hbest⟩ := ((leads_iff_exists _).2 hτ).exists_prefers ⟨none, none⟩
      refine ⟨some d, .found hi (fun k hk τ hτ => ?_) hbest⟩
      exact Nat.find_min hmatch hk ⟨hk.le.trans hi, τ, hτ⟩
    · exact ⟨none, .nothing fun k hk τ hτ => hmatch ⟨k, hk, τ, hτ⟩⟩
  rw [ho.search_eq]
  exact ho

/-- **An engine for the patterns of a dialect**: it accepts just these, and it finds what is to be
found of them. -/
structure Engine.Follows (E : Engine) (D : Dialect) : Prop where
  accepts : ∀ p, (E.compile p).isSome = (D.read? p).isSome
  finds : ∀ p c n l, E.compile p = some c → D.read? p = some n → n.Finds l (E.search c l)

theorem Engine.of_follows (D : Dialect) : (Engine.of D).Follows D where
  accepts _ := rfl
  finds p c n l hc hn := by
    obtain rfl : c = n := Option.some.inj (hc.symm.trans hn)
    exact c.finds_search l

/-! ### The whole text -/

/-- **A node matches a whole text** and captures `d`. -/
def Node.Covers (n : Node) (l : List Char) (d : Capture) : Prop :=
  n.Matches l ⟨0, ⟨none, none⟩⟩ ⟨l.length, d⟩

theorem holds_textStart (h : i ≤ l.length) :
    Look.textStart.holds (placeAt l i) = true ↔ i = 0 := by
  have hlength : (l.take i).length = i := List.length_take_of_le h
  cases i with
  | zero => simp [Look.holds, placeAt]
  | succ i =>
    have hne : l.take (i + 1) ≠ [] := fun h => by simp [h] at hlength
    simp [Look.holds, placeAt, List.getLast?_eq_some_getLast hne]

theorem holds_textEnd (h : i ≤ l.length) :
    Look.textEnd.holds (placeAt l i) = true ↔ i = l.length := by
  simp only [Look.holds, placeAt, Option.isNone_iff_eq_none, List.getElem?_eq_none_iff]
  omega

theorem Node.whole_matches_iff {σ τ : Spot} (h : σ.offset ≤ l.length) :
    n.whole.Matches l σ τ ↔ σ.offset = 0 ∧ n.Matches l σ τ ∧ τ.offset = l.length := by
  have hwhole : n.whole.Matches l = Relation.Comp (looks l .textStart)
      (Relation.Comp (n.Matches l) (Relation.Comp (looks l .textEnd) (· = ·))) := by
    simp only [whole, Matches, MatchesAll, zero_ne_one, if_false]
  rw [hwhole]
  constructor
  · rintro ⟨υ, ⟨hstart, rfl⟩, υ', hn, υ'', ⟨hend, rfl⟩, rfl⟩
    exact ⟨(holds_textStart h).1 hstart, hn, (holds_textEnd (hn.offset_le h)).1 hend⟩
  · rintro ⟨hstart, hn, hend⟩
    exact ⟨σ, ⟨(holds_textStart h).2 hstart, rfl⟩, τ, hn, τ,
      ⟨(holds_textEnd hend.le).2 hend, rfl⟩, rfl⟩

/-- **The preferred way to cover a text**: that of the pattern with its ends asserted. -/
def Node.CoversBest (n : Node) (l : List Char) (d : Capture) : Prop := n.whole.Preferred l 0 d

theorem Node.CoversBest.covers (h : n.CoversBest l d) : n.Covers l d := by
  obtain ⟨j, hj⟩ := Preferred.matches h
  obtain ⟨-, hn, hend⟩ := (whole_matches_iff (Nat.zero_le _)).1 hj
  obtain rfl : j = l.length := hend
  exact hn

theorem Node.Covers.exists_best (h : n.Covers l d) : ∃ d', n.CoversBest l d' :=
  ((leads_iff ⟨none, none⟩).2
    ⟨_, (whole_matches_iff (Nat.zero_le _)).2 ⟨rfl, h, rfl⟩⟩).exists_prefers _

theorem Node.CoversBest.search (h : n.CoversBest l d) : n.whole.search l = some d :=
  search_eq_some (Nat.zero_le _) (by simp) h

theorem Node.search_whole_eq_none (h : ∀ d, ¬ n.Covers l d) : n.whole.search l = none := by
  refine search_eq_none fun k hk hleads => ?_
  obtain ⟨τ, hτ⟩ := (leads_iff ⟨none, none⟩).1 hleads
  obtain ⟨hstart, hn, hend⟩ := (whole_matches_iff hk).1 hτ
  obtain rfl : k = 0 := hstart
  refine h τ.capture ?_
  rw [Covers, ← hend]
  exact hn

/-- **What is found of a pattern in a whole text** is the preferred way to cover that. -/
theorem Node.search_whole_eq_some_iff : n.whole.search l = some d ↔ n.CoversBest l d := by
  refine ⟨fun h => ?_, fun h => h.search⟩
  by_cases hcovers : ∃ d, n.Covers l d
  · obtain ⟨d', hd'⟩ := hcovers
    obtain ⟨d', hbest⟩ := hd'.exists_best
    rw [hbest.search] at h
    exact Option.some.inj h ▸ hbest
  · rw [search_whole_eq_none (not_exists.1 hcovers)] at h
    cases h

theorem Node.search_whole_eq_none_iff : n.whole.search l = none ↔ ∀ d, ¬ n.Covers l d := by
  refine ⟨fun h d hd => ?_, search_whole_eq_none⟩
  obtain ⟨d', hbest⟩ := hd.exists_best
  rw [hbest.search] at h
  cases h

end HttpScript.Pattern
