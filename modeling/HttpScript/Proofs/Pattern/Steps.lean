import HttpScript.Pattern.Match
import Mathlib.Data.Finset.Card
import Mathlib.Data.Finset.Range

/-! # Threads of a program

What a thread can do, without the order in which a search visits threads: it reads a character, or
it goes on at the same place. A thread that can get to the end of the program *leads* to a match.
Of the ways that a branch offers, the *preferred* one is the first that leads to a match without
coming back to an instruction at the same place.

* `Leads`, `Prefers`: both by the instructions alone.
* `Leads.step`: a way to a match need not come back to where it is.
* `Leads.exists_prefers`: where there is a match, there is a preferred one.
* `Run`: any steps of a thread, counted; `Prefers.run` and `Run.leads` compare the three. -/

namespace HttpScript.Pattern

/-- The place behind the first `i` characters of a text. -/
def placeAt (l : List Char) (i : Nat) : Place := ⟨(l.take i).getLast?, l[i]?, i⟩

/-- The instructions that a thread goes on with at the same place, the preferred one first. -/
def nexts (p : Program) (place : Place) (q : Nat) : List Nat :=
  match p[q]? with
  | some (.look a n) => if a.holds place then [n] else []
  | some (.openGroup n) => [n]
  | some (.closeGroup n) => [n]
  | some (.branch a b) => [a, b]
  | _ => []

/-- What a thread has captured when it goes on. -/
def marked (p : Program) (place : Place) (q : Nat) (c : Capture) : Capture :=
  match p[q]? with
  | some (.openGroup _) => { c with first := some place.offset }
  | some (.closeGroup _) => { c with last := some place.offset }
  | _ => c

/-- The instruction that a thread goes on with when it has read a character. -/
def readsTo (p : Program) (q : Nat) (c : Option Char) : Option Nat :=
  match p[q]?, c with
  | some (.read s n), some c => if s.contains c.toNat then some n else none
  | _, _ => none

/-- **A thread leads to a match** from a place of the text, without standing at an instruction of
`V` before it reads a character. -/
inductive Leads (p : Program) (l : List Char) : Finset Nat → Nat → Nat → Prop
  | done {V q i} : q ∉ V → p[q]? = some .done → Leads p l V q i
  | read {V q i n} : q ∉ V → readsTo p q l[i]? = some n → Leads p l ∅ n (i + 1) → Leads p l V q i
  | go {V q i n} : q ∉ V → n ∈ nexts p (placeAt l i) q → Leads p l V n i → Leads p l V q i

/-- **The preferred match** of a thread that has captured `c`, by what it has captured then. -/
inductive Prefers (p : Program) (l : List Char) :
    Finset Nat → Nat → Nat → Capture → Capture → Prop
  | done {V q i c} : q ∉ V → p[q]? = some .done → Prefers p l V q i c c
  | read {V q i n c d} : q ∉ V → readsTo p q l[i]? = some n → Prefers p l ∅ n (i + 1) c d →
    Prefers p l V q i c d
  | go {V q i n before after c d} : q ∉ V → nexts p (placeAt l i) q = before ++ n :: after →
    (∀ m ∈ before, ¬ Leads p l (insert q V) m i) →
    Prefers p l (insert q V) n i (marked p (placeAt l i) q c) d → Prefers p l V q i c d

variable {p : Program} {l : List Char} {V W : Finset Nat} {q i n : Nat} {c d : Capture}

theorem Leads.notMem (h : Leads p l V q i) : q ∉ V := by
  cases h <;> assumption

theorem Leads.mono (hV : V ⊆ W) (h : Leads p l W q i) : Leads p l V q i := by
  induction h with
  | done hq hdone => exact .done (fun h => hq (hV h)) hdone
  | read hq hread hn => exact .read (fun h => hq (hV h)) hread hn
  | go hq hn _ ih => exact .go (fun h => hq (hV h)) hn (ih hV)

/-- The first step of a way to a match that does not come back. -/
def Steps (p : Program) (l : List Char) (V : Finset Nat) (q i : Nat) : Prop :=
  p[q]? = some .done ∨ (∃ n, readsTo p q l[i]? = some n ∧ Leads p l ∅ n (i + 1)) ∨
    ∃ n ∈ nexts p (placeAt l i) q, Leads p l (insert q V) n i

/-- A way to a match avoids an instruction, or there is one from that on that does not come back. -/
theorem Leads.avoid (h : Leads p l V q i) (r : Nat) :
    Leads p l (insert r V) q i ∨ Steps p l V r i := by
  induction h with
  | @done V q i hq hdone =>
    by_cases hr : q = r
    · exact .inr (.inl (hr ▸ hdone))
    · exact .inl (.done (by simp [hr, hq]) hdone)
  | @read V q i n hq hread hn _ =>
    by_cases hr : q = r
    · exact .inr (.inr (.inl ⟨n, hr ▸ hread, hn⟩))
    · exact .inl (.read (by simp [hr, hq]) hread hn)
  | @go V q i n hq hn _ ih =>
    rcases ih with h | h
    · by_cases hr : q = r
      · exact .inr (.inr (.inr ⟨n, hr ▸ hn, h⟩))
      · exact .inl (.go (by simp [hr, hq]) hn h)
    · exact .inr h

theorem Leads.step (h : Leads p l V q i) : Steps p l V q i :=
  (h.avoid q).resolve_left fun h => h.notMem (Finset.mem_insert_self q V)

theorem Leads.lt_size (h : Leads p l V q i) : q < p.size := by
  by_contra hq
  have hnone : p[q]? = none := Array.getElem?_eq_none (Nat.le_of_not_lt hq)
  rcases h.step with h | ⟨n, h, -⟩ | ⟨n, h, -⟩
  · simp [hnone] at h
  · simp [readsTo, hnone] at h
  · simp [nexts, hnone] at h

theorem lt_length_of_readsTo (h : readsTo p q l[i]? = some n) : i < l.length := by
  by_contra hi
  rw [List.getElem?_eq_none (Nat.le_of_not_lt hi)] at h
  unfold readsTo at h
  split at h
  · rename_i h'
    cases h'
  · cases h

/-- The first of some instructions that leads to a match. -/
theorem exists_first_leads {ns : List Nat} (h : ∃ n ∈ ns, Leads p l V n i) :
    ∃ before n after, ns = before ++ n :: after ∧ (∀ m ∈ before, ¬ Leads p l V m i) ∧
      Leads p l V n i := by
  classical
  obtain ⟨n, hn, hlead⟩ := h
  obtain ⟨m, hm⟩ := Option.isSome_iff_exists.1
    (List.find?_isSome (p := fun n => decide (Leads p l V n i)).2 ⟨n, hn, by simpa using hlead⟩)
  obtain ⟨hm, before, after, hns, hbefore⟩ := List.find?_eq_some_iff_append.1 hm
  exact ⟨before, m, after, hns, fun m hm => by simpa using hbefore m hm, by simpa using hm⟩

/-- **Where there is a match, there is a preferred one.** -/
theorem Leads.exists_prefers {V : Finset Nat} {q i : Nat} (h : Leads p l V q i) (c : Capture) :
    ∃ d, Prefers p l V q i c d := by
  -- A step reads a character or adds an instruction to those that are avoided.
  rcases h.step with hdone | ⟨n, hread, hn⟩ | hgo
  · exact ⟨c, .done h.notMem hdone⟩
  · obtain ⟨d, hd⟩ := hn.exists_prefers c
    exact ⟨d, .read h.notMem hread hd⟩
  · obtain ⟨before, n, after, hns, hbefore, hn⟩ := exists_first_leads hgo
    obtain ⟨d, hd⟩ := hn.exists_prefers (marked p (placeAt l i) q c)
    exact ⟨d, .go h.notMem hns hbefore hd⟩
termination_by (l.length - i, (Finset.range p.size \ V).card)
decreasing_by
  · exact Prod.Lex.left _ _ (by have := lt_length_of_readsTo hread; omega)
  · have hq : q ∈ Finset.range p.size \ V :=
      Finset.mem_sdiff.2 ⟨Finset.mem_range.2 h.lt_size, h.notMem⟩
    rw [Finset.sdiff_insert]
    exact Prod.Lex.right _ (Finset.card_erase_lt_of_mem hq)

/-! ### Runs -/

/-- A place in a text and what has been captured there. -/
structure Spot where
  offset : Nat
  capture : Capture

/-- **One step of a thread** from an instruction and a spot to others. -/
inductive Step (p : Program) (l : List Char) : Nat → Spot → Nat → Spot → Prop
  | read {q σ n} : readsTo p q l[σ.offset]? = some n → Step p l q σ n ⟨σ.offset + 1, σ.capture⟩
  | go {q σ n} : n ∈ nexts p (placeAt l σ.offset) q →
    Step p l q σ n ⟨σ.offset, marked p (placeAt l σ.offset) q σ.capture⟩

/-- `k` steps of a thread. -/
inductive Run (p : Program) (l : List Char) : Nat → Nat → Spot → Nat → Spot → Prop
  | refl {q σ} : Run p l 0 q σ q σ
  | step {k q σ n υ e τ} : Step p l q σ n υ → Run p l k n υ e τ → Run p l (k + 1) q σ e τ

theorem Run.trans {k m r e : Nat} {σ τ υ : Spot} (h : Run p l k q σ r τ)
    (h' : Run p l m r τ e υ) : Run p l (k + m) q σ e υ := by
  induction h with
  | refl => rwa [Nat.zero_add]
  | step hstep _ ih => exact Nat.succ_add _ _ ▸ .step hstep (ih h')

theorem Run.offset_le {k e : Nat} {σ τ : Spot} (h : Run p l k q σ e τ)
    (hσ : σ.offset ≤ l.length) : τ.offset ≤ l.length := by
  induction h with
  | refl => exact hσ
  | step hstep _ ih =>
    cases hstep with
    | read hread => exact ih (lt_length_of_readsTo hread)
    | go _ => exact ih hσ

theorem Run.leads {k e : Nat} {σ τ : Spot} (h : Run p l k q σ e τ) (he : p[e]? = some .done) :
    Leads p l ∅ q σ.offset := by
  induction h with
  | refl => exact .done (Finset.notMem_empty _) he
  | step hstep _ ih =>
    cases hstep with
    | read hread => exact .read (Finset.notMem_empty _) hread (ih he)
    | go hn => exact .go (Finset.notMem_empty _) hn (ih he)

theorem Prefers.run (h : Prefers p l V q i c d) :
    ∃ k e τ, Run p l k q ⟨i, c⟩ e τ ∧ p[e]? = some .done ∧ τ.capture = d := by
  induction h with
  | done _ hdone => exact ⟨0, _, _, .refl, hdone, rfl⟩
  | read _ hread _ ih =>
    obtain ⟨k, e, τ, hrun, hdone, hd⟩ := ih
    exact ⟨k + 1, e, τ, .step (.read hread) hrun, hdone, hd⟩
  | go _ hns _ _ ih =>
    obtain ⟨k, e, τ, hrun, hdone, hd⟩ := ih
    exact ⟨k + 1, e, τ, .step (.go (by simp [hns])) hrun, hdone, hd⟩

theorem Prefers.leads (h : Prefers p l V q i c d) : Leads p l V q i := by
  induction h with
  | done hq hdone => exact .done hq hdone
  | read hq hread _ ih => exact .read hq hread ih
  | go hq hns _ _ ih => exact .go hq (by simp [hns]) (ih.mono (Finset.subset_insert _ _))

end HttpScript.Pattern
