import HttpScript.Proofs.Pattern.Search
import Mathlib.Logic.Relation

/-! # What a program matches

The instructions of a node form a piece of a program: it is entered at one place and left for
another, and what runs through it is what the node matches. That a repetition ends is a matter of
the number of steps: each round leaves fewer of them behind it.

* `Node.Matches`: what a node matches, by the node alone.
* `Codes`: a piece of a program matches a relation; `Codes.comp`, `Codes.union`, `Codes.loop` put
  pieces together.
* `Emits`: a part of the compiler emits such a piece, wherever it stands.
* `emits_compile`: the instructions of a node match what the node matches. -/

namespace HttpScript.Pattern

open Relation

/-! ### What patterns match -/

/-- A relation between places of a text, with what has been captured at each. -/
abbrev Rel := Spot → Spot → Prop

/-- One relation or the other. -/
def either (R S : Rel) : Rel := fun σ τ => R σ τ ∨ S σ τ

/-- `k` times the same relation. -/
def times (R : Rel) : Nat → Rel
  | 0 => (· = ·)
  | k + 1 => Comp R (times R k)

theorem times_one (R : Rel) : times R 1 = R := comp_eq

theorem times_add (R : Rel) (j k : Nat) : times R (j + k) = Comp (times R j) (times R k) := by
  induction j with
  | zero =>
    rw [Nat.zero_add]
    exact eq_comp.symm
  | succ j ih =>
    rw [Nat.add_right_comm, times, ih, times, comp_assoc]

theorem comp_exists_times (R : Rel) (j : Nat) (P : Nat → Prop) :
    (Comp (times R j) fun σ τ => ∃ k, P k ∧ times R k σ τ) =
      fun σ τ => ∃ k, j ≤ k ∧ P (k - j) ∧ times R k σ τ := by
  funext σ τ
  rw [eq_iff_iff]
  constructor
  · rintro ⟨υ, hυ, k, hP, hτ⟩
    refine ⟨j + k, Nat.le_add_right j k, by rwa [Nat.add_sub_cancel_left], ?_⟩
    rw [times_add]
    exact ⟨υ, hυ, hτ⟩
  · rintro ⟨k, hjk, hP, hτ⟩
    rw [← Nat.add_sub_cancel' hjk, times_add] at hτ
    obtain ⟨υ, hυ, hτ⟩ := hτ
    exact ⟨υ, hυ, k - j, hP, hτ⟩

/-- A character of a set is read. -/
def reads (l : List Char) (s : CharSet) : Rel := fun σ τ =>
  (∃ c, l[σ.offset]? = some c ∧ s.contains c.toNat = true) ∧ τ = ⟨σ.offset + 1, σ.capture⟩

/-- An assertion holds at the place. -/
def looks (l : List Char) (a : Look) : Rel := fun σ τ => a.holds (placeAt l σ.offset) = true ∧ τ = σ

/-- The first group begins. -/
def opens : Rel := fun σ τ => τ = ⟨σ.offset, { σ.capture with first := some σ.offset }⟩

/-- The first group ends. -/
def closes : Rel := fun σ τ => τ = ⟨σ.offset, { σ.capture with last := some σ.offset }⟩

mutual

/-- **What a node matches in a text**, and what it captures. A repetition whose bound is below its
least number is taken that number of times. -/
def Node.Matches (l : List Char) : Node → Rel
  | .empty => (· = ·)
  | .set s => reads l s
  | .look a => looks l a
  | .group index n =>
    if index = 1 then Comp opens (Comp (n.Matches l) closes) else n.Matches l
  | .concat ns => Node.MatchesAll l ns
  | .alternatives ns => Node.MatchesAny l ns
  | .repeated least most _ n => fun σ τ =>
    ∃ k, least ≤ k ∧ (∀ m, most = some m → k ≤ max least m) ∧ times (n.Matches l) k σ τ

/-- What nodes match one behind the other. -/
def Node.MatchesAll (l : List Char) : List Node → Rel
  | [] => (· = ·)
  | n :: ns => Comp (n.Matches l) (Node.MatchesAll l ns)

/-- What one of some nodes matches; where there is none, nothing is read. -/
def Node.MatchesAny (l : List Char) : List Node → Rel
  | [] => (· = ·)
  | [n] => n.Matches l
  | n :: ns => either (n.Matches l) (Node.MatchesAny l ns)

end

variable {p : Program} {l : List Char} {R S : Rel} {lo mid hi q n next : Nat}

/-! ### Steps by instruction -/

theorem step_iff {σ υ : Spot} : Step p l q σ n υ ↔
    readsTo p q l[σ.offset]? = some n ∧ υ = ⟨σ.offset + 1, σ.capture⟩ ∨
      n ∈ nexts p (placeAt l σ.offset) q ∧
        υ = ⟨σ.offset, marked p (placeAt l σ.offset) q σ.capture⟩ := by
  constructor
  · rintro (h | h)
    · exact .inl ⟨h, rfl⟩
    · exact .inr ⟨h, rfl⟩
  · rintro (⟨h, rfl⟩ | ⟨h, rfl⟩)
    · exact .read h
    · exact .go h

theorem step_read_iff {s : CharSet} (h : p[q]? = some (.read s next)) {σ υ : Spot} :
    Step p l q σ n υ ↔ n = next ∧ reads l s σ υ := by
  rw [step_iff]
  cases hc : l[σ.offset]? with
  | none => simp [readsTo, nexts, reads, h, hc]
  | some c =>
    by_cases hs : s.contains c.toNat = true
    · rw [eq_comm (a := n)]
      simp [readsTo, nexts, reads, h, hc, hs]
    · simp [readsTo, nexts, reads, h, hc, hs]

theorem step_look_iff {a : Look} (h : p[q]? = some (.look a next)) {σ υ : Spot} :
    Step p l q σ n υ ↔ n = next ∧ looks l a σ υ := by
  rw [step_iff]
  by_cases ha : a.holds (placeAt l σ.offset) = true
  · simp [readsTo, nexts, marked, looks, h, ha]
  · simp [readsTo, nexts, looks, h, ha]

theorem step_openGroup_iff (h : p[q]? = some (.openGroup next)) {σ υ : Spot} :
    Step p l q σ n υ ↔ n = next ∧ opens σ υ := by
  rw [step_iff]
  simp [readsTo, nexts, marked, opens, h, placeAt]

theorem step_closeGroup_iff (h : p[q]? = some (.closeGroup next)) {σ υ : Spot} :
    Step p l q σ n υ ↔ n = next ∧ closes σ υ := by
  rw [step_iff]
  simp [readsTo, nexts, marked, closes, h, placeAt]

/-- A branch stands at `q`, in whichever order its ways are tried. -/
def Branches (p : Program) (q a b : Nat) : Prop :=
  p[q]? = some (.branch a b) ∨ p[q]? = some (.branch b a)

theorem Branches.step_iff {a b : Nat} (h : Branches p q a b) {σ υ : Spot} :
    Step p l q σ n υ ↔ (n = a ∨ n = b) ∧ υ = σ := by
  rw [Pattern.step_iff]
  rcases h with h | h
  · simp [readsTo, nexts, marked, h]
  · simp [readsTo, nexts, marked, h, or_comm]

theorem branches_branchTo {greedy : Bool} {a b : Nat} (h : p[q]? = some (branchTo greedy a b)) :
    Branches p q a b := by
  cases greedy with
  | true => exact .inl h
  | false => exact .inr h

theorem Branches.ne_done {a b : Nat} (h : Branches p q a b) : p[q]? ≠ some .done := by
  rcases h with h | h <;> simp [h]

/-! ### Pieces of programs -/

/-- **A piece of a program matches `R`**: its instructions are those from `lo` on and before `hi`,
it is entered at `q` and left for `next`. A run through it has no more steps left behind it. -/
structure Codes (p : Program) (l : List Char) (R : Rel) (lo hi q next : Nat) : Prop where
  sound : ∀ {k σ e τ}, Run p l k q σ e τ → (e < lo ∨ hi ≤ e) →
    ∃ m ≤ k, ∃ υ, R σ υ ∧ Run p l m next υ e τ
  complete : ∀ {σ τ}, R σ τ → ∃ k, Run p l k q σ next τ
  endless : ∀ i, lo ≤ i → i < hi → p[i]? ≠ some .done

namespace Codes

theorem nothing (lo next : Nat) : Codes p l (· = ·) lo lo next next where
  sound h _ := ⟨_, le_rfl, _, rfl, h⟩
  complete h := ⟨0, h ▸ .refl⟩
  endless i h h' := by omega

theorem comp (hR : Codes p l R mid hi q n) (hS : Codes p l S lo mid n next) (hlo : lo ≤ mid)
    (hhi : mid ≤ hi) : Codes p l (Comp R S) lo hi q next where
  sound hrun he := by
    obtain ⟨m, hm, υ, hυ, hrun⟩ := hR.sound hrun (by omega)
    obtain ⟨m', hm', τ, hτ, hrun⟩ := hS.sound hrun (by omega)
    exact ⟨m', hm'.trans hm, τ, ⟨υ, hυ, hτ⟩, hrun⟩
  complete := by
    rintro σ τ ⟨υ, hυ, hτ⟩
    obtain ⟨k, hk⟩ := hR.complete hυ
    obtain ⟨m, hm⟩ := hS.complete hτ
    exact ⟨k + m, hk.trans hm⟩
  endless i hi hi' := by
    rcases Nat.lt_or_ge i mid with h | h
    · exact hS.endless i hi h
    · exact hR.endless i h hi'

/-- A piece may be entered by one instruction that goes on in one way. -/
theorem of_step (hdone : p[q]? ≠ some .done)
    (hstep : ∀ σ n υ, Step p l q σ n υ ↔ n = next ∧ R σ υ) :
    Codes p l R q (q + 1) q next where
  sound hrun he := by
    cases hrun with
    | refl => omega
    | step h hrun =>
      obtain ⟨rfl, hR⟩ := (hstep _ _ _).1 h
      exact ⟨_, Nat.le_succ _, _, hR, hrun⟩
  complete h := ⟨1, .step ((hstep _ _ _).2 ⟨rfl, h⟩) .refl⟩
  endless i hi hi' := by
    obtain rfl : i = q := by omega
    exact hdone

theorem union {a b : Nat} (hbranch : Branches p hi a b) (hR : Codes p l R mid hi a next)
    (hS : Codes p l S lo mid b next) (hlo : lo ≤ mid) (hhi : mid ≤ hi) :
    Codes p l (either R S) lo (hi + 1) hi next where
  sound hrun he := by
    cases hrun with
    | refl => omega
    | step h hrun =>
      obtain ⟨rfl | rfl, rfl⟩ := hbranch.step_iff.1 h
      · obtain ⟨m, hm, υ, hυ, hrun⟩ := hR.sound hrun (by omega)
        exact ⟨m, by omega, υ, .inl hυ, hrun⟩
      · obtain ⟨m, hm, υ, hυ, hrun⟩ := hS.sound hrun (by omega)
        exact ⟨m, by omega, υ, .inr hυ, hrun⟩
  complete := by
    rintro σ τ (h | h)
    · obtain ⟨k, hk⟩ := hR.complete h
      exact ⟨k + 1, .step (hbranch.step_iff.2 ⟨.inl rfl, rfl⟩) hk⟩
    · obtain ⟨k, hk⟩ := hS.complete h
      exact ⟨k + 1, .step (hbranch.step_iff.2 ⟨.inr rfl, rfl⟩) hk⟩
  endless i hi hi' := by
    rcases Nat.lt_or_ge i mid with h | h
    · exact hS.endless i hi h
    · rcases Nat.lt_succ_iff_lt_or_eq.1 hi' with h' | rfl
      · exact hR.endless i h h'
      · exact hbranch.ne_done

/-- **A piece that goes back to a branch**, which stands before it: any number of rounds from the
branch on. -/
theorem loop {a : Nat} (hbranch : Branches p lo a next) (hR : Codes p l R (lo + 1) hi a lo)
    (hhi : lo + 1 ≤ hi) : Codes p l (fun σ τ => ∃ k, times R k σ τ) lo hi lo next where
  sound {k σ e τ} hrun he := by
    induction k using Nat.strong_induction_on generalizing σ with
    | _ k ih =>
      cases hrun with
      | refl => omega
      | step h hrun =>
        obtain ⟨rfl | rfl, rfl⟩ := hbranch.step_iff.1 h
        · obtain ⟨m, hm, υ, hυ, hrun⟩ := hR.sound hrun (by omega)
          obtain ⟨m', hm', τ', ⟨j, hj⟩, hrun⟩ := ih m (by omega) hrun
          exact ⟨m', by omega, τ', ⟨j + 1, υ, hυ, hj⟩, hrun⟩
        · exact ⟨_, Nat.le_succ _, _, ⟨0, rfl⟩, hrun⟩
  complete := by
    rintro σ τ ⟨j, hj⟩
    induction j generalizing σ with
    | zero =>
      obtain rfl : σ = τ := hj
      exact ⟨1, .step (hbranch.step_iff.2 ⟨.inr rfl, rfl⟩) .refl⟩
    | succ j ih =>
      obtain ⟨υ, hυ, hj⟩ := hj
      obtain ⟨k, hk⟩ := hR.complete hυ
      obtain ⟨m, hm⟩ := ih hj
      exact ⟨k + m + 1, .step (hbranch.step_iff.2 ⟨.inl rfl, rfl⟩) (hk.trans hm)⟩
  endless i hi hi' := by
    rcases Nat.eq_or_lt_of_le hi with rfl | h
    · exact hbranch.ne_done
    · exact hR.endless i h hi'

/-- Entered behind its branch, such a piece is passed once before any other rounds. -/
theorem loop_once {a : Nat} (hbranch : Branches p lo a next) (hR : Codes p l R (lo + 1) hi a lo)
    (hhi : lo + 1 ≤ hi) :
    Codes p l (Comp R fun σ τ => ∃ k, times R k σ τ) lo hi a next where
  sound hrun he := by
    obtain ⟨m, hm, υ, hυ, hrun⟩ := hR.sound hrun (by omega)
    obtain ⟨m', hm', τ, hτ, hrun⟩ := (loop hbranch hR hhi).sound hrun he
    exact ⟨m', hm'.trans hm, τ, ⟨υ, hυ, hτ⟩, hrun⟩
  complete := by
    rintro σ τ ⟨υ, hυ, hτ⟩
    obtain ⟨k, hk⟩ := hR.complete hυ
    obtain ⟨m, hm⟩ := (loop hbranch hR hhi).complete hτ
    exact ⟨k + m, hk.trans hm⟩
  endless := (loop hbranch hR hhi).endless

end Codes

/-! ### What is emitted -/

/-- **A part emits a piece that matches `R`** before the place `next`: it keeps the instructions
that are there, and the piece does its work in every program that has it in its place. -/
structure Emits (l : List Char) (part : StateM Program Nat) (next : Nat) (R : Rel) : Prop where
  grows : ∀ m : Program, m.size ≤ (part m).2.size
  keeps : ∀ (m : Program) (i : Nat), i < m.size → (part m).2[i]? = m[i]?
  codes : ∀ m p : Program,
    (∀ i, m.size ≤ i → i < (part m).2.size → p[i]? = (part m).2[i]?) →
      Codes p l R m.size (part m).2.size (part m).1 next

namespace Emits

variable {part : StateM Program Nat}

theorem nothing (l : List Char) (next : Nat) : Emits l (pure next) next (· = ·) where
  grows _ := le_rfl
  keeps _ _ _ := rfl
  codes m _ _ := Codes.nothing m.size next

theorem congr (h : Emits l part next R) (hRS : R = S) : Emits l part next S := hRS ▸ h

theorem emit {instr : Instr} (hdone : instr ≠ .done)
    (hstep : ∀ (p : Program) {q n σ υ}, p[q]? = some instr →
      (Step p l q σ n υ ↔ n = next ∧ R σ υ)) :
    Emits l (emit instr) next R where
  grows m := by
    change m.size ≤ (m.push instr).size
    simp
  keeps m i hi := by
    change (m.push instr)[i]? = m[i]?
    rw [Array.getElem?_push, if_neg (by omega)]
  codes m p hp := by
    have hsize : (m.push instr).size = m.size + 1 := Array.size_push _
    have hinstr : p[m.size]? = some instr := by
      rw [hp m.size le_rfl (by change _ < (m.push instr).size; omega)]
      change (m.push instr)[m.size]? = _
      simp
    change Codes p l R m.size (m.push instr).size m.size next
    rw [hsize]
    exact Codes.of_step (by rw [hinstr]; simpa using hdone) fun σ n υ => hstep p hinstr

theorem bind {first : Nat → StateM Program Nat} (hS : Emits l part next S)
    (hR : ∀ n, Emits l (first n) n R) : Emits l (part >>= first) next (Comp R S) where
  grows m := (hS.grows m).trans ((hR _).grows _)
  keeps m i hi := by
    change ((first (part m).1) (part m).2).2[i]? = m[i]?
    rw [(hR _).keeps _ _ (hi.trans_le (hS.grows m)), hS.keeps m i hi]
  codes m p hp := by
    have hgrows := (hR (part m).1).grows (part m).2
    refine Codes.comp ((hR _).codes _ p fun i hi hi' => hp i ((hS.grows m).trans hi) hi')
      (hS.codes m p fun i hi hi' => ?_) (hS.grows m) hgrows
    rw [hp i hi (hi'.trans_le hgrows)]
    exact (hR _).keeps _ _ hi'

/-- One part or another, by a branch behind both. -/
theorem branch {first : StateM Program Nat} {instr : Nat → Nat → Instr}
    (hinstr : ∀ {p : Program} {q a b : Nat}, p[q]? = some (instr a b) → Branches p q a b)
    (hS : Emits l part next S) (hR : Emits l first next R) :
    Emits l (part >>= fun b => first >>= fun a => Pattern.emit (instr a b)) next (either R S) where
  grows m := by
    change m.size ≤ ((first (part m).2).2.push _).size
    rw [Array.size_push]
    exact ((hS.grows m).trans (hR.grows _)).trans (Nat.le_succ _)
  keeps m i hi := by
    have hmid := hi.trans_le (hS.grows m)
    change ((first (part m).2).2.push _)[i]? = m[i]?
    rw [Array.getElem?_push, if_neg (hmid.trans_le (hR.grows _)).ne, hR.keeps _ _ hmid,
      hS.keeps m i hi]
  codes m p hp := by
    have hmid := hS.grows m
    have hlast := hR.grows (part m).2
    change ∀ i, m.size ≤ i → i < ((first (part m).2).2.push _).size →
      p[i]? = ((first (part m).2).2.push _)[i]? at hp
    change Codes p l _ m.size ((first (part m).2).2.push _).size (first (part m).2).2.size next
    rw [Array.size_push] at hp ⊢
    have hfirst : ∀ i, m.size ≤ i → i < (first (part m).2).2.size →
        p[i]? = (first (part m).2).2[i]? := fun i hi hi' => by
      rw [hp i hi (Nat.lt_succ_of_lt hi'), Array.getElem?_push, if_neg hi'.ne]
    refine Codes.union (hinstr ?_) (hR.codes _ p fun i hi hi' => hfirst i (hmid.trans hi) hi')
      (hS.codes m p fun i hi hi' => ?_) hmid hlast
    · rw [hp _ (hmid.trans hlast) (Nat.lt_succ_self _), Array.getElem?_push, if_pos rfl]
    · rw [hfirst i hi (hi'.trans_le hlast), hR.keeps _ _ hi']

theorem optional (hR : Emits l part next R) (greedy : Bool) :
    Emits l (part >>= fun a => Pattern.emit (branchTo greedy a next)) next (either R (· = ·)) := by
  have h : Emits l (pure next >>= fun b => part >>= fun a =>
      Pattern.emit (branchTo greedy a b)) next (either R (· = ·)) :=
    branch branches_branchTo (nothing l next) hR
  exact h

/-! ### Rounds -/

variable {part : Nat → StateM Program Nat}

theorem rounds_eq (part : Nat → StateM Program Nat) (greedy : Bool) (past : Nat) (m : Program) :
    rounds part greedy past m = ((part m.size (m.push .done)).1,
      (part m.size (m.push .done)).2.setIfInBounds m.size
        (branchTo greedy (part m.size (m.push .done)).1 past)) := rfl

theorem rounds_grows (hR : ∀ n, Emits l (part n) n R) (greedy : Bool) (past : Nat) (m : Program) :
    m.size + 1 ≤ (rounds part greedy past m).2.size := by
  rw [rounds_eq, Array.size_setIfInBounds]
  simpa using (hR m.size).grows (m.push .done)

theorem rounds_keeps (hR : ∀ n, Emits l (part n) n R) (greedy : Bool) (past : Nat) (m : Program)
    {i : Nat} (hi : i < m.size) : (rounds part greedy past m).2[i]? = m[i]? := by
  rw [rounds_eq, Array.getElem?_setIfInBounds, if_neg hi.ne', (hR _).keeps _ _ (by simp; omega),
    Array.getElem?_push, if_neg hi.ne]

/-- The branch in front of a part in rounds, and the part behind it. -/
theorem rounds_pieces (hR : ∀ n, Emits l (part n) n R) (greedy : Bool) (past : Nat)
    (m p : Program) (hp : ∀ i, m.size ≤ i → i < (rounds part greedy past m).2.size →
      p[i]? = (rounds part greedy past m).2[i]?) :
    Branches p m.size (rounds part greedy past m).1 past ∧
      Codes p l R (m.size + 1) (rounds part greedy past m).2.size (rounds part greedy past m).1
        m.size := by
  have hgrows := rounds_grows hR greedy past m
  have hsize : (rounds part greedy past m).2.size = (part m.size (m.push .done)).2.size := by
    rw [rounds_eq, Array.size_setIfInBounds]
  constructor
  · have hinstr : p[m.size]? = some (branchTo greedy (rounds part greedy past m).1 past) := by
      rw [hp m.size le_rfl (by omega), rounds_eq, Array.getElem?_setIfInBounds, if_pos rfl,
        if_pos (by omega)]
    exact branches_branchTo hinstr
  · have h := (hR m.size).codes (m.push .done) p fun i hi hi' => ?_
    · rw [Array.size_push] at h
      rw [hsize]
      exact h
    · rw [Array.size_push] at hi
      rw [hp i (by omega) (by omega), rounds_eq, Array.getElem?_setIfInBounds, if_neg (by omega)]

theorem rounds (hR : ∀ n, Emits l (part n) n R) (greedy : Bool) (past : Nat) :
    Emits l (Pattern.rounds part greedy past) past fun σ τ => ∃ k, 0 < k ∧ times R k σ τ where
  grows m := (Nat.le_succ _).trans (rounds_grows hR greedy past m)
  keeps m _ hi := rounds_keeps hR greedy past m hi
  codes m p hp := by
    obtain ⟨hbranch, hcodes⟩ := rounds_pieces hR greedy past m p hp
    have hrounds := hcodes.loop_once hbranch (rounds_grows hR greedy past m)
    have hpos := comp_exists_times R 1 fun _ => True
    simp only [times_one, true_and, Nat.one_le_iff_ne_zero, ← Nat.pos_iff_ne_zero] at hpos
    rwa [hpos] at hrounds

theorem anyRounds (hR : ∀ n, Emits l (part n) n R) (greedy nullable : Bool) (past : Nat) :
    Emits l (Pattern.anyRounds part greedy nullable past) past fun σ τ => ∃ k, times R k σ τ := by
  cases nullable with
  | true =>
    refine ((rounds hR greedy past).optional greedy).congr ?_
    funext σ τ
    rw [eq_iff_iff]
    constructor
    · rintro (⟨k, -, hτ⟩ | rfl)
      · exact ⟨k, hτ⟩
      · exact ⟨0, rfl⟩
    · rintro ⟨_ | k, hτ⟩
      · exact .inr hτ
      · exact .inl ⟨k + 1, Nat.succ_pos k, hτ⟩
  | false =>
    exact {
      grows := fun m => (Nat.le_succ _).trans (rounds_grows hR greedy past m)
      keeps := fun m _ hi => rounds_keeps hR greedy past m hi
      codes := fun m p hp => by
        obtain ⟨hbranch, hcodes⟩ := rounds_pieces hR greedy past m p hp
        exact hcodes.loop hbranch (rounds_grows hR greedy past m) }

theorem copies (hR : ∀ n, Emits l (part n) n R) (k next : Nat) :
    Emits l (Pattern.copies part k next) next (times R k) := by
  induction k generalizing next with
  | zero => exact nothing l next
  | succ k ih => exact ((hR next).bind ih).congr (by rw [times_add, times_one])

theorem optionalCopies (hR : ∀ n, Emits l (part n) n R) (greedy : Bool) (past k : Nat) :
    Emits l (Pattern.optionalCopies part greedy past k) past fun σ τ =>
      ∃ j ≤ k, times R j σ τ := by
  induction k with
  | zero =>
    refine (nothing l past).congr ?_
    funext σ τ
    simp [times]
  | succ k ih =>
    refine ((ih.bind hR).optional greedy).congr ?_
    funext σ τ
    rw [eq_iff_iff]
    constructor
    · rintro (⟨υ, hυ, j, hj, hτ⟩ | rfl)
      · exact ⟨j + 1, Nat.succ_le_succ hj, υ, hυ, hτ⟩
      · exact ⟨0, Nat.zero_le _, rfl⟩
    · rintro ⟨_ | j, hj, hτ⟩
      · exact .inr hτ
      · obtain ⟨υ, hυ, hτ⟩ := hτ
        exact .inl ⟨υ, hυ, j, Nat.le_of_succ_le_succ hj, hτ⟩

end Emits

/-! ### Compiled patterns -/

/-- The numbers of times that a repetition allows. -/
theorem emits_repeated {part : Nat → StateM Program Nat} (hR : ∀ n, Emits l (part n) n R)
    (least : Nat) (most : Option Nat) (greedy nullable : Bool) (next : Nat) :
    Emits l (match most with
      | none =>
        match least with
        | 0 => anyRounds part greedy nullable next
        | least + 1 => do copies part least (← rounds part greedy next)
      | some most => do copies part least (← optionalCopies part greedy next (most - least))) next
      fun σ τ => ∃ k, least ≤ k ∧ (∀ m, most = some m → k ≤ max least m) ∧ times R k σ τ := by
  cases most with
  | some m =>
    refine ((Emits.optionalCopies hR greedy next (m - least)).bind
      fun n => Emits.copies hR least n).congr ?_
    rw [comp_exists_times]
    funext σ τ
    refine propext (exists_congr fun k => and_congr_right fun hk => and_congr_left fun _ => ?_)
    simp only [Option.some.injEq, forall_eq']
    omega
  | none =>
    cases least with
    | zero =>
      refine (Emits.anyRounds hR greedy nullable next).congr ?_
      funext σ τ
      simp
    | succ least =>
      refine ((Emits.rounds hR greedy next).bind fun n => Emits.copies hR least n).congr ?_
      rw [comp_exists_times]
      funext σ τ
      refine propext (exists_congr fun k => ?_)
      rw [← and_assoc, ← and_assoc]
      refine and_congr_left fun _ => ?_
      simp only [reduceCtorEq, false_implies, implies_true, and_true]
      omega

/-- A group is marked if it is the first one. -/
theorem emits_group {part : Nat → StateM Program Nat} (index : Nat)
    (hR : ∀ n, Emits l (part n) n R) (next : Nat) :
    Emits l (if index = 1 then do
        let close ← emit (.closeGroup next)
        let inner ← part close
        emit (.openGroup inner)
      else part next) next (if index = 1 then Comp opens (Comp R closes) else R) := by
  split
  · have hcloses : Emits l (emit (.closeGroup next)) next closes :=
      .emit (by simp) fun _ _ _ _ _ h => step_closeGroup_iff h
    have hopens : ∀ n, Emits l (emit (.openGroup n)) n opens := fun n =>
      .emit (by simp) fun _ _ _ _ _ h => step_openGroup_iff h
    exact (hcloses.bind hR).bind hopens
  · exact hR next

mutual

/-- **The instructions of a node match what the node matches.** -/
theorem emits_compile (l : List Char) (n : Node) (next : Nat) :
    Emits l (compile n next) next (n.Matches l) :=
  match n with
  | .empty => Emits.nothing l next
  | .set s => .emit (by simp) fun _ _ _ _ _ h => step_read_iff h
  | .look a => .emit (by simp) fun _ _ _ _ _ h => step_look_iff h
  | .group index n => emits_group index (emits_compile l n) next
  | .concat ns => emits_compileAll l ns next
  | .alternatives ns => emits_compileAny l ns next
  | .repeated least most greedy n =>
    emits_repeated (emits_compile l n) least most greedy n.nullable next

theorem emits_compileAll (l : List Char) (ns : List Node) (next : Nat) :
    Emits l (compileAll ns next) next (Node.MatchesAll l ns) :=
  match ns with
  | [] => Emits.nothing l next
  | n :: ns => (emits_compileAll l ns next).bind fun m => emits_compile l n m

theorem emits_compileAny (l : List Char) (ns : List Node) (next : Nat) :
    Emits l (compileAny ns next) next (Node.MatchesAny l ns) :=
  match ns with
  | [] => Emits.nothing l next
  | [n] => emits_compile l n next
  | n :: n' :: ns =>
    .branch (fun h => .inl h) (emits_compileAny l (n' :: ns) next) (emits_compile l n next)

end

end HttpScript.Pattern
