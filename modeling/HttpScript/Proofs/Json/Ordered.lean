import HttpScript.Json.Read
import Mathlib.Data.String.Basic

/-! # The order of members

The members of an object stand in the order of their names, each name once, and so do those of all
values nested in a document.

* `Json.Ordered`: a value of that kind, at every depth.
* `Named.inOrder_ofList`: listing values by name brings them in order.
* `Json.read?_induction`: what holds of documents, from what holds of their parts.
* `Json.ordered_of_read?`: every document that is read is ordered. -/

namespace HttpScript

namespace Named

variable {α : Type}

/-- **Values in the order of their names**, each name once. -/
def InOrder (l : List (String × α)) : Prop := l.Pairwise fun p q => p.1 < q.1

theorem mem_insert {name : String} {value : α} {l : List (String × α)} {p : String × α}
    (h : p ∈ insert name value l) : p = (name, value) ∨ p ∈ l := by
  induction l with
  | nil => exact .inl (List.mem_singleton.mp h)
  | cons q l ih =>
    unfold insert at h
    split at h
    · exact List.mem_cons.mp h
    · split at h
      · rcases List.mem_cons.mp h with h | h
        · exact .inl h
        · exact .inr (List.mem_cons_of_mem _ h)
      · rcases List.mem_cons.mp h with rfl | h
        · exact .inr List.mem_cons_self
        · exact (ih h).imp_right (List.mem_cons_of_mem _)

theorem InOrder.insert {l : List (String × α)} (h : InOrder l) (name : String) (value : α) :
    InOrder (insert name value l) := by
  induction l with
  | nil => exact List.pairwise_singleton _ _
  | cons q l ih =>
    obtain ⟨n, v⟩ := q
    obtain ⟨hhead, htail⟩ := List.pairwise_cons.mp h
    unfold Named.insert
    split
    · rename_i hlt
      refine List.pairwise_cons.mpr ⟨fun p hp => ?_, h⟩
      rcases List.mem_cons.mp hp with rfl | hp
      · exact hlt
      · exact lt_trans hlt (hhead p hp)
    · rename_i hnot
      split
      · rename_i heq
        subst heq
        exact List.pairwise_cons.mpr ⟨hhead, htail⟩
      · rename_i hne
        refine List.pairwise_cons.mpr ⟨fun p hp => ?_, ih htail⟩
        rcases mem_insert hp with rfl | hp
        · exact lt_of_le_of_ne (not_lt.mp hnot) fun heq => hne heq.symm
        · exact hhead p hp

/-- **Listing values by name brings them in order**, and adds nothing. -/
theorem inOrder_ofList (l : List (String × α)) :
    InOrder (ofList l) ∧ ∀ p ∈ ofList l, p ∈ l := by
  suffices ∀ acc : List (String × α), InOrder acc →
      InOrder (l.foldl (fun acc m => Named.insert m.1 m.2 acc) acc) ∧
      ∀ p ∈ l.foldl (fun acc m => Named.insert m.1 m.2 acc) acc, p ∈ acc ∨ p ∈ l from by
    obtain ⟨horder, hmem⟩ := this [] .nil
    exact ⟨horder, fun p hp => (hmem p hp).resolve_left (by simp)⟩
  induction l with
  | nil => exact fun acc h => ⟨h, fun p hp => .inl hp⟩
  | cons m l ih =>
    intro acc h
    obtain ⟨horder, hmem⟩ := ih _ (h.insert m.1 m.2)
    refine ⟨horder, fun p hp => ?_⟩
    rcases hmem p hp with hp | hp
    · rcases mem_insert hp with rfl | hp
      · exact .inr List.mem_cons_self
      · exact .inl hp
    · exact .inr (List.mem_cons_of_mem _ hp)

/-- Where each name stands once, looking a name up gives all values that it has. -/
theorem InOrder.toList_find? {l : List (String × α)} (h : InOrder l) (name : String) :
    (find? name l).toList = (l.filter fun m => m.1 = name).map (·.2) := by
  induction l with
  | nil => rfl
  | cons m l ih =>
    obtain ⟨hhead, htail⟩ := List.pairwise_cons.mp h
    by_cases hm : m.1 = name
    · have hrest : l.filter (fun m => m.1 = name) = [] := by
        refine List.filter_eq_nil_iff.mpr fun p hp hname => ?_
        have hlt := hhead p hp
        rw [hm, of_decide_eq_true hname] at hlt
        exact lt_irrefl _ hlt
      simp [find?, hm, hrest]
    · have := ih htail
      simpa [find?, hm] using this

end Named

namespace Json

/-- **A value whose objects are in order**, at every depth. -/
inductive Ordered : Json → Prop
  | of {v : Json} : (∀ members, v = .object members → Named.InOrder members) →
    (∀ w ∈ v.children, Ordered w) → Ordered v

theorem Ordered.members {members : List (String × Json)} (h : Ordered (.object members)) :
    Named.InOrder members := by
  cases h with
  | of hmembers _ => exact hmembers members rfl

theorem Ordered.child {v w : Json} (h : v.Ordered) (hw : w ∈ v.children) : w.Ordered := by
  cases h with
  | of _ hchildren => exact hchildren w hw

theorem Ordered.leaf {v : Json} (hobject : ∀ members, v ≠ .object members)
    (hchildren : v.children = []) : v.Ordered :=
  .of (fun members h => absurd h (hobject members)) (by simp [hchildren])

theorem Ordered.array {items : List Json} (h : ∀ v ∈ items, v.Ordered) :
    (Json.array items).Ordered :=
  .of (fun _ h => by cases h) h

theorem Ordered.ofMembers {members : List (String × Json)} (h : ∀ m ∈ members, m.2.Ordered) :
    (Json.ofMembers members).Ordered := by
  obtain ⟨horder, hmem⟩ := Named.inOrder_ofList members
  refine .of (fun l hl => ?_) fun w hw => ?_
  · cases hl
    exact horder
  · obtain ⟨m, hm, rfl⟩ := List.mem_map.mp hw
    exact h m (hmem m hm)

/-! ### Reading -/

/-- **A result of which `P` holds**, if it is a value. -/
def Yields {α : Type} (P : α → Prop) (x : Except Failure (α × Rest)) : Prop :=
  ∀ v r, x = .ok (v, r) → P v

namespace Yields

variable {α β : Type} {P : α → Prop} {S : β → Prop}

theorem of_error {f : Failure} : Yields P (.error f) := fun _ _ h => by cases h

theorem ok {v : α} {r : Rest} (h : P v) : Yields P (.ok (v, r)) := fun _ _ h' => by
  cases h'
  exact h

theorem bind {x : Except Failure (α × Rest)} {f : α × Rest → Except Failure (β × Rest)}
    (h : Yields P x) (hf : ∀ v r, P v → Yields S (f (v, r))) : Yields S (x >>= f) := by
  cases x with
  | error e => exact of_error
  | ok p => exact hf p.1 p.2 (h p.1 p.2 rfl)

theorem map {x : Except Failure (α × Rest)} {f : α → β} (h : Yields P x)
    (hf : ∀ v, P v → S (f v)) : Yields S (x.map fun p => (f p.1, p.2)) := by
  cases x with
  | error e => exact of_error
  | ok p => exact ok (hf p.1 (h p.1 p.2 rfl))

theorem and {Q : α → Prop} {x : Except Failure (α × Rest)} (h : Yields P x) (h' : Yields Q x) :
    Yields (fun v => P v ∧ Q v) x := fun v r hx => ⟨h v r hx, h' v r hx⟩

theorem trivial {x : Except Failure (α × Rest)} : Yields (fun _ => True) x := fun _ _ _ => .intro

end Yields

theorem yields_readItems {item : Reader Json} {P : Json → Prop} (hitem : ∀ r, Yields P (item r))
    (steps : Nat) {done : List Json} (hdone : ∀ v ∈ done, P v) (r : Rest) :
    Yields (fun l => ∀ v ∈ l, P v) (readItems item steps done r) := by
  induction steps generalizing done r with
  | zero => exact .of_error
  | succ steps ih =>
    unfold readItems
    dsimp only
    split
    · exact .of_error
    · exact .ok (by simpa using hdone)
    · split
      · exact .of_error
      · exact .of_error
      · refine (hitem _).bind fun v r hv => ih (fun w hw => ?_) r
        rcases List.mem_cons.mp hw with rfl | hw
        · exact hv
        · exact hdone w hw
    · exact .of_error

theorem yields_readArray {item : Reader Json} {P : Json → Prop} (hitem : ∀ r, Yields P (item r))
    (steps : Nat) (r : Rest) : Yields (fun l => ∀ v ∈ l, P v) (readArray item steps r) := by
  unfold readArray
  dsimp only
  split
  · exact .of_error
  · exact .ok (by simp)
  · exact (hitem _).bind fun v r hv => yields_readItems hitem steps (by simpa using hv) r

theorem yields_readMember {item : Reader Json} {P : Json → Prop} (hitem : ∀ r, Yields P (item r))
    (steps : Nat) (r : Rest) : Yields (fun m => P m.2) (readMember item steps r) := by
  refine Yields.trivial.bind fun name r _ => ?_
  dsimp only
  split
  · exact .of_error
  · exact (hitem _).bind fun v r hv => .ok hv
  · exact .of_error

theorem yields_readMembers {item : Reader Json} {P : Json → Prop} (hitem : ∀ r, Yields P (item r))
    (bound steps : Nat) {done : List (String × Json)} (hdone : ∀ m ∈ done, P m.2) (r : Rest) :
    Yields (fun l => ∀ m ∈ l, P m.2) (readMembers item bound steps done r) := by
  induction steps generalizing done r with
  | zero => exact .of_error
  | succ steps ih =>
    unfold readMembers
    dsimp only
    split
    · exact .of_error
    · exact .ok (by simpa using hdone)
    · split
      · exact .of_error
      · refine (yields_readMember hitem bound _).bind fun m r hm => ih (fun q hq => ?_) r
        rcases List.mem_cons.mp hq with rfl | hq
        · exact hm
        · exact hdone q hq
      · exact .of_error
      · exact .of_error
    · exact .of_error

theorem yields_readObject {item : Reader Json} {P : Json → Prop} (hitem : ∀ r, Yields P (item r))
    (steps : Nat) (r : Rest) : Yields (fun l => ∀ m ∈ l, P m.2) (readObject item steps r) := by
  unfold readObject
  dsimp only
  split
  · exact .of_error
  · exact .ok (by simp)
  · exact (yields_readMember hitem steps _).bind fun m r hm =>
      yields_readMembers hitem steps steps (by simpa using hm) r
  · exact .of_error

/-- An array has at most as many items as there are steps. -/
theorem yields_length_readItems (item : Reader Json) (steps : Nat) (done : List Json) (r : Rest) :
    Yields (fun l => l.length < done.length + steps) (readItems item steps done r) := by
  induction steps generalizing done r with
  | zero => exact .of_error
  | succ steps ih =>
    unfold readItems
    dsimp only
    split
    · exact .of_error
    · exact .ok (by simp)
    · split
      · exact .of_error
      · exact .of_error
      · refine Yields.trivial.bind fun v r _ l k hl => ?_
        have hlength := ih (v :: done) r l k hl
        rw [List.length_cons] at hlength
        omega
    · exact .of_error

theorem yields_length_readArray (item : Reader Json) (steps : Nat) (r : Rest) :
    Yields (fun l => l.length ≤ steps) (readArray item steps r) := by
  unfold readArray
  dsimp only
  split
  · exact .of_error
  · exact .ok (Nat.zero_le _)
  · refine Yields.trivial.bind fun v r _ l k hl => ?_
    have hlength := yields_length_readItems item steps [v] r l k hl
    rw [List.length_singleton] at hlength
    omega

/-- **What holds of the values that are read**: what holds of values without parts, of arrays, as
long as they have no more items than there are steps, and of objects, if it holds of their parts.
The induction is on the room for containers. -/
theorem yields_readValue {P : Json → Prop} {steps : Nat}
    (hleaf : ∀ v, (∀ members, v ≠ .object members) → (∀ items, v ≠ .array items) → P v)
    (harray : ∀ items, (∀ v ∈ items, P v) → items.length ≤ steps → P (.array items))
    (hobject : ∀ members, (∀ m ∈ members, P m.2) → P (ofMembers members)) (depth : Nat)
    (r : Rest) : Yields P (readValue steps depth r) := by
  induction depth generalizing r with
  | zero => exact .of_error
  | succ depth ih =>
    have hscalar : ∀ {α : Type} {x : Except Failure (α × Rest)} {f : α → Json},
        (∀ a members, f a ≠ .object members) → (∀ a items, f a ≠ .array items) →
        Yields P (x.map fun p => (f p.1, p.2)) := fun hnoObject hnoArray =>
      Yields.trivial.map fun a _ => hleaf _ (hnoObject a) (hnoArray a)
    unfold readValue
    dsimp only
    split
    · exact .of_error
    · split
      · exact hscalar (f := fun _ => null) (by simp) (by simp)
      · exact hscalar (f := fun _ => bool true) (by simp) (by simp)
      · exact hscalar (f := fun _ => bool false) (by simp) (by simp)
      · exact hscalar (f := number) (by simp) (by simp)
      · exact hscalar (f := string) (by simp) (by simp)
      · split
        · exact .of_error
        · exact ((yields_readArray ih steps _).and (yields_length_readArray _ steps _)).map
            fun items h => harray items h.1 h.2
      · split
        · exact .of_error
        · exact (yields_readObject ih steps _).map fun l hl => hobject l hl
      · split
        · exact hscalar (f := number) (by simp) (by simp)
        · exact .of_error

/-- **What holds of documents**: `yields_readValue` for whole texts. -/
theorem read?_induction {P : Json → Prop} {text : String} {v : Json} (h : read? text = .ok v)
    (hleaf : ∀ v, (∀ members, v ≠ .object members) → (∀ items, v ≠ .array items) → P v)
    (harray : ∀ items, (∀ v ∈ items, P v) → items.length ≤ text.length + 1 → P (.array items))
    (hobject : ∀ members, (∀ m ∈ members, P m.2) → P (ofMembers members)) : P v := by
  unfold read? at h
  split at h
  · rename_i w hdocument
    cases h
    unfold readDocument at hdocument
    cases hvalue : readValue (text.toList.length + 1) deepest ⟨text.toList, 0⟩ with
    | error e => rw [hvalue] at hdocument; cases hdocument
    | ok p =>
      rw [hvalue] at hdocument
      simp only [bind, Except.bind] at hdocument
      split at hdocument
      · cases hdocument
        rw [String.length_toList] at hvalue
        exact yields_readValue hleaf harray hobject _ _ p.1 p.2 hvalue
      · cases hdocument
  · cases h

/-- **Every document that is read is ordered.** -/
theorem ordered_of_read? {text : String} {v : Json} (h : read? text = .ok v) : v.Ordered := by
  refine read?_induction h (fun v hnoObject hnoArray => .leaf hnoObject ?_)
    (fun items hitems _ => .array hitems) fun members hmembers => .ofMembers hmembers
  cases v with
  | array items => exact (hnoArray items rfl).elim
  | object members => exact (hnoObject members rfl).elim
  | _ => rfl

end Json

end HttpScript
