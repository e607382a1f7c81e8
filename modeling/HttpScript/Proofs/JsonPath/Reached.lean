import HttpScript.JsonPath.Eval
import HttpScript.Proofs.Json.Ordered

/-! # What a JSON path reaches

The values that a path reaches are given here by recursion on the path, and those that a segment
selects by conditions on names and indexes. Evaluating a path step by step yields the same list.

* `Json.preorder`: a value and all values nested in it, by recursion on the value.
  `Json.descendants_eq_preorder`: the list of values still to visit comes to the same.
* `chosen`, `selected`, `reached`: what a selector, a segment and a path yield.
  `select_eq_chosen`: a selector yields this on a value whose members are in order.
* `eval_eq_reached`: a path yields this on every such value, and so on every document. -/

namespace HttpScript

namespace Json

/-! ### All nested values -/

mutual

/-- **A value and all values nested in it**: a value stands before those inside it, and these in
their order. -/
def preorder : Json → List Json
  | array items => array items :: preorderItems items
  | object members => object members :: preorderMembers members
  | v => [v]

/-- The values nested in values. -/
def preorderItems : List Json → List Json
  | [] => []
  | v :: l => preorder v ++ preorderItems l

/-- The values nested in members. -/
def preorderMembers : List (String × Json) → List Json
  | [] => []
  | (_, v) :: l => preorder v ++ preorderMembers l

end

theorem preorderItems_eq (l : List Json) : preorderItems l = l.flatMap preorder := by
  induction l with
  | nil => rfl
  | cons v l ih => rw [preorderItems, ih, List.flatMap_cons]

theorem preorderMembers_eq (l : List (String × Json)) :
    preorderMembers l = (l.map (·.2)).flatMap preorder := by
  induction l with
  | nil => rfl
  | cons m l ih => rw [preorderMembers, ih, List.map_cons, List.flatMap_cons]

theorem preorder_eq (v : Json) : v.preorder = v :: v.children.flatMap preorder := by
  cases v <;> simp [preorder, children, preorderItems_eq, preorderMembers_eq]

/-- Of values still to visit, all that is nested in the first one comes before the second one. -/
theorem visit_eq (pending : List Json) : visit pending = pending.flatMap preorder := by
  fun_induction visit pending with
  | case1 => rfl
  | case2 v l ih =>
    rw [ih, List.flatMap_append, List.flatMap_cons, preorder_eq v, List.cons_append]

theorem descendants_eq_preorder (v : Json) : v.descendants = v.preorder := by
  rw [descendants, visit_eq, List.flatMap_singleton]

theorem length_visit (pending : List Json) : (visit pending).length = weightItems pending := by
  fun_induction visit pending with
  | case1 => rfl
  | case2 v l ih =>
    rw [List.length_cons, ih, weightItems_append, weightItems, weight_eq v]
    omega

theorem length_descendants (v : Json) : v.descendants.length = v.weight := by
  rw [descendants, length_visit]
  rfl

theorem Ordered.nested {v : Json} (h : v.Ordered) : ∀ w ∈ v.preorder, w.Ordered := by
  induction h with
  | @of v hmembers hchildren ih =>
    intro w hw
    rw [preorder_eq] at hw
    rcases List.mem_cons.mp hw with rfl | hw
    · exact .of hmembers hchildren
    · obtain ⟨u, hu, hw⟩ := List.mem_flatMap.mp hw
      exact ih u hu w hw

end Json

namespace JsonPath

/-! ### What is reached -/

/-- The items whose index satisfies `p`, in order. -/
def itemsWhere (p : Nat → Bool) (items : List Json) : List Json :=
  (items.zipIdx.filter fun x => p x.2).map (·.1)

/-- **The values at a key**: the members of a name, or the item with an index, where a negative
index counts from the end. -/
def valuesAt : Json → Key → List Json
  | .object members, .name n => (members.filter fun m => m.1 = n).map (·.2)
  | .array items, .index i =>
    itemsWhere (fun j => (j : Int) = i ∨ (j : Int) = items.length + i) items
  | _, _ => []

/-- The values at the end of a path of keys. -/
def valuesAlong : List Key → Json → List Json
  | [], v => [v]
  | k :: path, v => (valuesAt v k).flatMap (valuesAlong path)

/-- Whether there is a value at the path of a filter that meets its condition. -/
def satisfies (f : Filter) (v : Json) : Bool :=
  (valuesAlong f.path v).any fun a => f.condition.all fun c => c.1.holds (compare a c.2)

/-- A bound in a list of `n` items: a negative one counts from the end, and none lies outside the
list. -/
def clamped (n : Nat) (i : Int) : Int := max 0 (min n (if i < 0 then n + i else i))

/-- **What a selector chooses** from a value. -/
def chosen : Selector → Json → List Json
  | .keys l, v => l.flatMap (valuesAt v)
  | .wildcard, v => v.children
  | .slice first last, .array items =>
    itemsWhere (fun i => clamped items.length (first.getD 0) ≤ i ∧
      i < clamped items.length (last.getD items.length)) items
  | .slice _ _, _ => []
  | .filter f, v => v.children.filter (satisfies f)

/-- **What a segment selects**: from the value itself, or from every value nested in it. -/
def selected : Segment → Json → List Json
  | .child s, v => chosen s v
  | .descendant s, v => v.preorder.flatMap (chosen s)

/-- **What a path reaches**: from each value that its first segment selects, what the rest of the
path reaches from there. -/
def reached : JsonPath → Json → List Json
  | [], v => [v]
  | s :: path, v => (selected s v).flatMap (reached path)

/-! ### Items by their indexes -/

theorem itemsWhere_range (a b : Nat) (items : List Json) :
    itemsWhere (fun i => a ≤ i ∧ i < b) items = (items.take b).drop a := by
  -- the induction counts the indexes from `k`
  suffices ∀ k, (((items.zipIdx k).filter fun x => decide (a ≤ x.2 ∧ x.2 < b)).map (·.1)) =
      (items.take (b - k)).drop (a - k) from this 0
  induction items with
  | nil => simp
  | cons v l ih =>
    intro k
    rw [List.zipIdx_cons, List.filter_cons]
    rcases Nat.lt_or_ge k b with hb | hb
    · rw [show b - k = (b - (k + 1)) + 1 by omega, List.take_succ_cons]
      rcases Nat.lt_or_ge k a with ha | ha
      · rw [show a - k = (a - (k + 1)) + 1 by omega, List.drop_succ_cons, ← ih (k + 1),
          if_neg (by simp; omega)]
      · have hrest := ih (k + 1)
        rw [show a - (k + 1) = 0 by omega, List.drop_zero] at hrest
        rw [show a - k = 0 by omega, List.drop_zero, ← hrest, if_pos (by simp; omega),
          List.map_cons]
    · rw [if_neg (by simp; omega), ih (k + 1), show b - k = 0 by omega,
        show b - (k + 1) = 0 by omega]
      simp

theorem itemsWhere_congr {p q : Nat → Bool} {items : List Json}
    (h : ∀ i < items.length, p i = q i) : itemsWhere p items = itemsWhere q items := by
  unfold itemsWhere
  congr 1
  refine List.filter_congr fun x hx => h x.2 ?_
  exact (List.getElem?_eq_some_iff.mp (List.mem_zipIdx_iff_getElem?.mp hx)).1

theorem itemsWhere_eq_getElem? {p : Nat → Bool} {items : List Json} (n : Nat)
    (h : ∀ i < items.length, p i = decide (i = n)) : itemsWhere p items = items[n]?.toList := by
  have hrange : itemsWhere p items = itemsWhere (fun i => n ≤ i ∧ i < n + 1) items :=
    itemsWhere_congr fun i hi => by
      rw [h i hi]
      exact decide_eq_decide.mpr (by omega)
  rw [hrange, itemsWhere_range, List.drop_take, show n + 1 - n = 1 by omega, List.take_one,
    List.head?_drop]

theorem itemsWhere_eq_nil {p : Nat → Bool} {items : List Json}
    (h : ∀ i < items.length, p i = false) : itemsWhere p items = [] := by
  rw [itemsWhere_congr h]
  simp [itemsWhere]

/-! ### One step -/

theorem toList_lookup {v : Json} (h : v.Ordered) (k : Key) :
    (lookup v k).toList = valuesAt v k := by
  cases v with
  | object members =>
    cases k with
    | name n => exact h.members.toList_find? n
    | index i => rfl
  | array items =>
    cases k with
    | name n => rfl
    | index i =>
      simp only [lookup, valuesAt]
      by_cases hi : i < 0
      · have hplace : place items.length i = items.length + i := if_pos hi
        rw [hplace]
        by_cases hn : (items.length : Int) + i < 0
        · rw [if_pos hn, itemsWhere_eq_nil fun j hj => decide_eq_false (by omega)]
          rfl
        · rw [if_neg hn]
          refine (itemsWhere_eq_getElem? _ fun j hj => decide_eq_decide.mpr ?_).symm
          omega
      · have hplace : place items.length i = i := if_neg hi
        rw [hplace, if_neg hi]
        refine (itemsWhere_eq_getElem? _ fun j hj => decide_eq_decide.mpr ?_).symm
        omega
  | _ => cases k <;> rfl

theorem mem_children_of_lookup {v w : Json} {k : Key} (h : lookup v k = some w) :
    w ∈ v.children := by
  unfold lookup at h
  split at h
  · obtain ⟨m, hm, rfl⟩ := Option.map_eq_some_iff.mp h
    exact List.mem_map_of_mem (List.mem_of_find?_eq_some hm)
  · simp only at h
    split at h
    · cases h
    · exact List.mem_of_getElem? h
  · cases h

theorem toList_follow {v : Json} (h : v.Ordered) (path : List Key) :
    (follow path v).toList = valuesAlong path v := by
  induction path generalizing v with
  | nil => rfl
  | cons k path ih =>
    rw [valuesAlong, ← toList_lookup h k, follow, List.foldlM_cons]
    cases hk : lookup v k with
    | none => rfl
    | some w =>
      rw [Option.toList_some, List.flatMap_singleton]
      exact ih (h.child (mem_children_of_lookup hk))

/-- A filter accepts the values that satisfy it. -/
theorem accepts_eq_satisfies {v : Json} (h : v.Ordered) (f : Filter) :
    f.accepts v = satisfies f v := by
  unfold Filter.accepts satisfies
  rw [← toList_follow h]
  cases follow f.path v with
  | none => rfl
  | some a => cases f.condition <;> simp

/-- The place of a bound is the bound, clamped. -/
theorem bound_eq_clamped (n : Nat) (i : Int) : (bound n i : Int) = clamped n i := by
  unfold bound clamped place
  split <;> omega

/-- **What a selector selects.** -/
theorem select_eq_chosen {v : Json} (h : v.Ordered) (s : Selector) :
    select s v = chosen s v := by
  cases s with
  | keys l =>
    rw [select, chosen, List.filterMap_eq_flatMap_toList]
    simp only [toList_lookup h]
  | wildcard => rfl
  | slice first last =>
    cases v with
    | array items =>
      rw [select, chosen, ← itemsWhere_range]
      refine itemsWhere_congr fun i hi => decide_eq_decide.mpr ?_
      rw [← bound_eq_clamped, ← bound_eq_clamped, Int.ofNat_le, Int.ofNat_lt]
    | _ => rfl
  | filter f =>
    rw [select, chosen]
    refine List.filter_congr fun w hw => ?_
    exact accepts_eq_satisfies (h.child hw) f

theorem mem_children_of_select {v w : Json} {s : Selector} (h : w ∈ select s v) :
    w ∈ v.children := by
  cases s with
  | keys l =>
    obtain ⟨k, -, hk⟩ := List.mem_filterMap.mp h
    exact mem_children_of_lookup hk
  | wildcard => exact h
  | slice first last =>
    cases v with
    | array items => exact List.mem_of_mem_take (List.mem_of_mem_drop h)
    | _ => cases h
  | filter f => exact List.mem_of_mem_filter h

theorem segment_select_eq_selected {v : Json} (h : v.Ordered) (s : Segment) :
    s.select v = selected s v := by
  cases s with
  | child s => exact select_eq_chosen h s
  | descendant s =>
    rw [Segment.select, selected, Json.descendants_eq_preorder]
    exact List.flatMap_congr fun w hw => select_eq_chosen (h.nested w hw) s

theorem ordered_of_mem_select {v w : Json} (h : v.Ordered) {s : Segment} (hw : w ∈ s.select v) :
    w.Ordered := by
  cases s with
  | child s => exact h.child (mem_children_of_select hw)
  | descendant s =>
    rw [Segment.select, Json.descendants_eq_preorder] at hw
    obtain ⟨u, hu, hw⟩ := List.mem_flatMap.mp hw
    exact (h.nested u hu).child (mem_children_of_select hw)

/-! ### All steps -/

/-- Following a path from several values follows it from each. -/
theorem foldl_select (path : JsonPath) (l : List Json) :
    path.foldl (fun reached s => reached.flatMap s.select) l = l.flatMap (eval path) := by
  induction path generalizing l with
  | nil => exact (List.flatMap_singleton' l).symm
  | cons s path ih =>
    have hone : ∀ v, eval (s :: path) v = (s.select v).flatMap (eval path) := fun v => by
      rw [eval, List.foldl_cons, List.flatMap_singleton, ih]
    rw [List.foldl_cons, ih, List.flatMap_assoc]
    exact List.flatMap_congr fun v _ => (hone v).symm

theorem eval_cons (s : Segment) (path : JsonPath) (v : Json) :
    eval (s :: path) v = (s.select v).flatMap (eval path) := by
  rw [eval, List.foldl_cons, List.flatMap_singleton, foldl_select]

/-- Following a path reaches the values that the recursion gives. -/
theorem eval_of_ordered (path : JsonPath) {v : Json} (h : v.Ordered) :
    eval path v = reached path v := by
  induction path generalizing v with
  | nil => rfl
  | cons s path ih =>
    rw [eval_cons, reached, ← segment_select_eq_selected h]
    exact List.flatMap_congr fun w hw => ih (ordered_of_mem_select h hw)

/-- **Evaluating a path reaches what the recursion gives**, from every document that can be read.
The values nested in a value are visited in their order, each of them once. -/
theorem eval_eq_reached {text : String} {root : Json} (h : Json.read? text = .ok root) :
    root.Ordered ∧ (∀ path, eval path root = reached path root) ∧
      ∀ v : Json, v.descendants = v.preorder ∧ v.descendants.length = v.weight :=
  have hroot := Json.ordered_of_read? h
  ⟨hroot, fun path => eval_of_ordered path hroot,
    fun v => ⟨v.descendants_eq_preorder, v.length_descendants⟩⟩

/-- The last item of each list that is called `a`, in a document with such a list inside another
one. -/
theorem eval_eq_reached_nested :
    let inner : Json := .object [("a", .array [.bool true, .null])]
    let root : Json := .object [("a", .array [.bool false, inner])]
    let path : JsonPath := [.descendant (.keys [.name "a"]), .child (.keys [.index (-1)])]
    Json.read? "\x7b\"a\": [false, \x7b\"a\": [true, null]\x7d]\x7d" = .ok root ∧
      eval path root = reached path root ∧ reached path root = [inner, .null] :=
  have h : Json.read? "\x7b\"a\": [false, \x7b\"a\": [true, null]\x7d]\x7d" =
      .ok (.object [("a", .array [.bool false, .object [("a", .array [.bool true, .null])]])]) :=
    rfl
  ⟨h, (eval_eq_reached h).2.1 _, rfl⟩

end JsonPath

end HttpScript
