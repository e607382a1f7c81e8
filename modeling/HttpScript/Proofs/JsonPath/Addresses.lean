import HttpScript.Proofs.JsonPath.Bounds
import HttpScript.Proofs.JsonPath.Reached
import HttpScript.Query.Lookup

/-! # Every value has an address

A value in a document stands at names of members and indexes of items. The path with these keys
reaches this value and no other one, and so does the text of this path, whatever characters the
names hold.

* `At`: where a value stands. `exists_at`: every value nested in a document stands somewhere.
* `eval_address`: the path of a place reaches the value that stands there.
* `ItemsUpTo`: no array of a document has more items than characters, so that indexes fit.
* `text_expresses`: every path can be written and read back, so every value can be addressed, and
  reading any other text ends with a path or with the fault of the expression. -/

namespace HttpScript.JsonPath

variable {v w : Json} {keys : List Key}

/-! ### Places -/

/-- **Where a value stands in another one**: by the names of members and the indexes of items. -/
inductive At : Json → List Key → Json → Prop
  | here (v : Json) : At v [] v
  | member {members : List (String × Json)} {name : String} {v w : Json} {keys : List Key}
    (h : (name, v) ∈ members) (hrest : At v keys w) : At (.object members) (.name name :: keys) w
  | item {items : List Json} {i : Nat} {v w : Json} {keys : List Key} (h : items[i]? = some v)
    (hrest : At v keys w) : At (.array items) (.index i :: keys) w

/-- The path with the given keys. -/
def address (keys : List Key) : JsonPath := keys.map fun k => .child (.keys [k])

theorem at_of_mem_children (h : v ∈ w.children) {keys : List Key} {u : Json} (hu : At v keys u) :
    ∃ k, At w (k :: keys) u := by
  cases w with
  | array items =>
    obtain ⟨i, hi⟩ := List.mem_iff_getElem?.mp h
    exact ⟨.index i, .item hi hu⟩
  | object members =>
    obtain ⟨⟨name, v⟩, hm, rfl⟩ := List.mem_map.mp h
    exact ⟨.name name, .member hm hu⟩
  | _ => cases h

/-- **Every value nested in another one stands somewhere in it.** -/
theorem exists_at (hv : v.Ordered) (hw : w ∈ v.preorder) : ∃ keys, At v keys w := by
  induction hv generalizing w with
  | @of v hmembers hchildren ih =>
    rw [Json.preorder_eq] at hw
    rcases List.mem_cons.mp hw with rfl | hw
    · exact ⟨[], .here w⟩
    · obtain ⟨u, hu, hw⟩ := List.mem_flatMap.mp hw
      obtain ⟨keys, hkeys⟩ := ih u hu hw
      obtain ⟨k, hk⟩ := at_of_mem_children hu hkeys
      exact ⟨k :: keys, hk⟩

theorem find?_of_mem {members : List (String × Json)} (h : Named.InOrder members) {name : String}
    (hm : (name, v) ∈ members) : Named.find? name members = some v := by
  have hmem : v ∈ (Named.find? name members).toList := by
    rw [h.toList_find? name]
    exact List.mem_map.mpr ⟨(name, v), List.mem_filter.mpr ⟨hm, by simp⟩, rfl⟩
  exact Option.mem_toList.mp hmem

theorem address_cons (k : Key) (keys : List Key) :
    address (k :: keys) = .child (.keys [k]) :: address keys := rfl

theorem select_key {k : Key} (h : lookup v k = some w) :
    Segment.select (.child (.keys [k])) v = [w] := by
  simp only [Segment.select, select, List.filterMap_cons, h, List.filterMap_nil]

/-- **The path of a place reaches the value that stands there**, and no other one. -/
theorem eval_address (hv : v.Ordered) (h : At v keys w) : eval (address keys) v = [w] := by
  induction h with
  | here v => rfl
  | @member members name v w keys hm _ ih =>
    have hv' : v.Ordered := hv.child (List.mem_map.mpr ⟨(name, v), hm, rfl⟩)
    have hlookup : lookup (.object members) (.name name) = some v := find?_of_mem hv.members hm
    rw [address_cons, eval_cons, select_key hlookup, List.flatMap_singleton, ih hv']
  | @item items i v w keys hi _ ih =>
    have hv' : v.Ordered := hv.child (List.mem_of_getElem? hi)
    have hlookup : lookup (.array items) (.index i) = some v := by
      have hi' : ¬ (i : Int) < 0 := by omega
      simp only [lookup, place, if_neg hi', Int.toNat_natCast, hi]
    rw [address_cons, eval_cons, select_key hlookup, List.flatMap_singleton, ih hv']

/-! ### Indexes -/

/-- A value whose arrays have at most `n` items, at every depth. -/
inductive ItemsUpTo (n : Nat) : Json → Prop
  | of {v : Json} (hitems : ∀ items, v = .array items → items.length ≤ n)
    (hchildren : ∀ w ∈ v.children, ItemsUpTo n w) : ItemsUpTo n v

/-- The arrays of a document have no more items than it has characters, and one. -/
theorem itemsUpTo_of_read? {text : String} (h : Json.read? text = .ok v) :
    ItemsUpTo (text.length + 1) v := by
  refine Json.read?_induction h (fun v hnoObject hnoArray => .of ?_ ?_) (fun items hitems hlength =>
    .of ?_ hitems) fun members hmembers => .of ?_ ?_
  · exact fun items hv => (hnoArray items hv).elim
  · cases v with
    | array items => exact (hnoArray items rfl).elim
    | object members => exact (hnoObject members rfl).elim
    | _ => exact fun w hw => by cases hw
  · intro l hl
    cases hl
    exact hlength
  · exact fun items hv => by cases hv
  · intro w hw
    obtain ⟨m, hm, rfl⟩ := List.mem_map.mp hw
    exact hmembers m ((Named.inOrder_ofList members).2 m hm)

/-- The keys of a place fit where no array has too many items. -/
theorem ItemsUpTo.fits {n : Nat} (hv : ItemsUpTo n v) (hn : n ≤ Nat.pow 2 63) (h : At v keys w) :
    ∀ k ∈ keys, k.Fits := by
  induction h with
  | here v => simp
  | @member members name v w keys hm _ ih =>
    cases hv with
    | of _ hchildren =>
      intro k hk
      rcases List.mem_cons.mp hk with rfl | hk
      · exact fun i hi => by cases hi
      · exact ih (hchildren v (List.mem_map.mpr ⟨(name, v), hm, rfl⟩)) k hk
  | @item items i v w keys hi _ ih =>
    cases hv with
    | of hitems hchildren =>
      intro k hk
      rcases List.mem_cons.mp hk with rfl | hk
      · intro j hj
        cases hj
        have hlt := (List.getElem?_eq_some_iff.mp hi).1
        have hle := hitems items rfl
        exact ⟨by omega, by omega⟩
      · exact ih (hchildren v (List.mem_of_getElem? hi)) k hk

theorem expressible_address (digits : Float → List Char) (h : ∀ k ∈ keys, k.Fits) :
    Expressible digits (address keys) := by
  intro s hs
  obtain ⟨k, hk, rfl⟩ := List.mem_map.mp hs
  exact .keys (by simp) (by simpa using h k hk)

/-! ### Reading any text -/

/-- **How reading a text ends**, whatever the text is. -/
structure Settled (text : String) : Prop where
  /-- It yields a path, or looking anything up fails for the expression. -/
  outcome : (∃ path, read? text = some path) ∨
    (read? text = none ∧ ∀ doc, Lookup.json text doc = .error (.expression text))
  /-- The steps are enough: with more of them the outcome is the same. -/
  steps : ∀ l, text.toList = '$' :: l → ∀ n m, text.length < n → text.length < m →
    readSegments n m [] l = read? text
  /-- A segment that is read in the text ends in the text, behind its beginning. -/
  segment : ∀ n l s k, l <:+ text.toList → readSegment n l = some (s, k) →
    k <:+ text.toList ∧ k.length < l.length
  /-- A quoted text does too, also where a backslash stands at the very end. -/
  quoted : ∀ quote l s k, l <:+ text.toList → readQuoted quote l = some (s, k) →
    k <:+ text.toList ∧ k.length < l.length

theorem settled (text : String) : Settled text where
  outcome := by
    unfold Lookup.json
    cases h : read? text with
    | none => exact .inr ⟨rfl, fun _ => rfl⟩
    | some path => exact .inl ⟨path, rfl⟩
  steps _ hl _ _ hn hm := read?_steps hl hn hm
  segment n l s k hl hk := by
    obtain ⟨hsuffix, hlt⟩ := shortens_readSegment n l s k hk
    exact ⟨hsuffix.trans hl, hlt⟩
  quoted quote l s k hl hk := by
    obtain ⟨hsuffix, hlt⟩ := shortens_readQuoted quote l s k hk
    exact ⟨hsuffix.trans hl, hlt⟩

/-- **Every path can be written and is read back exactly**, where numbers are written by `digits`.
Hence every value of a document is addressed by the text of its names and indexes; a document with
so many characters that an index would not fit into 64 bits fits into no memory. Reading any text
ends, with a path or with the fault of the expression. -/
theorem text_expresses (digits : Float → List Char) :
    (∀ path, Expressible digits path → read? (Layout.text digits path) = some path) ∧
    (∀ doc v, doc.length < Nat.pow 2 63 → Json.read? doc = .ok v →
      (∀ w ∈ v.preorder, ∃ keys, At v keys w) ∧
      ∀ keys w, At v keys w → Lookup.json (Layout.text digits (address keys)) doc = .ok [w]) ∧
    ∀ text, Settled text := by
  refine ⟨fun path => read?_text, fun doc v hdoc hread => ?_, settled⟩
  have hv := Json.ordered_of_read? hread
  refine ⟨fun w => exists_at hv, fun keys w hw => ?_⟩
  have hfits := (itemsUpTo_of_read? hread).fits hdoc hw
  unfold Lookup.json
  rw [read?_text (expressible_address digits hfits), hread]
  exact congrArg Except.ok (eval_address hv hw)

/-- A path with a selector of each kind, and a value behind a name that is a quote. -/
theorem text_expresses_quotes :
    let digits : Float → List Char := fun _ => ['1', '.', '5']
    let path : JsonPath := [.child (.keys [.name "it's", .index (-1)]),
      .descendant (.slice (some 1) none), .child .wildcard,
      .child (.filter ⟨[.name "a]", .index 0],
        some (.le, .number (Decimal.ofParts false ['1'] ['5'] 0))⟩)]
    let doc := "\x7b\"'\": [null]\x7d"
    (Layout.text digits path = "$['it\\'s',-1]..[1:][*][?(@['a]'][0]<=1.5)]" ∧
      read? (Layout.text digits path) = some path) ∧
    Layout.text digits (address [.name "'", .index 0]) = "$['\\''][0]" ∧
      Lookup.json (Layout.text digits (address [.name "'", .index 0])) doc = .ok [.null] := by
  intro digits path doc
  have hfits : ∀ i : Int, -1 ≤ i → i ≤ 1 → FitsWord i := fun i hlow hhigh => by
    have hpow : (Nat.pow 2 63 : Int) = 9223372036854775808 := rfl
    exact ⟨by omega, by omega⟩
  have hname : ∀ n, (Key.name n).Fits := fun n i hi => by cases hi
  have hindex : ∀ i : Int, -1 ≤ i → i ≤ 1 → (Key.index i).Fits := fun i hlow hhigh j hj => by
    cases hj
    exact hfits i hlow hhigh
  have hpath : Expressible digits path := by
    intro s hs
    simp only [path, List.mem_cons, List.not_mem_nil, or_false] at hs
    rcases hs with rfl | rfl | rfl | rfl
    · refine .keys (by simp) fun k hk => ?_
      rcases List.mem_pair.mp hk with rfl | rfl
      · exact hname _
      · exact hindex _ (by decide) (by decide)
    · exact .slice (fun i hi => hfits i (by cases hi; decide) (by cases hi; decide))
        fun i hi => by cases hi
    · exact .wildcard
    · refine .filter ⟨fun k hk => ?_, fun c hc => ?_⟩
      · rcases List.mem_pair.mp hk with rfl | rfl
        · exact hname _
        · exact hindex _ (by decide) (by decide)
      · cases hc
        intro x hx
        cases hx
        exact ⟨List.all_eq_true.mp rfl, rfl⟩
  have hread : Json.read? "\x7b\"'\": [null]\x7d" = .ok (.object [("'", .array [.null])]) := rfl
  obtain ⟨hpaths, hdocs, -⟩ := text_expresses digits
  refine ⟨⟨rfl, hpaths path hpath⟩, rfl, (hdocs doc _ (by decide) hread).2 _ _ ?_⟩
  exact .member (List.mem_singleton_self _) (.item rfl (.here _))

end HttpScript.JsonPath
