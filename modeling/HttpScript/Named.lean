/-! # Values by name

Lists of named values in the order of their names, one for each name. `insert` puts a value in its
place and `find?` looks one up. -/

namespace HttpScript.Named

variable {α : Type}

/-- Puts a value in its place; the value of an equal name is replaced. -/
def insert (name : String) (value : α) : List (String × α) → List (String × α)
  | [] => [(name, value)]
  | (n, v) :: l =>
    if name < n then (name, value) :: (n, v) :: l
    else if name = n then (name, value) :: l
    else (n, v) :: insert name value l

/-- The value of a name. -/
def find? (name : String) (l : List (String × α)) : Option α :=
  (l.find? fun m => m.1 = name).map (·.2)

/-- The values of a list in the order of their names; of several with one name the last counts. -/
def ofList (l : List (String × α)) : List (String × α) :=
  l.foldl (fun acc m => insert m.1 m.2 acc) []

/-- **Looking up after inserting.** -/
theorem find?_insert (name n : String) (value : α) (l : List (String × α)) :
    find? n (insert name value l) = if n = name then some value else find? n l := by
  induction l with
  | nil => by_cases h : name = n <;> simp [insert, find?, h, eq_comm]
  | cons p l ih =>
    obtain ⟨m, v⟩ := p
    unfold insert
    split
    · by_cases h : name = n <;> simp [find?, h, eq_comm]
    · split
      · rename_i h; subst h
        by_cases h : name = n <;> simp [find?, h, eq_comm]
      · rename_i hne
        by_cases h : m = n
        · subst h
          have : ¬ m = name := fun e => hne e.symm
          simp [find?, this]
        · have := ih
          simp only [find?, List.find?_cons, h, decide_false] at this ⊢
          exact this

end HttpScript.Named
