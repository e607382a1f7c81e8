import HttpScript.Proofs.Pattern.Steps

/-! # What a search finds

A search follows all threads side by side and lets none stand where another has stood. It finds
the preferred match all the same: the threads in front of that of the preferred match lead to none,
so whatever they have visited is not on its way.

* `Visited`: what has been visited, against the instructions that the preferred thread has passed.
* `follow_through`, `follow_preferred`: the threads at one place, up to the preferred one.
* `Search.visit_hopeless`, `Search.visit_ahead`: one place of a search.
* `Search.result_eq_some`, `Search.result_eq_none`: all places from one on.
* `Node.search_eq_some`, `Node.search_eq_none`: the search for a pattern. -/

namespace HttpScript.Pattern

variable {p : Program} {l : List Char} {i : Nat} {d : Capture}

/-! ### Following threads -/

section Following

variable {V : Finset Nat} {visited : Array Bool}

/-- A thread rests at an instruction that reads a character or ends the match. -/
def rests (p : Program) (q : Nat) : Bool :=
  match p[q]? with
  | some (.read _ _) => true
  | some .done => true
  | _ => false

/-- The threads that one goes on as, the preferred one first. -/
def Thread.ways (p : Program) (place : Place) (t : Thread) : List Thread :=
  (nexts p place t.instr).map fun n => ⟨n, marked p place t.instr t.capture⟩

theorem nexts_of_rests {place : Place} {q : Nat} (h : rests p q = true) : nexts p place q = [] := by
  unfold rests at h
  split at h
  · simp [nexts, *]
  · simp [nexts, *]
  · cases h

theorem rests_of_readsTo {q n : Nat} {c : Option Char} (h : readsTo p q c = some n) :
    rests p q = true := by
  unfold readsTo at h
  split at h
  · simp [rests, *]
  · cases h

theorem nexts_length (place : Place) (q : Nat) : (nexts p place q).length ≤ 2 := by
  unfold nexts
  split
  · split <;> simp
  all_goals simp

/-- One step: a thread that stands where none has stood yet rests or goes on. -/
theorem follow_cons (place : Place) (steps : Nat) (t : Thread) (pending : List Thread)
    (visited : Array Bool) (found : List Thread) :
    follow p place (steps + 1) (t :: pending) visited found =
      if visited.getD t.instr true then follow p place steps pending visited found
      else follow p place steps (t.ways p place ++ pending) (visited.setIfInBounds t.instr true)
        (if rests p t.instr then t :: found else found) := by
  rw [follow]
  split
  · rfl
  · dsimp only
    unfold Thread.ways nexts marked rests
    cases hq : p[t.instr]? with
    | none => rfl
    | some instr =>
      cases instr with
      | look a n =>
        dsimp only
        split <;> rfl
      | _ => rfl

/-- What is found later is put in front. -/
theorem follow_found (place : Place) (steps : Nat) (pending : List Thread) (visited : Array Bool)
    (found : List Thread) :
    ∃ later, (follow p place steps pending visited found).1 = later ++ found := by
  induction steps generalizing pending visited found with
  | zero => exact ⟨[], by cases pending <;> rfl⟩
  | succ steps ih =>
    cases pending with
    | nil => exact ⟨[], rfl⟩
    | cons t pending =>
      rw [follow_cons]
      split
      · exact ih _ _ _
      · obtain ⟨later, h⟩ := ih (t.ways p place ++ pending) (visited.setIfInBounds t.instr true)
          (if rests p t.instr then t :: found else found)
        rw [h]
        split
        · exact ⟨later ++ [t], by simp⟩
        · exact ⟨later, rfl⟩

/-- The instructions where no thread has stood yet. -/
def unvisited (visited : Array Bool) : Nat := visited.count false

/-- What has been visited are the instructions of `V` and some that lead nowhere without them. -/
structure Visited (p : Program) (l : List Char) (i : Nat) (V : Finset Nat) (visited : Array Bool) :
    Prop where
  size : visited.size = p.size
  passed : ∀ q ∈ V, visited.getD q true = true
  dead : ∀ q, visited.getD q true = true → q ∈ V ∨ ¬ Leads p l V q i

theorem visited_none : Visited p l i ∅ (Array.replicate p.size false) where
  size := Array.size_replicate
  passed q hq := absurd hq (Finset.notMem_empty q)
  dead q hq := by
    refine .inr fun h => ?_
    simp [Array.getD, h.lt_size] at hq

theorem getD_set (visited : Array Bool) (q r : Nat) :
    (visited.setIfInBounds q true).getD r true = if q = r then true else visited.getD r true := by
  rw [Array.getD_eq_getD_getElem?, Array.getElem?_setIfInBounds, Array.getD_eq_getD_getElem?]
  split
  · split <;> rfl
  · rfl

theorem unvisited_set {q : Nat} (h : visited.getD q true = false) :
    unvisited (visited.setIfInBounds q true) + 1 = unvisited visited := by
  have hq : q < visited.size := by
    by_contra hq
    simp [Array.getD, hq] at h
  have hfalse : visited[q] = false := by simpa [Array.getD, hq] using h
  have hpos : 0 < visited.count false := Array.count_pos_iff.2 (hfalse ▸ Array.getElem_mem hq)
  unfold unvisited
  rw [Array.setIfInBounds_def, dif_pos hq, Array.count_set hq]
  simp [hfalse]
  omega

namespace Visited

/-- A thread that leads to a match comes to an instruction where none has stood. -/
theorem getD_of_leads (hv : Visited p l i V visited) {q : Nat} (h : Leads p l V q i) :
    visited.getD q true = false := by
  by_contra hq
  rcases hv.dead q (by simpa using hq) with hV | hno
  · exact h.notMem hV
  · exact hno h

theorem set_dead (hv : Visited p l i V visited) {q : Nat} (h : ¬ Leads p l V q i) :
    Visited p l i V (visited.setIfInBounds q true) where
  size := by rw [Array.size_setIfInBounds, hv.size]
  passed r hr := by rw [getD_set, hv.passed r hr, ite_self]
  dead r hr := by
    rw [getD_set] at hr
    split at hr
    · rename_i heq
      exact .inr (heq ▸ h)
    · exact hv.dead r hr

theorem set_insert (hv : Visited p l i V visited) (q : Nat) :
    Visited p l i (insert q V) (visited.setIfInBounds q true) where
  size := by rw [Array.size_setIfInBounds, hv.size]
  passed r hr := by
    rw [getD_set]
    rcases Finset.mem_insert.1 hr with rfl | hr
    · rw [if_pos rfl]
    · rw [hv.passed r hr, ite_self]
  dead r hr := by
    rw [getD_set] at hr
    split at hr
    · rename_i heq
      exact .inl (Finset.mem_insert.2 (.inl heq.symm))
    · rcases hv.dead r hr with hV | hno
      · exact .inl (Finset.mem_insert_of_mem hV)
      · exact .inr fun h => hno (h.mono (Finset.subset_insert q V))

end Visited

/-- Threads of which none leads to a match. -/
def Hopeless (p : Program) (l : List Char) (V : Finset Nat) (i : Nat) (threads : List Thread) :
    Prop :=
  ∀ x ∈ threads, ¬ Leads p l V x.instr i

/-- A thread that rests, but does not lead to a match. -/
def Idle (p : Program) (l : List Char) (i : Nat) (t : Thread) : Prop :=
  rests p t.instr = true ∧ ¬ Leads p l ∅ t.instr i

/-- A resting thread reads its character whatever instructions have been visited. -/
theorem Leads.of_rests {q : Nat} (h : Leads p l ∅ q i) (hrests : rests p q = true) (hq : q ∉ V) :
    Leads p l V q i := by
  rcases h.step with hdone | ⟨n, hread, hn⟩ | ⟨n, hn, -⟩
  · exact .done hq hdone
  · exact .read hq hread hn
  · rw [nexts_of_rests hrests] at hn
    cases hn

/-- Threads that do not lead to a match are followed without reaching any that does. -/
theorem follow_through (hv : Visited p l i V visited) {dead : List Thread}
    (hdead : Hopeless p l V i dead) (pending found : List Thread) {steps : Nat}
    (hsteps : 2 * unvisited visited + (dead ++ pending).length < steps) :
    ∃ steps' visited' idle, follow p (placeAt l i) steps (dead ++ pending) visited found =
        follow p (placeAt l i) steps' pending visited' (idle ++ found) ∧
      Visited p l i V visited' ∧ (∀ x ∈ idle, Idle p l i x) ∧
      2 * unvisited visited' + pending.length < steps' := by
  induction steps generalizing visited dead found with
  | zero => cases hsteps
  | succ steps ih =>
    cases dead with
    | nil => exact ⟨steps + 1, visited, [], rfl, hv, by simp, hsteps⟩
    | cons x dead =>
      have hx : ¬ Leads p l V x.instr i := hdead x (by simp)
      have hdead : Hopeless p l V i dead := fun y hy => hdead y (by simp [hy])
      rw [List.cons_append] at hsteps ⊢
      rw [List.length_cons] at hsteps
      rw [follow_cons]
      cases hseen : visited.getD x.instr true with
      | true =>
        rw [if_pos rfl]
        exact ih hv hdead found (by omega)
      | false =>
        have hfewer := unvisited_set hseen
        have hxV : x.instr ∉ V := fun h => by simp [hv.passed _ h] at hseen
        have hways : Hopeless p l V i (x.ways p (placeAt l i) ++ dead) := by
          intro y hy
          rcases List.mem_append.1 hy with hy | hy
          · obtain ⟨n, hn, rfl⟩ := List.mem_map.1 hy
            exact fun h => hx (.go hxV hn h)
          · exact hdead y hy
        have hlength : (x.ways p (placeAt l i)).length ≤ 2 := by
          rw [Thread.ways, List.length_map]
          exact nexts_length _ _
        rw [if_neg (by simp), ← List.append_assoc]
        obtain ⟨steps', visited', idle, hfollow, hv', hidle, hsteps'⟩ :=
          ih (hv.set_dead hx) hways (if rests p x.instr then x :: found else found) (by
            simp only [List.length_append] at hsteps ⊢
            omega)
        rw [hfollow]
        cases hrests : rests p x.instr with
        | false => exact ⟨steps', visited', idle, rfl, hv', hidle, hsteps'⟩
        | true =>
          refine ⟨steps', visited', idle ++ [x], by simp, hv', fun y hy => ?_, hsteps'⟩
          rcases List.mem_append.1 hy with hy | hy
          · exact hidle y hy
          · obtain rfl := List.mem_singleton.1 hy
            exact ⟨hrests, fun h => hx (h.of_rests hrests hxV)⟩

/-- Behind threads that do not lead to a match, one that does takes its step. -/
theorem follow_leading {q : Nat} {c : Capture} (h : Leads p l V q i)
    (hv : Visited p l i V visited) {dead : List Thread}
    (hdead : Hopeless p l V i dead) (pending found : List Thread) {steps : Nat}
    (hsteps : 2 * unvisited visited + (dead ++ ⟨q, c⟩ :: pending).length < steps) :
    ∃ steps' visited' idle, follow p (placeAt l i) steps (dead ++ ⟨q, c⟩ :: pending) visited found =
        follow p (placeAt l i) steps' (Thread.ways p (placeAt l i) ⟨q, c⟩ ++ pending) visited'
          (if rests p q then ⟨q, c⟩ :: (idle ++ found) else idle ++ found) ∧
      Visited p l i (insert q V) visited' ∧ (∀ x ∈ idle, Idle p l i x) ∧
      2 * unvisited visited' + (Thread.ways p (placeAt l i) ⟨q, c⟩ ++ pending).length < steps' := by
  obtain ⟨steps', visited', idle, hfollow, hv', hidle, hsteps'⟩ :=
    follow_through hv hdead (⟨q, c⟩ :: pending) found hsteps
  have hnew := hv'.getD_of_leads h
  have hfewer := unvisited_set hnew
  have hlength : (Thread.ways p (placeAt l i) ⟨q, c⟩).length ≤ 2 := by
    rw [Thread.ways, List.length_map]
    exact nexts_length _ _
  obtain ⟨steps', rfl⟩ : ∃ n, steps' = n + 1 := ⟨steps' - 1, by omega⟩
  refine ⟨steps', visited'.setIfInBounds q true, idle, ?_, hv'.set_insert q, hidle, ?_⟩
  · rw [hfollow, follow_cons, hnew, if_neg (by simp)]
  · rw [List.length_cons] at hsteps'
    rw [List.length_append]
    omega

/-- **Following the preferred thread**: where it rests, all threads found before it are idle. -/
theorem follow_preferred {q : Nat} {c : Capture} (h : Prefers p l V q i c d)
    (hv : Visited p l i V visited) {dead : List Thread}
    (hdead : Hopeless p l V i dead) (pending found : List Thread) {steps : Nat}
    (hsteps : 2 * unvisited visited + (dead ++ ⟨q, c⟩ :: pending).length < steps) :
    ∃ later t idle, (follow p (placeAt l i) steps (dead ++ ⟨q, c⟩ :: pending) visited found).1 =
        later ++ t :: (idle ++ found) ∧ (∀ x ∈ idle, Idle p l i x) ∧ rests p t.instr = true ∧
      Prefers p l ∅ t.instr i t.capture d := by
  induction h generalizing visited dead pending found steps with
  | @done V q i c hq hdone =>
    have hrests : rests p q = true := by simp [rests, hdone]
    obtain ⟨steps', visited', idle, hfollow, -, hidle, -⟩ :=
      follow_leading (.done hq hdone) hv hdead pending found hsteps
    rw [if_pos hrests] at hfollow
    obtain ⟨later, hlater⟩ := follow_found (placeAt l i) steps' _ visited' _
    exact ⟨later, ⟨q, c⟩, idle, by rw [hfollow, hlater], hidle, hrests,
      .done (Finset.notMem_empty q) hdone⟩
  | @read V q i n c d hq hread hn _ =>
    have hrests := rests_of_readsTo hread
    obtain ⟨steps', visited', idle, hfollow, -, hidle, -⟩ :=
      follow_leading (.read hq hread hn.leads) hv hdead pending found hsteps
    rw [if_pos hrests] at hfollow
    obtain ⟨later, hlater⟩ := follow_found (placeAt l i) steps' _ visited' _
    exact ⟨later, ⟨q, c⟩, idle, by rw [hfollow, hlater], hidle, hrests,
      .read (Finset.notMem_empty q) hread hn⟩
  | @go V q i n before after c d hq hns hbefore hn ih =>
    have hrests : rests p q = false := by
      by_contra h
      rw [nexts_of_rests (by simpa using h)] at hns
      simp at hns
    have hleads : Leads p l V q i :=
      .go hq (by simp [hns]) (hn.leads.mono (Finset.subset_insert q V))
    obtain ⟨steps', visited', idle, hfollow, hv', hidle, hsteps'⟩ :=
      follow_leading hleads hv hdead pending found hsteps
    have hways : ∀ c, Thread.ways p (placeAt l i) ⟨q, c⟩ ++ pending =
        before.map (fun m => ⟨m, marked p (placeAt l i) q c⟩) ++
          ⟨n, marked p (placeAt l i) q c⟩ ::
            (after.map (fun m => ⟨m, marked p (placeAt l i) q c⟩) ++ pending) := fun c => by
      simp [Thread.ways, hns]
    rw [hrests, if_neg (by simp), hways] at hfollow
    rw [hways] at hsteps'
    obtain ⟨later, t, idle', hfound, hidle', ht, hprefers⟩ :=
      ih hv' (by simpa [Hopeless] using hbefore) _ (idle ++ found) hsteps'
    refine ⟨later, t, idle' ++ idle, by rw [hfollow, hfound, List.append_assoc], ?_, ht, hprefers⟩
    intro x hx
    exact (List.mem_append.1 hx).elim (hidle' x) (hidle x)

end Following

/-! ### One place -/

theorem advance_done {t : Thread} (h : p[t.instr]? = some .done) (c : Option Char)
    (threads : List Thread) : advance p c (t :: threads) = ([], some t.capture) := by
  rw [advance, h]

theorem advance_reads {t : Thread} {c : Option Char} {n : Nat} (h : readsTo p t.instr c = some n)
    (threads : List Thread) : advance p c (t :: threads) =
      (⟨n, t.capture⟩ :: (advance p c threads).1, (advance p c threads).2) := by
  unfold readsTo at h
  split at h
  · rename_i s m c hread
    split at h
    · rename_i hc
      cases h
      rw [advance, hread]
      simp only [if_pos hc]
    · cases h
  · cases h

theorem advance_stops {t : Thread} {c : Option Char} (h : readsTo p t.instr c = none)
    (hdone : p[t.instr]? ≠ some .done) (threads : List Thread) :
    advance p c (t :: threads) = advance p c threads := by
  rw [advance]
  split
  · rename_i heq
    exact absurd heq hdone
  · rename_i s n hread
    cases c with
    | none => rfl
    | some c =>
      by_cases hc : s.contains c.toNat = true
      · simp [readsTo, hread, hc] at h
      · simp only [if_neg hc]
  · rfl

/-- Idle threads only become threads that do not lead to a match either. -/
theorem advance_idle {idle : List Thread} (h : ∀ x ∈ idle, Idle p l i x) :
    ∃ dead, Hopeless p l ∅ (i + 1) dead ∧ ∀ threads,
      advance p l[i]? (idle ++ threads) =
        (dead ++ (advance p l[i]? threads).1, (advance p l[i]? threads).2) := by
  induction idle with
  | nil => exact ⟨[], by simp [Hopeless], fun _ => rfl⟩
  | cons x idle ih =>
    obtain ⟨dead, hdead, hadvance⟩ := ih fun y hy => h y (by simp [hy])
    obtain ⟨-, hno⟩ := h x (by simp)
    cases hread : readsTo p x.instr l[i]? with
    | none =>
      refine ⟨dead, hdead, fun threads => ?_⟩
      rw [List.cons_append, advance_stops hread, hadvance]
      exact fun hdone => hno (.done (Finset.notMem_empty _) hdone)
    | some n =>
      refine ⟨⟨n, x.capture⟩ :: dead, fun y hy => ?_, fun threads => ?_⟩
      · rcases List.mem_cons.1 hy with rfl | hy
        · exact fun hn => hno (.read (Finset.notMem_empty _) hread hn)
        · exact hdead y hy
      · rw [List.cons_append, advance_reads hread, hadvance]
        rfl

/-- The threads to follow at a place. -/
def Search.entering (start : Nat) (s : Search) : List Thread :=
  if s.found.isNone then s.threads ++ [⟨start, ⟨none, none⟩⟩] else s.threads

/-- The threads at rest at a place, in the order of preference. -/
def Search.order (p : Program) (start : Nat) (place : Place) (s : Search) : List Thread :=
  (follow p place (2 * p.size + (s.entering start).length + 1) (s.entering start)
    (Array.replicate p.size false) []).1.reverse

theorem Search.visit_eq (p : Program) (start : Nat) (place : Place) (s : Search) :
    s.visit p start place =
      ⟨(advance p place.after (s.order p start place)).1,
        (advance p place.after (s.order p start place)).2.or s.found⟩ := rfl

theorem unvisited_none (p : Program) : unvisited (Array.replicate p.size false) = p.size := by
  simp [unvisited]

theorem Search.visit_hopeless {start : Nat} {s : Search}
    (h : Hopeless p l ∅ i (s.entering start)) :
    (s.visit p start (placeAt l i)).found = s.found ∧
      Hopeless p l ∅ (i + 1) (s.visit p start (placeAt l i)).threads := by
  have hsteps : 2 * unvisited (Array.replicate p.size false) + (s.entering start ++ []).length
      < 2 * p.size + (s.entering start).length + 1 := by
    rw [unvisited_none, List.append_nil]
    omega
  obtain ⟨steps, visited, idle, hfollow, -, hidle, hsteps⟩ :=
    follow_through visited_none h [] [] hsteps
  have horder : s.order p start (placeAt l i) = idle.reverse := by
    rw [List.append_nil, List.append_nil] at hfollow
    rw [order, hfollow]
    obtain ⟨n, rfl⟩ : ∃ n, steps = n + 1 := ⟨steps - 1, by omega⟩
    rfl
  have hidle' : ∀ x ∈ idle.reverse, Idle p l i x := by simpa using hidle
  obtain ⟨dead, hdead, hadvance⟩ := advance_idle hidle'
  have hresult := hadvance []
  rw [List.append_nil] at hresult
  have hplace : (placeAt l i).after = l[i]? := rfl
  rw [visit_eq, horder, hplace, hresult]
  exact ⟨rfl, by simpa [advance] using hdead⟩

/-- The thread of the preferred match is among some threads, behind others that lead to none. -/
def Ahead (p : Program) (l : List Char) (i : Nat) (d : Capture) (threads : List Thread) : Prop :=
  ∃ dead t behind, threads = dead ++ t :: behind ∧ Hopeless p l ∅ i dead ∧
    Prefers p l ∅ t.instr i t.capture d

/-- The preferred match is found at the place, and all other threads lead to none, or the thread of
the preferred match reads a character. -/
theorem Search.visit_ahead {start : Nat} {s : Search} (h : Ahead p l i d (s.entering start)) :
    ((s.visit p start (placeAt l i)).found = some d ∧
      Hopeless p l ∅ (i + 1) (s.visit p start (placeAt l i)).threads) ∨
    i < l.length ∧ Ahead p l (i + 1) d (s.visit p start (placeAt l i)).threads := by
  obtain ⟨dead, t, behind, hentering, hdead, ht⟩ := h
  have hsteps : 2 * unvisited (Array.replicate p.size false) + (dead ++ t :: behind).length
      < 2 * p.size + (s.entering start).length + 1 := by
    rw [unvisited_none, ← hentering]
    omega
  obtain ⟨later, u, idle, hfollow, hidle, hu, hprefers⟩ :=
    follow_preferred ht visited_none hdead behind [] hsteps
  have horder : s.order p start (placeAt l i) = idle.reverse ++ u :: later.reverse := by
    rw [order]
    simp only [hentering] at hfollow ⊢
    rw [hfollow]
    simp
  have hidle' : ∀ x ∈ idle.reverse, Idle p l i x := by simpa using hidle
  obtain ⟨dead', hdead', hadvance⟩ := advance_idle hidle'
  have hplace : (placeAt l i).after = l[i]? := rfl
  rw [visit_eq, horder, hplace, hadvance]
  cases hprefers with
  | done _ hdone =>
    rw [advance_done hdone, List.append_nil]
    exact .inl ⟨rfl, hdead'⟩
  | read _ hread hn =>
    rw [advance_reads hread]
    exact .inr ⟨lt_length_of_readsTo hread, dead', _, _, rfl, hdead', hn⟩
  | go _ hns _ _ =>
    rw [nexts_of_rests hu] at hns
    simp at hns

/-! ### A whole text -/

/-- One match has been found, and no thread leads to another. -/
structure Search.Settled (p : Program) (l : List Char) (i : Nat) (d : Capture) (s : Search) :
    Prop where
  found : s.found = some d
  hopeless : Hopeless p l ∅ i s.threads

/-- Nothing has been found, and no thread leads to a match. -/
structure Search.Fruitless (p : Program) (l : List Char) (i : Nat) (s : Search) : Prop where
  found : s.found = none
  hopeless : Hopeless p l ∅ i s.threads

/-- The rest of a search from a place on. -/
def Search.result (p : Program) (start : Nat) (l : List Char) (i : Nat) (s : Search) :
    Option Capture :=
  Search.run p start (l.take i).getLast? i s (l.drop i)

namespace Search

variable {start : Nat} {s : Search}

theorem result_of_lt (h : i < l.length) : s.result p start l i =
    if (s.visit p start (placeAt l i)).found.isSome
        && (s.visit p start (placeAt l i)).threads.isEmpty
      then (s.visit p start (placeAt l i)).found
      else (s.visit p start (placeAt l i)).result p start l (i + 1) := by
  have hbefore : (l.take (i + 1)).getLast? = some l[i] := by
    rw [List.take_add_one, List.getElem?_eq_getElem h, Option.toList_some, List.getLast?_concat]
  unfold result placeAt
  rw [List.drop_eq_getElem_cons h, run, hbefore, List.getElem?_eq_getElem h]

theorem result_of_le (h : l.length ≤ i) :
    s.result p start l i = (s.visit p start (placeAt l i)).found := by
  unfold result placeAt
  rw [List.drop_eq_nil_of_le h, run, List.getElem?_eq_none h]

theorem result_of_settled {i : Nat} {s : Search} (h : s.Settled p l i d) :
    s.result p start l i = some d := by
  have hentering : Hopeless p l ∅ i (s.entering start) := by
    rw [entering, h.found]
    exact h.hopeless
  obtain ⟨hfound, hhopeless⟩ := visit_hopeless hentering
  rw [h.found] at hfound
  rcases Nat.lt_or_ge i l.length with hi | hi
  · rw [result_of_lt hi]
    split
    · exact hfound
    · exact result_of_settled ⟨hfound, hhopeless⟩
  · rw [result_of_le hi, hfound]
termination_by l.length - i

theorem result_of_ahead {i : Nat} {s : Search} (h : Ahead p l i d (s.entering start)) :
    s.result p start l i = some d := by
  rcases visit_ahead h with ⟨hfound, hhopeless⟩ | ⟨hi, dead, t, behind, hthreads, hdead, ht⟩
  · rcases Nat.lt_or_ge i l.length with hi | hi
    · rw [result_of_lt hi]
      split
      · exact hfound
      · exact result_of_settled ⟨hfound, hhopeless⟩
    · rw [result_of_le hi, hfound]
  · rw [result_of_lt hi, hthreads]
    have hempty : (dead ++ t :: behind).isEmpty = false := by simp
    rw [hempty, Bool.and_false, if_neg (by simp)]
    refine result_of_ahead ?_
    unfold entering
    split
    · exact ⟨dead, t, behind ++ [⟨start, ⟨none, none⟩⟩], by simp [hthreads], hdead, ht⟩
    · exact ⟨dead, t, behind, hthreads, hdead, ht⟩
termination_by l.length - i

theorem Fruitless.entering (h : s.Fruitless p l i) :
    s.entering start = s.threads ++ [⟨start, ⟨none, none⟩⟩] := by
  simp [Search.entering, h.found]

/-- The search goes on where the thread that starts at a place does not lead to a match. -/
theorem Fruitless.visit (h : s.Fruitless p l i) (hstart : ¬ Leads p l ∅ start i) :
    (s.visit p start (placeAt l i)).Fruitless p l (i + 1) := by
  have hentering : Hopeless p l ∅ i (s.entering start) := by
    rw [h.entering]
    intro x hx
    rcases List.mem_append.1 hx with hx | hx
    · exact h.hopeless x hx
    · obtain rfl := List.mem_singleton.1 hx
      exact hstart
  obtain ⟨hfound, hhopeless⟩ := visit_hopeless hentering
  exact ⟨hfound.trans h.found, hhopeless⟩

theorem Fruitless.result {i : Nat} {s : Search} (h : s.Fruitless p l i)
    (hstart : ¬ Leads p l ∅ start i) (hi : i < l.length) :
    s.result p start l i = (s.visit p start (placeAt l i)).result p start l (i + 1) := by
  rw [result_of_lt hi, (h.visit hstart).found]
  simp

theorem result_eq_some {i j : Nat} {s : Search} (h : s.Fruitless p l i) (hij : i ≤ j)
    (hj : j ≤ l.length) (hfirst : ∀ k, i ≤ k → k < j → ¬ Leads p l ∅ start k)
    (hd : Prefers p l ∅ start j ⟨none, none⟩ d) : s.result p start l i = some d := by
  rcases Nat.eq_or_lt_of_le hij with rfl | hij
  · exact result_of_ahead ⟨s.threads, ⟨start, ⟨none, none⟩⟩, [], h.entering, h.hopeless, hd⟩
  · have hstart := hfirst i le_rfl hij
    rw [h.result hstart (by omega)]
    exact result_eq_some (h.visit hstart) hij hj (fun k hk => hfirst k (by omega)) hd
termination_by j - i

theorem result_eq_none {i : Nat} {s : Search} (h : s.Fruitless p l i)
    (hi : i ≤ l.length) (hno : ∀ k, i ≤ k → k ≤ l.length → ¬ Leads p l ∅ start k) :
    s.result p start l i = none := by
  have hstart := hno i le_rfl hi
  rcases Nat.lt_or_ge i l.length with hi | hi
  · rw [h.result hstart hi]
    exact result_eq_none (h.visit hstart) hi fun k hk => hno k (by omega)
  · rw [result_of_le hi, (h.visit hstart).found]
termination_by l.length - i

end Search

/-! ### The match of a pattern -/

/-- The program of a pattern, with its end at place 0, and where it starts. -/
def Node.program (n : Node) : Nat × Program :=
  (do compile n (← emit .done) : StateM Program Nat).run #[]

theorem fruitless_start : (⟨[], none⟩ : Search).Fruitless p l 0 := ⟨rfl, by simp [Hopeless]⟩

/-- **A search finds the preferred match at the first place from which one exists.** -/
theorem Node.search_eq_some {n : Node} {j : Nat} (hj : j ≤ l.length)
    (hfirst : ∀ k < j, ¬ Leads n.program.2 l ∅ n.program.1 k)
    (hd : Prefers n.program.2 l ∅ n.program.1 j ⟨none, none⟩ d) : n.search l = some d :=
  Search.result_eq_some fruitless_start (Nat.zero_le j) hj (fun k _ => hfirst k) hd

/-- **A search finds nothing only where there is no match.** -/
theorem Node.search_eq_none {n : Node}
    (hno : ∀ k ≤ l.length, ¬ Leads n.program.2 l ∅ n.program.1 k) : n.search l = none :=
  Search.result_eq_none fruitless_start (Nat.zero_le _) fun k _ => hno k

end HttpScript.Pattern
