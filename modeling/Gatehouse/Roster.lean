/-!
# Rosters

Things under numbers, in the order in which they were entered: the connections, calls and waiting
parties that a state keeps track of.  Each operation is known by what `find?` gives after it
(`find?_enter`, `find?_erase`, `find?_update`).
-/

namespace Gatehouse

/-- Things under numbers. -/
abbrev Roster (α : Type) := List (Nat × α)

namespace Roster

variable {α : Type}

/-- The thing under a number. -/
def find? (r : Roster α) (id : Nat) : Option α := r.lookup id

/-- The numbers in use, in order of entry. -/
def ids (r : Roster α) : List Nat := r.map (·.1)

/-- Enter a thing under a number that is not in use. -/
def enter (r : Roster α) (id : Nat) (a : α) : Roster α := r ++ [(id, a)]

/-- Strike out a number. -/
def erase (r : Roster α) (id : Nat) : Roster α := r.filter (·.1 != id)

/-- Put something else under a number that is in use. -/
def update (r : Roster α) (id : Nat) (a : α) : Roster α :=
  r.map fun entry => if entry.1 = id then (id, a) else entry

/-! ## What stands under a number afterwards -/

theorem find?_cons (id k : Nat) (a : α) (r : Roster α) :
    find? ((id, a) :: r) k = if k = id then some a else r.find? k := by
  unfold find?
  rw [List.lookup_cons]
  by_cases h : k = id
  · subst h
    simp
  · have hk : (k == id) = false := by simpa using h
    simp [hk, h]

/-- A number that is new is found last, so it hides nothing. -/
theorem find?_enter (r : Roster α) (id k : Nat) (a : α) (fresh : r.find? id = none) :
    (r.enter id a).find? k = if k = id then some a else r.find? k := by
  induction r with
  | nil => exact find?_cons id k a []
  | cons entry r ih =>
    obtain ⟨j, b⟩ := entry
    rw [find?_cons] at fresh
    split at fresh
    · cases fresh
    · rename_i hne
      have ih := ih fresh
      simp only [enter] at ih
      simp only [enter, List.cons_append]
      rw [find?_cons, ih, find?_cons]
      by_cases hk : k = j
      · subst hk
        rw [if_pos rfl, if_pos rfl, if_neg (Ne.symm hne)]
      · rw [if_neg hk, if_neg hk]

theorem find?_erase (r : Roster α) (id k : Nat) :
    (r.erase id).find? k = if k = id then none else r.find? k := by
  induction r with
  | nil => simp [erase, find?]
  | cons entry r ih =>
    obtain ⟨j, b⟩ := entry
    simp only [erase] at ih
    by_cases hj : j = id
    · -- the entry goes
      subst hj
      simp only [erase, List.filter_cons, bne_self_eq_false, Bool.false_eq_true, if_false]
      rw [ih, find?_cons]
      by_cases hk : k = j
      · rw [if_pos hk, if_pos hk]
      · rw [if_neg hk, if_neg hk, if_neg hk]
    · -- the entry stays
      have hb : (j != id) = true := by simpa using hj
      simp only [erase, List.filter_cons, hb, if_true]
      rw [find?_cons, ih, find?_cons]
      by_cases hk : k = j
      · subst hk
        rw [if_pos rfl, if_neg hj, if_pos rfl]
      · rw [if_neg hk, if_neg hk]

theorem find?_update (r : Roster α) (id k : Nat) (a : α) :
    (r.update id a).find? k = if k = id then (r.find? id).map (fun _ => a) else r.find? k := by
  induction r with
  | nil => simp [update, find?]
  | cons entry r ih =>
    obtain ⟨j, b⟩ := entry
    simp only [update] at ih
    by_cases hj : j = id
    · -- this is the entry that is changed
      subst hj
      simp only [update, List.map_cons, if_true]
      rw [find?_cons, find?_cons, find?_cons]
      by_cases hk : k = j
      · subst hk
        simp
      · rw [if_neg hk, if_neg hk, if_neg hk, ih, if_neg hk]
    · simp only [update, List.map_cons, if_neg hj]
      rw [find?_cons, find?_cons, find?_cons, ih, if_neg (Ne.symm hj)]
      by_cases hk : k = j
      · subst hk
        rw [if_pos rfl, if_neg hj, if_pos rfl]
      · rw [if_neg hk, if_neg hk]

@[simp] theorem length_update (r : Roster α) (id : Nat) (a : α) :
    (r.update id a).length = r.length := by
  simp [update]

@[simp] theorem ids_update (r : Roster α) (id : Nat) (a : α) : (r.update id a).ids = r.ids := by
  simp only [update, ids, List.map_map]
  apply List.map_congr_left
  intro entry _
  simp only [Function.comp]
  split
  · rename_i h
    exact h.symm
  · rfl

@[simp] theorem ids_enter (r : Roster α) (id : Nat) (a : α) :
    (r.enter id a).ids = r.ids ++ [id] := by
  simp [enter, ids]

end Roster

end Gatehouse
