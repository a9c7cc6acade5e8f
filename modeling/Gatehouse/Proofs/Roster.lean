import Gatehouse.Roster
import Mathlib.Algebra.BigOperators.Group.List.Basic

/-!
# Counting over rosters

What all entries of a roster come to (`Roster.total`), and how the operations change it.  The
numbers of a roster are pairwise different (`ids.Nodup`): an operation on a number then concerns one
entry.
-/

namespace Gatehouse.Roster

variable {α : Type}

/-! ## The numbers in use -/

theorem find?_isSome_iff {r : Roster α} {id : Nat} : (r.find? id).isSome ↔ id ∈ r.ids := by
  induction r with
  | nil => simp [find?, ids]
  | cons entry r ih =>
    obtain ⟨j, b⟩ := entry
    rw [find?_cons]
    show _ ↔ id ∈ j :: ids r
    rw [List.mem_cons]
    by_cases hj : id = j
    · rw [if_pos hj]
      exact ⟨fun _ => Or.inl hj, fun _ => rfl⟩
    · rw [if_neg hj, ih]
      exact ⟨Or.inr, fun h => h.resolve_left hj⟩

theorem find?_eq_none_iff {r : Roster α} {id : Nat} : r.find? id = none ↔ id ∉ r.ids := by
  rw [← find?_isSome_iff, Bool.not_eq_true, Option.isSome_eq_false_iff, Option.isNone_iff_eq_none]

theorem mem_ids_of_find? {r : Roster α} {id : Nat} {a : α} (h : r.find? id = some a) :
    id ∈ r.ids := by
  rw [← find?_isSome_iff, h]
  rfl

theorem mem_of_find? {r : Roster α} {id : Nat} {a : α} (h : r.find? id = some a) : (id, a) ∈ r := by
  induction r with
  | nil => cases h
  | cons entry r ih =>
    obtain ⟨j, b⟩ := entry
    rw [find?_cons] at h
    split at h
    · rename_i hj
      cases h
      rw [hj]
      exact List.mem_cons_self
    · exact List.mem_cons_of_mem _ (ih h)

theorem mem_erase {r : Roster α} {id : Nat} {entry : Nat × α} :
    entry ∈ r.erase id ↔ entry ∈ r ∧ entry.1 ≠ id := by
  rw [erase, List.mem_filter, bne_iff_ne]

theorem mem_enter {r : Roster α} {id : Nat} {a : α} {entry : Nat × α} :
    entry ∈ r.enter id a ↔ entry ∈ r ∨ entry = (id, a) := by
  rw [enter, List.mem_append, List.mem_singleton]

theorem mem_of_mem_update {r : Roster α} {id : Nat} {a : α} {entry : Nat × α}
    (h : entry ∈ r.update id a) : entry ∈ r ∨ entry = (id, a) := by
  obtain ⟨old, hold, rfl⟩ := List.mem_map.1 h
  split
  · exact Or.inr rfl
  · exact Or.inl hold

/-- What stands under a number stays there when another thing is entered. -/
theorem find?_enter_of_some {r : Roster α} {k : Nat} {b : α} (h : r.find? k = some b) (id : Nat)
    (a : α) : (r.enter id a).find? k = some b := by
  induction r with
  | nil => cases h
  | cons entry r ih =>
    obtain ⟨j, c⟩ := entry
    rw [find?_cons] at h
    show find? ((j, c) :: enter r id a) k = some b
    rw [find?_cons]
    by_cases hk : k = j
    · rw [if_pos hk] at h ⊢
      exact h
    · rw [if_neg hk] at h ⊢
      exact ih h

/-- What is found after another thing has been entered was there before, or is the new one. -/
theorem find?_enter_cases {r : Roster α} {id k : Nat} {a b : α}
    (h : (r.enter id a).find? k = some b) : r.find? k = some b ∨ k = id ∧ b = a := by
  induction r with
  | nil =>
    rw [show enter ([] : Roster α) id a = [(id, a)] from rfl, find?_cons] at h
    split at h
    · exact Or.inr ⟨‹_›, (Option.some.inj h).symm⟩
    · cases h
  | cons entry r ih =>
    obtain ⟨j, c⟩ := entry
    have h : find? ((j, c) :: enter r id a) k = some b := h
    rw [find?_cons] at h ⊢
    by_cases hk : k = j
    · rw [if_pos hk] at h ⊢
      exact Or.inl h
    · rw [if_neg hk] at h ⊢
      exact ih h

/-- What is found under the other numbers stays as it is when a thing is entered. -/
theorem find?_enter_of_ne (r : Roster α) {id k : Nat} (hne : k ≠ id) (a : α) :
    (r.enter id a).find? k = r.find? k := by
  cases found : r.find? k with
  | some b => exact find?_enter_of_some found id a
  | none =>
    rw [Option.eq_none_iff_forall_ne_some]
    intro b hb
    rcases find?_enter_cases hb with hold | ⟨heq, _⟩
    · cases found.symm.trans hold
    · exact hne heq

/-- A number that is not in use can be struck out without a change. -/
theorem erase_eq_self {r : Roster α} {id : Nat} (h : id ∉ r.ids) : r.erase id = r := by
  rw [erase, List.filter_eq_self]
  intro entry hentry
  rw [bne_iff_ne]
  rintro rfl
  exact h (List.mem_map_of_mem hentry)

/-- Nothing is put under a number that is not in use. -/
theorem update_eq_self {r : Roster α} {id : Nat} (h : id ∉ r.ids) (a : α) : r.update id a = r := by
  rw [update]
  conv_rhs => rw [← List.map_id r]
  apply List.map_congr_left
  intro entry hentry
  rw [if_neg]
  · rfl
  · rintro rfl
    exact h (List.mem_map_of_mem hentry)

@[simp] theorem ids_erase (r : Roster α) (id : Nat) :
    (r.erase id).ids = r.ids.filter (· != id) := by
  rw [erase, ids, ids, List.filter_map]
  rfl

/-- Striking out a number that is in use leaves fewer. -/
theorem length_ids_erase_lt {r : Roster α} {id : Nat} (h : id ∈ r.ids) :
    (r.erase id).ids.length < r.ids.length := by
  rw [ids_erase, List.length_filter_lt_length_iff_exists]
  exact ⟨id, h, by simp⟩

theorem mem_ids_enter {r : Roster α} {id k : Nat} {a : α} :
    k ∈ (r.enter id a).ids ↔ k ∈ r.ids ∨ k = id := by
  rw [ids_enter, List.mem_append, List.mem_singleton]

theorem nodup_erase {r : Roster α} (h : r.ids.Nodup) (id : Nat) : (r.erase id).ids.Nodup := by
  rw [ids_erase]
  exact h.filter _

theorem nodup_enter {r : Roster α} {id : Nat} (h : r.ids.Nodup) (hnew : id ∉ r.ids) (a : α) :
    (r.enter id a).ids.Nodup := by
  rw [ids_enter, List.nodup_append]
  refine ⟨h, by simp, ?_⟩
  intro k hk j hj
  rw [List.mem_singleton.1 hj]
  rintro rfl
  exact hnew hk

/-! ## Totals -/

variable {M : Type} [AddCommMonoid M]

/-- What all entries come to. -/
def total (r : Roster α) (f : α → M) : M := (r.map fun entry => f entry.2).sum

theorem total_cons (id : Nat) (a : α) (r : Roster α) (f : α → M) :
    total ((id, a) :: r) f = f a + r.total f := by
  rw [total, List.map_cons, List.sum_cons]
  rfl

theorem total_enter (r : Roster α) (id : Nat) (a : α) (f : α → M) :
    (r.enter id a).total f = f a + r.total f := by
  rw [enter, total, List.map_append, List.sum_append, List.map_singleton, List.sum_singleton,
    add_comm]
  rfl

/-- An entry that is struck out is missing from the total. -/
theorem total_erase {r : Roster α} {id : Nat} {a : α} (nodup : r.ids.Nodup)
    (h : r.find? id = some a) (f : α → M) : r.total f = f a + (r.erase id).total f := by
  induction r with
  | nil => cases h
  | cons entry r ih =>
    obtain ⟨j, b⟩ := entry
    obtain ⟨hj, hrest⟩ := List.nodup_cons.1 (show (j :: ids r).Nodup from nodup)
    rw [find?_cons] at h
    by_cases hid : id = j
    · -- this is the entry
      subst hid
      rw [if_pos rfl] at h
      cases h
      have herase : erase ((id, a) :: r) id = erase r id := by simp [erase]
      rw [total_cons, herase, erase_eq_self hj]
    · rw [if_neg hid] at h
      have herase : erase ((j, b) :: r) id = (j, b) :: erase r id := by
        simp [erase, Ne.symm hid]
      rw [total_cons, herase, total_cons, ih hrest h, add_left_comm]

/-- An entry that is replaced gives its place in the total to the new one. -/
theorem total_update {r : Roster α} {id : Nat} {b : α} (nodup : r.ids.Nodup)
    (h : r.find? id = some b) (a : α) (f : α → M) :
    f b + (r.update id a).total f = f a + r.total f := by
  induction r with
  | nil => cases h
  | cons entry r ih =>
    obtain ⟨j, c⟩ := entry
    obtain ⟨hj, hrest⟩ := List.nodup_cons.1 (show (j :: ids r).Nodup from nodup)
    rw [find?_cons] at h
    by_cases hid : id = j
    · subst hid
      rw [if_pos rfl] at h
      cases h
      have hupdate : update ((id, b) :: r) id a = (id, a) :: update r id a := by simp [update]
      rw [hupdate, total_cons, total_cons, update_eq_self hj, add_left_comm]
    · rw [if_neg hid] at h
      have hupdate : update ((j, c) :: r) id a = (j, c) :: update r id a := by
        simp [update, Ne.symm hid]
      rw [hupdate, total_cons, total_cons, add_left_comm, ih hrest h, add_left_comm]

end Gatehouse.Roster
