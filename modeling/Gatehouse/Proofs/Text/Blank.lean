import Gatehouse.Text.Blank
import Mathlib.Data.List.TakeWhile

/-!
# What trimming leaves

A text is made of the white space at its front, of what trimming leaves and of the white space at its
end; as what is left neither begins nor ends with white space, there is one way only to cut a text
like that (`Trims`, `trimChars_eq_iff`).
-/

namespace Gatehouse.Blank

/-- Nothing is left behind the white space at the front exactly if there is nothing else. -/
theorem trimStart_eq_nil_iff {cs : List Char} : trimStart cs = [] ↔ ∀ c ∈ cs, isBlank c = true :=
  List.dropWhile_eq_nil_iff

theorem trimChars_eq_nil_iff {cs : List Char} : trimChars cs = [] ↔ ∀ c ∈ cs, isBlank c = true := by
  constructor
  · intro h
    have hback : trimStart (trimStart cs).reverse = [] := List.reverse_eq_nil_iff.1 h
    rw [trimStart_eq_nil_iff] at hback
    -- a text is made of what is taken from its front, which is blank, and of what is left of it
    intro c hc
    rw [← List.takeWhile_append_dropWhile (p := isBlank) (l := cs), List.mem_append] at hc
    rcases hc with htaken | hleft
    · exact List.mem_takeWhile_imp htaken
    · exact hback c (List.mem_reverse.2 hleft)
  · intro h
    rw [trimChars, trimStart_eq_nil_iff.2 h]
    rfl

/-- A text is empty when it is trimmed exactly if all of it is blank. -/
theorem isEmpty_trim_iff {s : String} :
    (trim s).isEmpty = true ↔ ∀ c ∈ s.toList, isBlank c = true := by
  rw [← trimChars_eq_nil_iff, trim]
  simp

/-! ## The core of a text -/

/-- The longest white space at the front and at the end of `cs` is what stands around `core`. -/
structure Trims (cs core : List Char) : Prop where
  split : ∃ front back, cs = front ++ (core ++ back) ∧ (∀ c ∈ front, isBlank c = true) ∧
    ∀ c ∈ back, isBlank c = true
  first : ∀ c ∈ core.head?, isBlank c = false
  last : ∀ c ∈ core.getLast?, isBlank c = false

/-- What is left behind the white space at the front does not begin with any. -/
theorem trimStart_spec (cs : List Char) :
    (∃ front, cs = front ++ trimStart cs ∧ ∀ c ∈ front, isBlank c = true) ∧
      ∀ c ∈ (trimStart cs).head?, isBlank c = false := by
  refine ⟨⟨cs.takeWhile isBlank, List.takeWhile_append_dropWhile.symm,
    fun c hc => List.mem_takeWhile_imp hc⟩, ?_⟩
  intro c hc
  have hhead := List.head?_dropWhile_not isBlank cs
  rw [show cs.dropWhile isBlank = trimStart cs from rfl, hc] at hhead
  exact hhead

theorem trimStart_append {front cs : List Char} (blank : ∀ c ∈ front, isBlank c = true)
    (first : ∀ c ∈ cs.head?, isBlank c = false) : trimStart (front ++ cs) = cs := by
  rw [trimStart, List.dropWhile_append_of_pos blank]
  cases cs with
  | nil => rfl
  | cons c cs =>
    have hc : ¬ isBlank c = true := by
      rw [first c rfl]
      exact Bool.false_ne_true
    exact List.dropWhile_cons_of_neg hc

theorem trims_trimChars (cs : List Char) : Trims cs (trimChars cs) := by
  obtain ⟨⟨front, hcs, hfront⟩, hfirst⟩ := trimStart_spec cs
  obtain ⟨⟨back, hback, hblank⟩, hlast⟩ := trimStart_spec (trimStart cs).reverse
  have hsplit : trimStart cs = trimChars cs ++ back.reverse := by
    rw [← List.reverse_inj, hback]
    simp [trimChars, trimEnd]
  constructor
  case split =>
    refine ⟨front, back.reverse, by rw [← hsplit]; exact hcs, hfront, ?_⟩
    exact fun c hc => hblank c (List.mem_reverse.1 hc)
  case first =>
    intro c hc
    refine hfirst c ?_
    rw [hsplit, List.head?_append]
    rw [hc]
    rfl
  case last =>
    intro c hc
    refine hlast c ?_
    rwa [trimChars, trimEnd, List.getLast?_reverse] at hc

/-- A text can be cut like that in one way only. -/
theorem trimChars_eq_iff {cs core : List Char} : trimChars cs = core ↔ Trims cs core := by
  refine ⟨fun h => h ▸ trims_trimChars cs, fun h => ?_⟩
  obtain ⟨⟨front, back, rfl, hfront, hback⟩, hfirst, hlast⟩ := h
  cases core with
  | nil =>
    refine trimChars_eq_nil_iff.2 fun c hc => ?_
    exact (List.mem_append.1 hc).elim (hfront c) (hback c)
  | cons x rest =>
    have hstart : trimStart (front ++ (x :: rest ++ back)) = x :: rest ++ back :=
      trimStart_append hfront fun c hc => hfirst c hc
    have hend : trimStart (back.reverse ++ (x :: rest).reverse) = (x :: rest).reverse := by
      refine trimStart_append (fun c hc => hback c (List.mem_reverse.1 hc)) ?_
      rw [List.head?_reverse]
      exact hlast
    rw [trimChars, hstart, trimEnd, List.reverse_append, hend, List.reverse_reverse]

/-- What is not white space itself is never trimmed away. -/
theorem Trims.mem {cs core : List Char} {c : Char} (trims : Trims cs core) (hmem : c ∈ cs)
    (hc : isBlank c = false) : c ∈ core := by
  obtain ⟨front, back, rfl, hfront, hback⟩ := trims.split
  rcases List.mem_append.1 hmem with h | h
  · cases hc.symm.trans (hfront c h)
  rcases List.mem_append.1 h with h | h
  · exact h
  · cases hc.symm.trans (hback c h)

/-- White space at the front ends before the first character that is none. -/
theorem rest_of_blank {before rest front back : List Char} {x : Char}
    (hsplit : before ++ rest = front ++ x :: back) (hbefore : ∀ c ∈ before, isBlank c = true)
    (hx : isBlank x = false) : ∃ middle, rest = middle ++ x :: back := by
  rcases List.append_eq_append_iff.1 hsplit with ⟨middle, -, hrest⟩ | ⟨middle, rfl, hback⟩
  · exact ⟨middle, hrest⟩
  · cases middle with
    | nil => exact ⟨[], hback.symm⟩
    | cons a middle =>
      obtain ⟨rfl, -⟩ := List.cons.inj hback
      have hmem : x ∈ front ++ x :: middle := List.mem_append_right front List.mem_cons_self
      cases hx.symm.trans (hbefore x hmem)

/-- What stands between two characters that are not white space is not trimmed away either. -/
theorem Trims.mem_of_between {front inner back core : List Char} {x y c : Char}
    (trims : Trims (front ++ x :: (inner ++ y :: back)) core) (hx : isBlank x = false)
    (hy : isBlank y = false) (hmem : c ∈ inner) : c ∈ core := by
  obtain ⟨before, behind, hsplit, hbefore, hbehind⟩ := trims.split
  obtain ⟨middle, hcore⟩ := rest_of_blank hsplit.symm hbefore hx
  -- the same from the other end
  have hreverse : behind.reverse ++ core.reverse =
      back.reverse ++ y :: (inner.reverse ++ x :: middle.reverse) := by
    rw [← List.reverse_append, hcore]
    simp
  obtain ⟨middle', hend⟩ :=
    rest_of_blank hreverse (fun c hc => hbehind c (List.mem_reverse.1 hc)) hy
  rw [← List.mem_reverse, hend]
  simp [hmem]

end Gatehouse.Blank
