/-!
# Readers

A reader takes characters from the front of a text and gives what they say together with the rest,
or nothing at all.  Repetition takes as many pieces as there are: it reads back whatever was written
piece by piece, provided that a piece is read back whatever follows it and that no piece starts where
the pieces end.
-/

namespace Gatehouse

/-- Takes characters from the front. -/
abbrev Reader (α : Type) := List Char → Option (α × List Char)

namespace Reader

variable {α : Type}

/-- Take this character. -/
def expect (c : Char) : List Char → Option (List Char)
  | [] => none
  | x :: rest => if x = c then some rest else none

/-- Take this word. -/
def word : (w : List Char) → List Char → Option (List Char)
  | [], cs => some cs
  | c :: w, cs => (expect c cs).bind (word w)

/-- Take a character of a class. -/
def satisfying (p : Char → Bool) : Reader Char
  | [] => none
  | c :: rest => if p c then some (c, rest) else none

/-- Take pieces until there is none, or one that takes nothing. -/
def many (piece : Reader α) (cs : List Char) : List α × List Char :=
  match piece cs with
  | none => ([], cs)
  | some (a, rest) =>
    if rest.length < cs.length then
      let (as, after) := many piece rest
      (a :: as, after)
    else ([], cs)
termination_by cs.length

/-- What is left after all pieces. -/
def skip (piece : Reader α) (cs : List Char) : List Char := (many piece cs).2

/-- What a reader gives for a whole text, if it leaves nothing over. -/
def whole (reader : Reader α) (s : String) : Option α :=
  match reader s.toList with
  | some (a, []) => some a
  | _ => none

/-! ## What repetition takes -/

theorem many_of_none {piece : Reader α} {cs : List Char} (h : piece cs = none) :
    many piece cs = ([], cs) := by
  rw [many, h]

theorem many_cons {piece : Reader α} {cs rest : List Char} {a : α} (h : piece cs = some (a, rest))
    (shorter : rest.length < cs.length) :
    many piece cs = (a :: (many piece rest).1, (many piece rest).2) := by
  rw [many, h]
  simp only [shorter, if_true]

/-- Pieces that were written one after another are read back. -/
theorem many_flatMap {β : Type} {piece : Reader β} {write : α → List Char} {value : α → β}
    {rest : List Char} (stop : piece rest = none) (as : List α)
    (each : ∀ a ∈ as, ∀ t, piece (write a ++ t) = some (value a, t))
    (ne : ∀ a ∈ as, write a ≠ []) :
    many piece (as.flatMap write ++ rest) = (as.map value, rest) := by
  induction as with
  | nil => simpa using many_of_none stop
  | cons a as ih =>
    have ih := ih (fun b hb => each b (List.mem_cons_of_mem _ hb))
      fun b hb => ne b (List.mem_cons_of_mem _ hb)
    have step := each a List.mem_cons_self (as.flatMap write ++ rest)
    have pos : 0 < (write a).length := List.length_pos_iff.mpr (ne a List.mem_cons_self)
    rw [List.flatMap_cons, List.append_assoc, many_cons step (by simp; omega), ih]
    rfl

/-- What is left is no longer than what was there. -/
theorem length_many_le (piece : Reader α) (cs : List Char) :
    (many piece cs).2.length ≤ cs.length := by
  fun_induction many piece cs with
  | case1 => exact Nat.le_refl _
  | case2 cs a rest h shorter as after hmany ih => rw [hmany] at ih; exact Nat.le_trans ih (Nat.le_of_lt shorter)
  | case3 => exact Nat.le_refl _

end Reader

end Gatehouse
