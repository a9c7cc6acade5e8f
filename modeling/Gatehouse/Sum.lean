/-!
# Sums

The sum of a list of counts.
-/

namespace Gatehouse

/-- All counts together. -/
def sumOf (ns : List Nat) : Nat := ns.foldr (· + ·) 0

@[simp] theorem sumOf_nil : sumOf [] = 0 := rfl

@[simp] theorem sumOf_cons (n : Nat) (ns : List Nat) : sumOf (n :: ns) = n + sumOf ns := rfl

@[simp] theorem sumOf_append (ns ms : List Nat) : sumOf (ns ++ ms) = sumOf ns + sumOf ms := by
  induction ns with
  | nil => simp
  | cons n ns ih =>
    rw [List.cons_append, sumOf_cons, sumOf_cons, ih]
    omega

end Gatehouse
