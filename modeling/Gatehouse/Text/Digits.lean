/-!
# Digits

The values of digits in bases up to sixteen, and the numbers that digits spell.
-/

namespace Gatehouse.Digits

/-- The value of a digit, of either case, in a base of at most sixteen. -/
def value? (base : Nat) (c : Char) : Option Nat :=
  let n := c.toNat
  let value :=
    if 48 ≤ n ∧ n ≤ 57 then some (n - 48)
    else if 97 ≤ n ∧ n ≤ 102 then some (n - 87)
    else if 65 ≤ n ∧ n ≤ 70 then some (n - 55)
    else none
  value.filter (· < base)

/-- Take the longest run of digits: their values in order, and the rest. -/
def take (base : Nat) : List Char → List Nat × List Char
  | [] => ([], [])
  | c :: rest =>
    match value? base c with
    | none => ([], c :: rest)
    | some v => let (vs, after) := take base rest; (v :: vs, after)

/-- Take exactly so many digits. -/
def takeExactly (base : Nat) : (count : Nat) → List Char → Option (List Nat × List Char)
  | 0, cs => some ([], cs)
  | _ + 1, [] => none
  | count + 1, c :: rest => do
    let v ← value? base c
    let (vs, after) ← takeExactly base count rest
    pure (v :: vs, after)

/-- The number that digits spell, most significant first. -/
def toNat (base : Nat) (digits : List Nat) : Nat := digits.foldl (fun n d => n * base + d) 0

theorem toNat_append (base : Nat) (front back : List Nat) :
    toNat base (front ++ back) = toNat base front * Nat.pow base back.length + toNat base back := by
  have shift : ∀ (ds : List Nat) (n : Nat),
      ds.foldl (fun n d => n * base + d) n = n * Nat.pow base ds.length + toNat base ds := by
    intro ds
    induction ds with
    | nil => intro n; simp [toNat]
    | cons d ds ih =>
      intro n
      have hpow : Nat.pow base (ds.length + 1) = base * Nat.pow base ds.length :=
        Nat.mul_comm (Nat.pow base ds.length) base
      rw [toNat, List.foldl_cons, List.foldl_cons, ih, ih (0 * base + d), List.length_cons, hpow,
        Nat.add_mul, Nat.mul_assoc, Nat.zero_mul, Nat.zero_add, Nat.add_assoc]
  rw [toNat, List.foldl_append, shift]
  rfl

end Gatehouse.Digits
