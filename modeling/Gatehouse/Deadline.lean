import Gatehouse.Failure

/-!
# Deadlines

Work on a clock that counts milliseconds: it sleeps some number of times and then ends with a
result, or never ends.  A deadline is only asked when the work sleeps, so work that ends exactly at
the deadline has ended.  A deadline may be as far away as one likes, but nobody sleeps for longer than
`longestSleep` at a time.
-/

namespace Gatehouse

/-- Work that takes time. -/
structure Work (α : Type) where
  /-- The lengths of its sleeps, in milliseconds. -/
  sleeps : List Nat
  /-- What it ends with; none if it never ends. -/
  result : Option (Except Failure α)

/-- Has a timer that is due at `due` gone off? -/
def expired (now due : Nat) : Bool := due ≤ now

/-- The longest that anybody sleeps, in milliseconds: thirty years. -/
def longestSleep : Nat := 30 * 365 * 24 * 60 * 60 * 1000

namespace Work

/-- Work that goes to sleep `times` times, for `asked` milliseconds or as long as one can sleep, and
    then ends with a result. -/
def sleeping {α : Type} (times asked : Nat) (result : Except Failure α) : Work α :=
  ⟨List.replicate times (min asked longestSleep), some result⟩

/-- Sleeps that are short enough are as long as they were asked to be. -/
theorem sleeps_sleeping {α : Type} {times asked : Nat} {result : Except Failure α}
    (h : asked ≤ longestSleep) :
    (sleeping times asked result).sleeps = List.replicate times asked := by
  simp [sleeping, Nat.min_eq_left h]

/-- Work that never ends. -/
def endless {α : Type} : Work α := ⟨[], none⟩

/-- Go on with work until it ends or the deadline expires: what comes of it and when, if
    `elapsed` milliseconds have passed since the start. -/
def runUntil {α : Type} (deadline : Nat) (act : Act) (result : Option (Except Failure α)) :
    (elapsed : Nat) → (sleeps : List Nat) → Except Failure α × Nat
  | elapsed, [] =>
    match result with
    | some r => (r, elapsed)
    | none => (.error (.timeout act), deadline)
  | elapsed, sleep :: sleeps =>
    if elapsed + sleep ≤ deadline then runUntil deadline act result (elapsed + sleep) sleeps
    else (.error (.timeout act), deadline)

/-- Do the work within a deadline, or report that the act took too long. -/
def withDeadline {α : Type} (work : Work α) (deadline : Nat) (act : Act) : Except Failure α × Nat :=
  runUntil deadline act work.result 0 work.sleeps

end Work

end Gatehouse
