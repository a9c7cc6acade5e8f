/-!
# Polls

The answer of something that may not be done yet.
-/

namespace Gatehouse

/-- What a poll finds. -/
inductive Poll (α : Type)
  /-- Not done yet. -/
  | pending
  /-- Done, with this result. -/
  | ready (value : α)
deriving DecidableEq, Repr

end Gatehouse
