/-!
# The shutdown signal

One signal that is fired at most once and stays fired, seen through any number of handles.  Waiters
come from handles, but live on when their handle is dropped: a waiter holds the signal by itself.
-/

namespace Gatehouse

/-- The signal with its handles and waiters, each numbered in the order of their making. -/
structure Shutdown where
  /-- Has it been fired? -/
  fired : Bool
  /-- For every handle: is it still there? -/
  handles : List Bool
  /-- For every waiter: is it still waiting? -/
  waiters : List Bool
deriving DecidableEq, Repr

namespace Shutdown

/-- What can be done with handles and waiters. -/
inductive Operation
  /-- Fire the signal. -/
  | trigger (handle : Nat)
  /-- Ask whether it has been fired. -/
  | check (handle : Nat)
  /-- Make another handle. -/
  | clone (handle : Nat)
  /-- Make a waiter. -/
  | wait (handle : Nat)
  /-- Ask a waiter whether it is done. -/
  | poll (waiter : Nat)
  /-- Drop a handle. -/
  | drop (handle : Nat)
  /-- Drop a waiter. -/
  | abandon (waiter : Nat)
deriving DecidableEq, Repr

/-- What an operation answers. -/
inductive Reply
  /-- The handle or the waiter was dropped before, or the waiter is done. -/
  | gone
  /-- Yes or no. -/
  | flag (value : Bool)
  /-- The number of a new handle. -/
  | handle (index : Nat)
  /-- The number of a new waiter. -/
  | waiter (index : Nat)
  /-- The waiter is done now. -/
  | ready
  /-- The waiter is not done. -/
  | pending
  /-- The handle or the waiter is dropped. -/
  | dropped
deriving DecidableEq, Repr

/-- A fresh signal with one handle. -/
def fresh : Shutdown := ⟨false, [true], []⟩

/-- Is there anybody left who holds the signal? -/
def isHeld (s : Shutdown) : Bool := s.handles.any id || s.waiters.any id

/-- Does a waiter that looks find its wait at an end?  It does once the signal has been fired, and
    it would if nobody held the signal any more. -/
def endsWait (s : Shutdown) : Bool := s.fired || !s.isHeld

/-- Answer an operation on a handle that is still there. -/
def onHandle (s : Shutdown) (handle : Nat) (answer : Reply × Shutdown) : Reply × Shutdown :=
  if s.handles.getD handle false then answer else (.gone, s)

/-- Answer an operation on a waiter that is still waiting. -/
def onWaiter (s : Shutdown) (waiter : Nat) (answer : Reply × Shutdown) : Reply × Shutdown :=
  if s.waiters.getD waiter false then answer else (.gone, s)

/-- Let go of a waiter. -/
def withoutWaiter (s : Shutdown) (waiter : Nat) : Shutdown :=
  { s with waiters := s.waiters.set waiter false }

/-- Carry out an operation. -/
def step (s : Shutdown) : Operation → Reply × Shutdown
  | .trigger h => s.onHandle h (.flag (!s.fired), { s with fired := true })
  | .check h => s.onHandle h (.flag s.fired, s)
  | .clone h => s.onHandle h (.handle s.handles.length, { s with handles := s.handles ++ [true] })
  | .wait h => s.onHandle h (.waiter s.waiters.length, { s with waiters := s.waiters ++ [true] })
  | .drop h => s.onHandle h (.dropped, { s with handles := s.handles.set h false })
  | .poll w => s.onWaiter w (if s.endsWait then (.ready, s.withoutWaiter w) else (.pending, s))
  | .abandon w => s.onWaiter w (.dropped, s.withoutWaiter w)

/-- The answers to a list of operations, and the signal after them. -/
def run (s : Shutdown) : List Operation → List Reply × Shutdown
  | [] => ([], s)
  | op :: ops =>
    let (reply, s₁) := s.step op
    let (replies, s₂) := s₁.run ops
    (reply :: replies, s₂)

end Shutdown

end Gatehouse
