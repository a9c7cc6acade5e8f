import Gatehouse.Poll
import Gatehouse.SystemError

/-!
# The socket slot

The listening socket is held in a slot that can be emptied, so that it is closed before `close`
returns.  The socket itself is known by what it will answer to polls, one after another.
-/

namespace Gatehouse

/-- What a listening socket answers to its next polls: nothing yet, a connection, or a failure.
    After the last one it has nothing yet for ever. -/
abbrev RawSocket (α : Type) := List (Poll (Except SystemError α))

/-- A slot that holds a listening socket until it is emptied. -/
structure SocketSlot (α : Type) where
  raw : Option (RawSocket α)

namespace SocketSlot

variable {α : Type}

/-- What is made up for a socket that is there no more. -/
def closedError : SystemError := .custom .notConnected "listener closed"

/-- Is the socket still there? -/
def isOpen (s : SocketSlot α) : Bool := s.raw.isSome

/-- Poll the socket. -/
def poll (s : SocketSlot α) : Poll (Except SystemError α) × SocketSlot α :=
  match s.raw with
  | none => (.ready (.error closedError), s)
  | some [] => (.pending, s)
  | some (answer :: answers) => (answer, ⟨some answers⟩)

/-- Close the socket: did this call do it? -/
def close (s : SocketSlot α) : Bool × SocketSlot α := (s.raw.isSome, ⟨none⟩)

/-- Something more that the socket will answer.  A closed socket answers nothing. -/
def push (s : SocketSlot α) (answer : Except SystemError α) : SocketSlot α :=
  ⟨s.raw.map (· ++ [.ready answer])⟩

/-- The connections that wait in the socket. -/
def waiting (s : SocketSlot α) : List α :=
  (s.raw.getD []).filterMap fun
    | .ready (.ok a) => some a
    | _ => none

@[simp] theorem isOpen_close (s : SocketSlot α) : s.close.2.isOpen = false := rfl

/-- Only closing empties the slot. -/
@[simp] theorem isOpen_poll (s : SocketSlot α) : s.poll.2.isOpen = s.isOpen := by
  obtain ⟨raw⟩ := s
  match raw with
  | none => rfl
  | some [] => rfl
  | some (_ :: _) => rfl

@[simp] theorem isOpen_push (s : SocketSlot α) (answer : Except SystemError α) :
    (s.push answer).isOpen = s.isOpen := by
  simp [isOpen, push]

end SocketSlot

end Gatehouse
