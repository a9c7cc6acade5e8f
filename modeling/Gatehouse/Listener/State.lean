import Gatehouse.Address.Socket
import Gatehouse.Backoff
import Gatehouse.Deadline
import Gatehouse.Handoff
import Gatehouse.Listener.SocketSlot
import Gatehouse.Listener.TokenPool
import Gatehouse.Listener.Wire
import Gatehouse.SecuredConnection

/-!
# The state of a listener

A listener takes raw connections, runs the responder's side of the handshake on each of them and
hands over those that succeed.  Its state holds everything that its parties share: the accept loop,
a task for every handshake that runs, the calls that wait for an outcome, the parties that wait for
it to drain, the token pool, the connections themselves, and the clock.
-/

namespace Gatehouse

/-- What comes of one raw connection, or of one failure to take one. -/
abbrev Outcome := Except Failure SecuredConnection

/-- What a listener is set up with. -/
structure ListenerSettings where
  identity : Identity
  /-- How many handshakes may run at a time. -/
  capacity : Nat
  /-- How long each act may take to arrive, in milliseconds. -/
  timeout : Nat
  address : SocketAddress

/-- Why a capacity is refused. -/
def capacityError : SystemError :=
  .custom .invalidInput ("max_handshakes must be between 1 and " ++ Nat.repr maxCapacity)

/-- Is a capacity within bounds? -/
def checkCapacity (capacity : Nat) : Except Failure Unit :=
  if capacity = 0 ∨ maxCapacity < capacity then .error (.bind capacityError) else .ok ()

/-- The states of a handshake that are worth a line in a log. -/
inductive HandshakeState
  | init
  | awaitActOne
  | awaitActThree
  | secured
  | rejected
deriving DecidableEq, Repr

/-- The name of a state of a handshake. -/
def HandshakeState.name : HandshakeState → String
  | .init => "Init"
  | .awaitActOne => "AwaitActOne"
  | .awaitActThree => "AwaitActThree"
  | .secured => "Secured"
  | .rejected => "Rejected"

/-- A timer. -/
structure Timer where
  /-- When it goes off. -/
  due : Nat
  /-- Its number in the order in which timers were armed. -/
  armed : Nat
deriving DecidableEq, Repr

/-- How far a handshake has come. -/
inductive Phase
  /-- Its task has not run yet. -/
  | spawned
  /-- Reading act one. -/
  | readOne (machine : Machine) (got : Bytes) (timer : Timer)
  /-- Writing act two: these bytes are left. -/
  | writeTwo (machine : Machine) (left : Bytes)
  /-- Act two is written. -/
  | wroteTwo (machine : Machine)
  /-- Reading act three. -/
  | readThree (machine : Machine) (got : Bytes) (timer : Timer)
  /-- The acts are over: the outcome waits to be handed over. -/
  | reporting
deriving DecidableEq

/-- The act that is being read, with the timer of its deadline. -/
def Phase.awaited? : Phase → Option (Act × Timer)
  | .readOne _ _ timer => some (.one, timer)
  | .readThree _ _ timer => some (.three, timer)
  | _ => none

/-- A handshake that runs.  It holds a token from the moment it is there. -/
structure HandshakeTask where
  stream : Nat
  peer : SocketAddress
  phase : Phase
deriving DecidableEq

/-- A raw connection as it comes out of the listening socket. -/
structure Arrival where
  stream : Nat
  peer : SocketAddress
deriving DecidableEq

/-- What the accept loop is doing. -/
inductive LoopPhase
  /-- About to ask for a token. -/
  | seeking
  /-- Waiting for a token. -/
  | queued
  /-- Waiting for a raw connection, with a token in hand. -/
  | listening
  /-- Handing over a failure, with a token in hand; the pause after it is decided on. -/
  | reporting (pause : Nat)
  /-- Pausing after a failure. -/
  | pausing (timer : Timer)
  /-- Returned. -/
  | stopped
deriving DecidableEq

/-- How far a party that waits for the listener to drain has come. -/
inductive DrainPhase
  /-- Waiting for the accept loop to return. -/
  | loopRuns
  /-- Waiting for all tokens. -/
  | claiming
  /-- Done. -/
  | done
deriving DecidableEq, Repr

/-- The numbers that are kept for monitoring. -/
structure Tally where
  /-- Handshakes that run. -/
  inFlight : Int := 0
  /-- Handshakes that are over, by the label of how they ended. -/
  finished : List (String × Nat) := []
  /-- Raw connections that could not be taken. -/
  acceptErrors : Nat := 0
deriving DecidableEq, Repr

namespace Tally

/-- A handshake starts. -/
def start (t : Tally) : Tally := { t with inFlight := t.inFlight + 1 }

/-- One more under a label. -/
def bump (label : String) : List (String × Nat) → List (String × Nat)
  | [] => [(label, 1)]
  | (l, n) :: rest => if l = label then (l, n + 1) :: rest else (l, n) :: bump label rest

/-- A handshake is over. -/
def finish (t : Tally) (label : String) : Tally :=
  { t with inFlight := t.inFlight - 1, finished := bump label t.finished }

/-- How many handshakes are over. -/
def total (t : Tally) : Nat := sumOf (t.finished.map (·.2))

end Tally

/-- Something that happens in a listener. -/
inductive Happening
  /-- A raw connection was taken from the socket. -/
  | taken (connection stream : Nat)
  /-- A raw connection could not be taken. -/
  | refused (error : SystemError)
  /-- A bound for jitter was drawn below. -/
  | jitter (range : UInt64)
  /-- A handshake entered a state. -/
  | entered (connection : Nat) (state : HandshakeState)
  /-- A handshake's outcome was submitted. -/
  | submitted (connection : Nat) (outcome : Outcome)
  /-- The gate's end of a stream was closed. -/
  | streamClosed (stream : Nat)
  /-- A handshake's token came back. -/
  | tokenReturned (connection : Nat)
  /-- The accept loop's token came back. -/
  | loopTokenReturned
  /-- A call was answered. -/
  | answered (call : Nat) (outcome : Outcome)
  /-- The listening socket was closed. -/
  | socketClosed
  /-- The accept loop returned. -/
  | loopStopped
  /-- A party that waited for the listener to drain is done. -/
  | drained (id : Nat)

/-- A listener with all that goes on in it. -/
structure Listener where
  settings : ListenerSettings
  /-- The clock, in milliseconds. -/
  now : Nat := 0
  /-- How many timers have been armed. -/
  armed : Nat := 0
  /-- The random choices to come. -/
  chance : Chance := {}
  pool : TokenPool
  socket : SocketSlot Arrival
  /-- The streams of all connections, those that wait in the socket included. -/
  wires : Roster Wire := []
  /-- How many raw connections have been taken. -/
  connections : Nat := 0
  loop : LoopPhase := .seeking
  backoff : Backoff := Backoff.standard
  /-- The handshakes that run, by the number of their connection. -/
  tasks : Roster HandshakeTask := []
  /-- The accept loop is producer zero, the handshakes are producers by their own numbers. -/
  handoff : Handoff Outcome := {}
  drains : Roster DrainPhase := []
  tally : Tally := {}
  /-- All that has happened, the latest first. -/
  log : List Happening := []

namespace Listener

/-- A listener on a socket that is bound, or why there is none. -/
def ofRaw (identity : Identity) (capacity timeout : Nat) (address : Except SystemError SocketAddress) :
    Except Failure Listener :=
  match checkCapacity capacity with
  | .error e => .error e
  | .ok () =>
    match address with
    | .error e => .error (.bind e)
    | .ok address =>
      .ok { settings := { identity, capacity, timeout, address }
            pool := { available := capacity }
            socket := ⟨some []⟩ }

/-- Has the shutdown been fired? -/
def fired (l : Listener) : Bool := l.handoff.fired

/-- Add to the log. -/
def note (l : Listener) (h : Happening) : Listener := { l with log := h :: l.log }

/-- The number of the accept loop among the producers. -/
def loopProducer : Nat := 0

/-- Arm a timer that goes off in so many milliseconds. -/
def arm (l : Listener) (wait : Nat) : Timer × Listener :=
  (⟨l.now + wait, l.armed⟩, { l with armed := l.armed + 1 })

/-- Do something with a stream. -/
def onWire (l : Listener) (stream : Nat) (f : Wire → Wire) : Listener :=
  match l.wires.find? stream with
  | none => l
  | some w => { l with wires := l.wires.update stream (f w) }

/-- Hang up on a stream. -/
def closeStream (l : Listener) (stream : Nat) : Listener :=
  (l.onWire stream Wire.closeGate).note (.streamClosed stream)

/-- Drop an outcome; its stream, if it has one, is closed by that. -/
def dropOutcome (l : Listener) : Outcome → Listener
  | .ok connection => l.closeStream connection.stream
  | .error _ => l

/-- Fire the shutdown. -/
def trigger (l : Listener) : Listener := { l with handoff := l.handoff.shut }

/-- Close the listening socket, and with it the raw connections that wait in it. -/
def closeSocket (l : Listener) : Listener :=
  match l.socket.close with
  | (false, _) => l
  | (true, socket) =>
    let l := l.socket.waiting.foldl (fun l arrival => l.closeStream arrival.stream) l
    { l with socket }.note .socketClosed

/-- Close the listener. -/
def close (l : Listener) : Listener := l.trigger.closeSocket

/-- How many tokens a party asks for that waits for all of them. -/
def drainNeed (l : Listener) : Nat := min l.settings.capacity TokenPool.largestClaim

/-- The tokens that nobody holds. -/
def availableTokens (l : Listener) : Nat := l.pool.available

end Listener

end Gatehouse
