import Gatehouse.Listener.Step

/-!
# Sessions: the schedule

A listener on a clock that is moved by hand.  Parties take their turns in the order in which there
came to be something for them to do.  Streams and the clock are looked at only when nobody has
anything to do any more: the handshakes on whose streams something has happened come first, in that
order, and then the parties whose timers have gone off, in the order in which they were due.
-/

namespace Gatehouse

/-- The far end of a connection. -/
structure Session.Peer where
  /-- Its side of the handshake, once it has begun one. -/
  machine : Option Machine := none
  /-- Has it hung up? -/
  hungUp : Bool := false

/-- What stands in the queue of a session. -/
inductive Session.Job
  /-- A party's turn. -/
  | turn (party : Listener.Party)
  /-- The listener is closed. -/
  | close
deriving DecidableEq, Repr

/-- A listener, its peers and the calls made on it. -/
structure Session where
  listener : Listener
  /-- What is to be done, the first to come first. -/
  queue : List Session.Job := []
  /-- The streams on which something has happened since they were looked at, in that order. -/
  stirred : List Nat := []
  /-- The streams on which there was something to read when they were looked at, and that have not
      been found empty since. -/
  noticed : List Nat := []
  /-- What the time was when the clock was looked at. -/
  looked : Nat := 0
  /-- The peers in the order in which they connected; a peer's number is that of its stream. -/
  peers : List Session.Peer := []
  /-- How many calls to `accept` have been made. -/
  calls : Nat := 0
  /-- Calls that are to be given up when their turn comes. -/
  givenUp : List Nat := []
  /-- The connections that calls have been answered with and that are still held. -/
  held : Roster SecuredConnection := []
  /-- Streams on whose arrival the listener is closed. -/
  closeOn : List Nat := []
  /-- How many times somebody has begun to wait for the listener to drain. -/
  waits : Nat := 0
  /-- Has the owner dropped the listener? -/
  dropped : Bool := false

namespace Session

variable (S : Suite)

/-- More steps than the parties can take without the clock moving. -/
def budget (l : Listener) : Nat :=
  64 + 32 * (l.tasks.length + l.socket.waiting.length + l.handoff.consumers.length
      + l.handoff.slots.length + l.drains.length + (l.socket.raw.getD []).length)
    + sumOf (l.wires.map fun w => w.2.inward.unread.length)

/-! ## The queue -/

/-- Has a party something to do that neither a stream nor the clock has to tell it? -/
def isCalledUpon (l : Listener) : Listener.Party → Bool
  | .loop =>
    match l.loop with
    | .pausing _ => l.fired
    | _ => l.runnable S .loop
  | .task id =>
    match l.tasks.find? id with
    | none => false
    | some task =>
      match task.phase with
      | .spawned => true
      | phase => if phase.awaited?.isSome then l.fired else l.runnable S (.task id)
  | party => l.runnable S party

/-- Parties that have come to have something to do join the end of the queue, except the one whose
    turn it is. -/
def refresh (current : Option Listener.Party) (s : Session) : Session :=
  let fresh := s.listener.parties.filter fun p =>
    some p != current && !s.queue.contains (.turn p) && isCalledUpon S s.listener p
  { s with queue := s.queue ++ fresh.map .turn }

/-- If the connection that was taken last asks for it, the listener is closed before that
    connection's handshake has its first turn. -/
def closeIfAsked (s : Session) : Session :=
  match s.listener.log with
  | .taken _ stream :: _ =>
    if s.closeOn.contains stream then
      { s with queue := s.queue ++ [.close], closeOn := s.closeOn.filter (· != stream) }
    else s
  | _ => s

/-! ## Turns -/

/-- Is there something to read on a stream? -/
def isReadable (s : Session) (stream : Nat) : Bool :=
  ((s.listener.wires.find? stream).map (·.inward.isReadable)).getD false

/-- A step of a handshake.  What has come in since its stream was looked at is not there for it yet,
    and its timer has gone off only if the clock was looked at since. -/
def stepTask (s : Session) (id : Nat) : Option Listener :=
  match s.listener.tasks.find? id with
  | none => none
  | some task =>
    match task.phase.awaited? with
    | none => s.listener.stepTask S id
    | some (act, timer) =>
      if s.listener.fired || (s.noticed.contains task.stream && s.isReadable task.stream) then
        s.listener.stepTask S id
      else if expired s.looked timer.due then some (s.listener.failActs id task (.timeout act))
      else none

/-- A step of a party, if it has one. -/
def stepParty (s : Session) : Listener.Party → Option Listener
  | .loop =>
    match s.listener.loop with
    | .pausing timer =>
      if s.listener.fired || expired s.looked timer.due then s.listener.stepLoop else none
    | _ => s.listener.stepLoop
  | .task id => s.stepTask S id
  | .call call =>
    if s.givenUp.contains call then
      if (s.listener.handoff.consumers.find? call).isSome then some (s.listener.abandonCall call)
      else none
    else s.listener.stepCall call
  | .drain id => s.listener.stepDrain id

/-- A handshake that still waits for an act at the end of its turn has found its stream empty. -/
def endTurn (s : Session) : Listener.Party → Session
  | .task id =>
    match s.listener.tasks.find? id with
    | none => s
    | some task =>
      if task.phase.awaited?.isSome then
        { s with noticed := s.noticed.filter (· != task.stream) }
      else s
  | _ => s

/-- A party's turn: it takes steps until there is none. -/
def turn (fuel : Nat) (p : Listener.Party) (s : Session) : Session :=
  match fuel with
  | 0 => s.endTurn p
  | fuel + 1 =>
    match s.stepParty S p with
    | none => s.endTurn p
    | some listener => turn fuel p ({ s with listener }.closeIfAsked.refresh S (some p))

/-- Do one thing. -/
def performJob (s : Session) : Job → Session
  | .turn p => s.turn S (budget s.listener) p
  | .close => { s with listener := s.listener.close }.refresh S none

/-- Do what stands in the queue, and what comes to stand in it meanwhile. -/
def work (fuel : Nat) (s : Session) : Session :=
  match fuel with
  | 0 => s
  | fuel + 1 =>
    match s.queue with
    | [] => s
    | job :: queue => work fuel ({ s with queue }.performJob S job)

/-! ## Streams and the clock -/

/-- The timers of the parties. -/
def timers (l : Listener) : List (Timer × Listener.Party) :=
  let ofLoop := match l.loop with
    | .pausing timer => [(timer, .loop)]
    | _ => []
  ofLoop ++ l.tasks.filterMap fun (id, task) =>
    task.phase.awaited?.map fun (_, timer) => (timer, .task id)

/-- Does one timer go off before another? -/
def Timer.before (a b : Timer) : Bool := a.due < b.due || (a.due == b.due && a.armed ≤ b.armed)

/-- The parties whose timers have gone off.  Timers of one instant go off in the order in which they
    were armed. -/
def due (l : Listener) : List Listener.Party :=
  (((timers l).filter fun t => expired l.now t.1.due).mergeSort
    fun a b => Timer.before a.1 b.1).map (·.2)

/-- The handshakes that wait for an act on a stream. -/
def readers (l : Listener) (stream : Nat) : List Listener.Party :=
  l.tasks.filterMap fun (id, task) =>
    if task.stream = stream ∧ task.phase.awaited?.isSome then some (.task id) else none

/-- Something has happened on a stream. -/
def stir (s : Session) (stream : Nat) : Session :=
  if s.stirred.contains stream then s else { s with stirred := s.stirred ++ [stream] }

/-- The streams and then the clock are looked at. -/
def look (s : Session) : Session :=
  let l := s.listener
  let streams := s.stirred ++ (l.tasks.map (·.2.stream)).filter (!s.stirred.contains ·)
  let readable := streams.filter s.isReadable
  let woken := (readable.flatMap (readers l) ++ due l).eraseDups.map Job.turn
  { s with
    stirred := []
    noticed := s.noticed ++ readable.filter (!s.noticed.contains ·)
    looked := l.now
    queue := s.queue ++ woken.filter (!s.queue.contains ·) }

/-- Parties take turns until nobody has anything to do. -/
def settleWithin (fuel : Nat) (s : Session) : Session :=
  match fuel with
  | 0 => s
  | fuel + 1 =>
    let s := (s.work S (budget s.listener)).look
    if s.queue.isEmpty then s else settleWithin fuel s

/-- All that can be done without the clock moving is done. -/
def settle (s : Session) : Session := (s.refresh S none).settleWithin S (budget s.listener)

/-- The clock jumps.  What stood in the queue is done before anybody looks at it. -/
def advance (s : Session) (milliseconds : Nat) : Session :=
  let s := { s with listener := { s.listener with now := s.listener.now + milliseconds } }
  (s.work S (budget s.listener)).look

end Session

end Gatehouse
