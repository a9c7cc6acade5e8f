import Gatehouse.Listener.State

/-!
# The steps of a listener

Every party takes small steps: from one point where it may have to wait to the next one.  A step
that finds nothing to do is none.  A run of the listener is any sequence of steps of its parties and
of events from outside, in any order; what a party does at its turn without a break is its steps one
after another until there is none.

At every point where a party may wait it looks at the shutdown first.
-/

namespace Gatehouse.Listener

variable (S : Suite)

/-! ## The accept loop -/

/-- The accept loop gives its token back. -/
def releaseLoopToken (l : Listener) : Listener :=
  { l with pool := l.pool.release 1 }.note .loopTokenReturned

/-- The accept loop returns. -/
def stopLoop (l : Listener) : Listener :=
  { l.closeSocket with loop := .stopped }.note .loopStopped

/-- A raw connection is taken: its handshake gets the token. -/
def spawnTask (l : Listener) (arrival : Arrival) : Listener :=
  let id := l.connections + 1
  { l with
    connections := id
    backoff := l.backoff.reset
    tasks := l.tasks.enter id ⟨arrival.stream, arrival.peer, .spawned⟩
    loop := .seeking }.note (.taken id arrival.stream)

/-- A raw connection could not be taken: the failure is submitted as an outcome. -/
def reportRefusal (l : Listener) (error : SystemError) : Listener :=
  let (pause, backoff, chance) := l.backoff.recordFailure l.chance
  let l := { l with
    backoff, chance
    tally := { l.tally with acceptErrors := l.tally.acceptErrors + 1 }
    loop := .reporting ((pause.length.getD 0).toNat) }
  let l := match pause.jitterRange with
    | some range => l.note (.jitter range)
    | none => l
  { l with handoff := l.handoff.submit loopProducer (.error (.accept error)) }.note (.refused error)

/-- The failure has been handed over, or nobody will take it: the token goes back, then comes the
    pause. -/
def startPause (l : Listener) (pause : Nat) : Listener :=
  let (timer, l) := l.releaseLoopToken.arm pause
  { l with loop := .pausing timer }

/-- A step of the accept loop. -/
def stepLoop (l : Listener) : Option Listener :=
  match l.loop with
  | .seeking =>
    if l.fired then some l.stopLoop
    else
      let pool := l.pool.ask .loop 1
      if pool.isMet .loop then some { l with pool := pool.collect .loop, loop := .listening }
      else some { l with pool, loop := .queued }
  | .queued =>
    if l.fired then some { l with pool := l.pool.withdraw .loop }.stopLoop
    else if l.pool.isMet .loop then
      some { l with pool := l.pool.collect .loop, loop := .listening }
    else none
  | .listening =>
    if l.fired then some l.releaseLoopToken.stopLoop
    else
      match l.socket.poll with
      | (.pending, _) => none
      | (.ready (.error e), socket) => some ({ l with socket }.reportRefusal e)
      | (.ready (.ok arrival), socket) => some ({ l with socket }.spawnTask arrival)
  | .reporting pause =>
    if l.handoff.producerRunnable loopProducer then
      match l.handoff.pollProducer loopProducer with
      | (.pending, handoff) => some { l with handoff }
      | (.ready _, handoff) => some ({ l with handoff }.startPause pause)
    else none
  | .pausing timer =>
    -- no token is held during the pause
    if l.fired then some l.stopLoop
    else if expired l.now timer.due then some { l with loop := .seeking }
    else none
  | .stopped => none

/-! ## The handshakes -/

/-- A handshake enters a state. -/
def enter (l : Listener) (id : Nat) (state : HandshakeState) : Listener :=
  l.note (.entered id state)

/-- A handshake goes on to its next phase. -/
def setPhase (l : Listener) (id : Nat) (task : HandshakeTask) (phase : Phase) : Listener :=
  { l with tasks := l.tasks.update id { task with phase } }

/-- A handshake's token comes back. -/
def releaseTaskToken (l : Listener) (id : Nat) : Listener :=
  { l with pool := l.pool.release 1 }.note (.tokenReturned id)

/-- A handshake is over, and its token comes back. -/
def endTask (l : Listener) (id : Nat) : Listener :=
  { l with tasks := l.tasks.erase id }.releaseTaskToken id

/-- The acts are over: the outcome is submitted. -/
def submitOutcome (l : Listener) (id : Nat) (task : HandshakeTask) (outcome : Outcome) : Listener :=
  ({ l with handoff := l.handoff.submit id outcome }.setPhase id task .reporting).note
    (.submitted id outcome)

/-- The acts failed: the stream is closed before anything else is done about it.  A handshake that
    the shutdown cut short has no outcome. -/
def failActs (l : Listener) (id : Nat) (task : HandshakeTask) (failure : Failure) : Listener :=
  let l := l.closeStream task.stream
  let l := { l with tally := l.tally.finish failure.label }
  let l := l.enter id .rejected
  match failure with
  | .closed => l.endTask id
  | failure => l.submitOutcome id task (.error failure)

/-- The acts succeeded. -/
def succeedActs (l : Listener) (id : Nat) (task : HandshakeTask) (machine : Machine)
    (remoteStatic : PublicKey) : Listener :=
  let l := { l with tally := l.tally.finish "secured" }
  let l := l.enter id .secured
  l.submitOutcome id task (.ok ⟨id, task.stream, task.peer, remoteStatic, machine⟩)

/-- The handshake begins, unless the listener is closing: then its connection is dropped without
    an outcome. -/
def beginActs (l : Listener) (id : Nat) (task : HandshakeTask) : Listener :=
  let l := l.enter id .init
  if l.fired then
    -- the stream is the last thing to go with the task, after its token
    let l := l.enter id .rejected
    (l.endTask id).closeStream task.stream
  else
    let l := { l with tally := l.tally.start }
    let l := l.enter id .awaitActOne
    let (timer, l) := l.arm l.settings.timeout
    l.setPhase id task (.readOne (Machine.responder S l.settings.identity) [] timer)

/-- Act one is there in full: act two is the answer, if the machine accepts it. -/
def takeActOne (l : Listener) (id : Nat) (task : HandshakeTask) (machine : Machine)
    (act : Octets keyActSize) : Listener :=
  match machine.receiveActOne S act with
  | (.error e, _) => l.failActs id task (.handshake e)
  | (.ok (), machine) =>
    let (ephemeral, chance) := l.chance.takeSecret
    match machine.sendActTwo S ephemeral with
    | (.error e, _) => { l with chance }.failActs id task (.handshake e)
    | (.ok answer, machine) => { l with chance }.setPhase id task (.writeTwo machine answer.bytes)

/-- Act three is there in full: the connection is secured, if the machine accepts it. -/
def takeActThree (l : Listener) (id : Nat) (task : HandshakeTask) (machine : Machine)
    (act : Octets staticActSize) : Listener :=
  match machine.receiveActThree S act with
  | (.error e, _) => l.failActs id task (.handshake e)
  | (.ok (), machine) =>
    match machine.remoteStatic with
    | none => l.failActs id task (.handshake (.invalidKey .three))
    | some remote => l.succeedActs id task machine remote

/-- Read on in an act of `size` bytes of which `got` are there: what comes next is up to `more` for
    an act that is not complete yet and up to `full` for one that is. -/
def readAct (l : Listener) (id : Nat) (task : HandshakeTask) (act : Act) (size : Nat) (got : Bytes)
    (timer : Timer) (more : Listener → Bytes → Listener) (full : Listener → Octets size → Listener) :
    Option Listener :=
  match l.wires.find? task.stream with
  | none => none
  | some wire =>
    let (found, inward) := wire.inward.read (size - got.length)
    let after := { l with wires := l.wires.update task.stream { wire with inward } }
    match found with
    | .bytes b =>
      match Octets.ofBytes? size (got ++ b) with
      | some complete => some (full after complete)
      | none => some (more after (got ++ b))
    | .fault e => some (after.failActs id task (Failure.ofRead act e))
    | .ended => some (after.failActs id task (Failure.ofRead act .earlyEnd))
    -- the deadline is only asked when there is nothing to read
    | .nothing => if expired l.now timer.due then some (l.failActs id task (.timeout act)) else none

/-- Write on in act two, of which `left` is left. -/
def writeActTwo (l : Listener) (id : Nat) (task : HandshakeTask) (machine : Machine) (left : Bytes) :
    Option Listener :=
  match l.wires.find? task.stream with
  | none => none
  | some wire =>
    let (result, outward) := wire.outward.write left
    let after := { l with wires := l.wires.update task.stream { wire with outward } }
    match result with
    | .pending => none
    | .ready (.error e) => some (after.failActs id task (.io .two e))
    | .ready (.ok []) => some (after.setPhase id task (.wroteTwo machine))
    | .ready (.ok rest) => some (after.setPhase id task (.writeTwo machine rest))

/-- Wait for act three, unless the shutdown has come in between. -/
def awaitActThree (l : Listener) (id : Nat) (task : HandshakeTask) (machine : Machine) : Listener :=
  if l.fired then l.failActs id task .closed
  else
    let (timer, l) := (l.enter id .awaitActThree).arm l.settings.timeout
    l.setPhase id task (.readThree machine [] timer)

/-- Hand the outcome over. -/
def reportOutcome (l : Listener) (id : Nat) : Option Listener :=
  if l.handoff.producerRunnable id then
    let held := l.handoff.producers.find? id
    match l.handoff.pollProducer id with
    | (.pending, handoff) => some { l with handoff }
    | (.ready true, handoff) => some ({ l with handoff }.endTask id)
    | (.ready false, handoff) =>
      let l := { l with handoff }
      let l := match held with
        | some outcome => l.dropOutcome outcome
        | none => l
      some (l.endTask id)
  else none

/-- A step of a handshake. -/
def stepTask (l : Listener) (id : Nat) : Option Listener :=
  match l.tasks.find? id with
  | none => none
  | some task =>
    match task.phase with
    | .spawned => some (l.beginActs S id task)
    | .readOne machine got timer =>
      if l.fired then some (l.failActs id task .closed)
      else
        l.readAct id task .one keyActSize got timer
          (fun l got => l.setPhase id task (.readOne machine got timer))
          (fun l act => l.takeActOne S id task machine act)
    | .writeTwo machine left =>
      if l.fired then some (l.failActs id task .closed) else l.writeActTwo id task machine left
    | .wroteTwo machine => some (l.awaitActThree id task machine)
    | .readThree machine got timer =>
      if l.fired then some (l.failActs id task .closed)
      else
        l.readAct id task .three staticActSize got timer
          (fun l got => l.setPhase id task (.readThree machine got timer))
          (fun l act => l.takeActThree S id task machine act)
    | .reporting => l.reportOutcome id

/-! ## Calls, and waiting for the listener to drain -/

/-- A call to `accept` comes. -/
def startCall (l : Listener) (call : Nat) : Listener :=
  { l with handoff := l.handoff.request call }

/-- A step of a call. -/
def stepCall (l : Listener) (call : Nat) : Option Listener :=
  if l.handoff.consumerRunnable call then
    let held := l.handoff.consumers.find? call
    match l.handoff.pollConsumer call with
    | (.pending, handoff) => some { l with handoff }
    | (.ready (some outcome), handoff) => some ({ l with handoff }.note (.answered call outcome))
    | (.ready none, handoff) =>
      let l := { l with handoff }
      let l := match held with
        | some (.filled outcome) => l.dropOutcome outcome
        | _ => l
      some (l.note (.answered call (.error .closed)))
  else none

/-- A call is given up. -/
def abandonCall (l : Listener) (call : Nat) : Listener :=
  let held := l.handoff.consumers.find? call
  let l := { l with handoff := l.handoff.abandonConsumer call }
  match held with
  | some (.filled outcome) => l.dropOutcome outcome
  | _ => l

/-- A party starts to wait for the listener to drain. -/
def startDrain (l : Listener) (id : Nat) : Listener :=
  { l with drains := l.drains.enter id .loopRuns }

/-- A step of a party that waits for the listener to drain: when the loop has returned it asks for
    all tokens, and when it has got them it gives them back. -/
def stepDrain (l : Listener) (id : Nat) : Option Listener :=
  match l.drains.find? id with
  | some .loopRuns =>
    if l.loop = .stopped then
      some { l with pool := l.pool.ask (.drain id) l.drainNeed
                    drains := l.drains.update id .claiming }
    else none
  | some .claiming =>
    if l.pool.isMet (.drain id) then
      some ({ l with pool := (l.pool.collect (.drain id)).release l.drainNeed
                     drains := l.drains.update id .done }.note (.drained id))
    else none
  | _ => none

/-- A party gives up waiting for the listener to drain. -/
def abandonDrain (l : Listener) (id : Nat) : Listener :=
  { l with pool := l.pool.withdraw (.drain id), drains := l.drains.erase id }

/-! ## Runs -/

/-- The parties that take steps of their own. -/
inductive Party
  | loop
  | task (connection : Nat)
  | call (call : Nat)
  | drain (id : Nat)
deriving DecidableEq, Repr

/-- A step of a party. -/
def stepParty (l : Listener) : Party → Option Listener
  | .loop => l.stepLoop
  | .task id => l.stepTask S id
  | .call id => l.stepCall id
  | .drain id => l.stepDrain id

/-- Is there a step for a party to take? -/
def runnable (l : Listener) (p : Party) : Bool := (l.stepParty S p).isSome

/-- The parties that are there. -/
def parties (l : Listener) : List Party :=
  l.handoff.consumers.ids.map .call ++ l.tasks.ids.map .task ++ [.loop] ++ l.drains.ids.map .drain

/-- A party takes steps until there is none, at most `fuel` of them. -/
def turn : (fuel : Nat) → Party → Listener → Listener
  | 0, _, l => l
  | fuel + 1, p, l =>
    match l.stepParty S p with
    | none => l
    | some l => turn fuel p l

/-- What comes from outside, and steps of the parties. -/
inductive Event
  /-- A party's step, if it has one. -/
  | step (party : Party)
  /-- A call to `accept` comes. -/
  | startCall (call : Nat)
  /-- A call is given up. -/
  | abandonCall (call : Nat)
  /-- A party starts to wait for the listener to drain. -/
  | startDrain (id : Nat)
  /-- A party gives up waiting for the listener to drain. -/
  | abandonDrain (id : Nat)
  /-- The first half of `close`: the shutdown is fired. -/
  | trigger
  /-- The second half of `close`: the socket is closed. -/
  | closeSocket
  /-- The listening socket will answer this. -/
  | arrive (answer : Except SystemError Arrival)
  /-- A stream comes into being. -/
  | newStream (stream : Nat)
  /-- Whatever the network and the peer do to a stream. -/
  | wire (stream : Nat) (change : Wire.Change)
  /-- Time passes. -/
  | advance (milliseconds : Nat)
  /-- The random choices to come are set. -/
  | chance (chance : Chance)

/-- The listener after an event. -/
def apply (l : Listener) : Event → Listener
  | .step p => (l.stepParty S p).getD l
  | .startCall id => l.startCall id
  | .abandonCall id => l.abandonCall id
  | .startDrain id => l.startDrain id
  | .abandonDrain id => l.abandonDrain id
  | .trigger => l.trigger
  | .closeSocket => l.closeSocket
  | .arrive answer => { l with socket := l.socket.push answer }
  | .newStream stream => { l with wires := l.wires.enter stream {} }
  | .wire stream change => l.onWire stream (·.change change)
  | .advance ms => { l with now := l.now + ms }
  | .chance chance => { l with chance }

/-- The listener after a list of events. -/
def run (l : Listener) (events : List Event) : Listener := events.foldl (fun l e => l.apply S e) l

end Gatehouse.Listener
