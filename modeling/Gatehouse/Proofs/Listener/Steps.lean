import Gatehouse.Listener.Step

/-!
# The steps of a listener's parties

What a step of the accept loop or of a handshake can do is said once, as one constructor for each
way that it can go (`LoopStepped`, `TaskStepped`).  A step of a handshake goes by what the handshake
finds at its turn (`sight`): bytes, room to write, a fault, the shutdown.

Much of what a step does is beside the point for most properties: streams, timers, the clock, lines
in the log.  The rest is the `core` of a listener, and lemmas say which operations leave it as it is.
-/

namespace Gatehouse

/-- Is this a line in the log only, with no change of hands in it? -/
def Happening.isPassing : Happening → Bool
  | .jitter _ | .entered _ _ | .streamClosed _ | .socketClosed => true
  | _ => false

/-- Has a handshake begun on the acts, and not come to their end? -/
def Phase.inActs : Phase → Bool
  | .spawned | .reporting => false
  | _ => true

/-- Is this a fault of a stream: reading or writing failed, or an act did not come in time? -/
def Failure.isFault : Failure → Bool
  | .timeout _ | .shortRead _ | .io _ _ => true
  | _ => false

namespace Listener

/-! ## Opening -/

/-- Of a listener that has just been opened nothing is there but the socket and the tokens. -/
theorem eq_of_opened {identity : Identity} {capacity timeout : Nat}
    {address : Except SystemError SocketAddress} {l : Listener}
    (opened : ofRaw identity capacity timeout address = .ok l) :
    checkCapacity capacity = .ok () ∧ ∃ bound, address = .ok bound ∧
      l = { settings := { identity, capacity, timeout, address := bound }
            pool := { available := capacity }
            socket := ⟨some []⟩ } := by
  unfold ofRaw at opened
  split at opened
  · cases opened
  · rename_i accepted
    split at opened
    · cases opened
    · cases opened
      exact ⟨accepted, _, rfl, rfl⟩

/-! ## The core -/

/-- What parties own and owe: all of a listener but its streams, its socket, the clock, chance and
    the counters. -/
structure Core where
  settings : ListenerSettings
  pool : TokenPool
  connections : Nat
  loop : LoopPhase
  tasks : Roster HandshakeTask
  handoff : Handoff Outcome
  drains : Roster DrainPhase
  /-- The log without the lines that only pass. -/
  record : List Happening

/-- The core of a listener. -/
def core (l : Listener) : Core where
  settings := l.settings
  pool := l.pool
  connections := l.connections
  loop := l.loop
  tasks := l.tasks
  handoff := l.handoff
  drains := l.drains
  record := l.log.filter (!·.isPassing)

/-- What does not look at passing lines can be read off the record. -/
theorem filterMap_record {β : Type} {f : Happening → Option β}
    (blind : ∀ h : Happening, h.isPassing = true → f h = none) (l : Listener) :
    l.core.record.filterMap f = l.log.filterMap f := by
  rw [core, List.filterMap_filter]
  congr 1
  funext h
  cases passing : h.isPassing with
  | true => exact (blind h passing).symm
  | false => rfl

theorem countP_record {p : Happening → Bool} (blind : ∀ h : Happening, h.isPassing = true → p h = false)
    (l : Listener) : l.core.record.countP p = l.log.countP p := by
  rw [core, List.countP_filter]
  congr 1
  funext h
  cases passing : h.isPassing with
  | true => simp [blind h passing]
  | false => simp

@[simp] theorem core_onWire (l : Listener) (stream : Nat) (f : Wire → Wire) :
    (l.onWire stream f).core = l.core := by
  unfold onWire
  split
  · rfl
  · rfl

@[simp] theorem core_closeStream (l : Listener) (stream : Nat) :
    (l.closeStream stream).core = l.core := by
  show (l.onWire stream Wire.closeGate).core = l.core
  exact core_onWire l stream _

@[simp] theorem core_dropOutcome (l : Listener) (outcome : Outcome) :
    (l.dropOutcome outcome).core = l.core := by
  cases outcome with
  | ok connection => exact core_closeStream l connection.stream
  | error _ => rfl

@[simp] theorem core_closeSocket (l : Listener) : l.closeSocket.core = l.core := by
  have hstreams : ∀ (arrivals : List Arrival) (l : Listener),
      (arrivals.foldl (fun l arrival => l.closeStream arrival.stream) l).core = l.core := by
    intro arrivals
    induction arrivals with
    | nil => exact fun _ => rfl
    | cons arrival arrivals ih =>
      intro l
      rw [List.foldl_cons, ih, core_closeStream]
  unfold closeSocket
  split
  · rfl
  · exact hstreams _ l

/-! ## The end of the acts -/

theorem find?_setPhase {l : Listener} {id : Nat} {task : HandshakeTask}
    (held : l.tasks.find? id = some task) (phase : Phase) :
    (l.setPhase id task phase).tasks.find? id = some { task with phase } := by
  show (l.tasks.update id { task with phase }).find? id = _
  rw [Roster.find?_update, if_pos rfl, held]
  rfl

theorem find?_endTask (l : Listener) (id : Nat) : (l.endTask id).tasks.find? id = none := by
  show (l.tasks.erase id).find? id = none
  rw [Roster.find?_erase, if_pos rfl]

/-- A listener at which a handshake's acts have failed: their stream is hung up, and the failure is
    counted and on record. -/
def rejectActs (l : Listener) (id : Nat) (task : HandshakeTask) (failure : Failure) : Listener :=
  { l.closeStream task.stream with
    tally := (l.closeStream task.stream).tally.finish failure.label }.enter id .rejected

@[simp] theorem core_rejectActs (l : Listener) (id : Nat) (task : HandshakeTask)
    (failure : Failure) : (l.rejectActs id task failure).core = l.core :=
  core_closeStream l task.stream

/-- If the shutdown has cut the acts off the handshake ends, else it has the failure to hand
    over. -/
theorem failActs_cases (l : Listener) (id : Nat) (task : HandshakeTask) (failure : Failure) :
    (failure = .closed ∧
      l.failActs id task failure = (l.rejectActs id task failure).endTask id) ∨
    (failure ≠ .closed ∧ l.failActs id task failure =
      (l.rejectActs id task failure).submitOutcome id task (.error failure)) := by
  cases failure with
  | closed => exact .inl ⟨rfl, rfl⟩
  | _ => exact .inr ⟨Failure.noConfusion, rfl⟩

/-- A listener at which a handshake's acts have come to a good end. -/
def secureActs (l : Listener) (id : Nat) : Listener :=
  { l with tally := l.tally.finish "secured" }.enter id .secured

@[simp] theorem core_secureActs (l : Listener) (id : Nat) : (l.secureActs id).core = l.core := rfl

theorem succeedActs_eq (l : Listener) (id : Nat) (task : HandshakeTask) (machine : Machine)
    (remote : PublicKey) : l.succeedActs id task machine remote =
      (l.secureActs id).submitOutcome id task
        (.ok ⟨id, task.stream, task.peer, remote, machine⟩) :=
  rfl

/-! ## The accept loop -/

/-- The ways that a step of the accept loop can go. -/
inductive LoopStepped (l : Listener) : Listener → Prop
  /-- The shutdown is found while the loop has no part in the pool. -/
  | stops (idle : l.loop = .seeking ∨ ∃ timer, l.loop = .pausing timer) (fired : l.fired = true) :
    LoopStepped l l.stopLoop
  /-- It asks for a token and has to wait. -/
  | queues (seeking : l.loop = .seeking) (going : l.fired = false)
      (unmet : (l.pool.ask .loop 1).isMet .loop = false) :
    LoopStepped l { l with pool := l.pool.ask .loop 1, loop := .queued }
  /-- It asks for a token and gets one. -/
  | draws (seeking : l.loop = .seeking) (going : l.fired = false)
      (met : (l.pool.ask .loop 1).isMet .loop = true) :
    LoopStepped l { l with pool := (l.pool.ask .loop 1).collect .loop, loop := .listening }
  /-- The shutdown is found while the loop waits for a token. -/
  | withdraws (queued : l.loop = .queued) (fired : l.fired = true) :
    LoopStepped l { l with pool := l.pool.withdraw .loop }.stopLoop
  /-- It picks up the token that it has waited for. -/
  | picksUp (queued : l.loop = .queued) (going : l.fired = false)
      (met : l.pool.isMet .loop = true) :
    LoopStepped l { l with pool := l.pool.collect .loop, loop := .listening }
  /-- The shutdown is found while the loop waits for a connection, with a token in hand. -/
  | returns (listening : l.loop = .listening) (fired : l.fired = true) :
    LoopStepped l l.releaseLoopToken.stopLoop
  /-- The socket has failed to give a connection. -/
  | refuses (error : SystemError) (socket : SocketSlot Arrival) (listening : l.loop = .listening)
      (going : l.fired = false) (polled : l.socket.poll = (.ready (.error error), socket)) :
    LoopStepped l ({ l with socket }.reportRefusal error)
  /-- The socket gives a connection. -/
  | takes (arrival : Arrival) (socket : SocketSlot Arrival) (listening : l.loop = .listening)
      (going : l.fired = false) (polled : l.socket.poll = (.ready (.ok arrival), socket)) :
    LoopStepped l ({ l with socket }.spawnTask arrival)
  /-- The failure is not handed over yet. -/
  | holds (pause : Nat) (handoff : Handoff Outcome) (reporting : l.loop = .reporting pause)
      (polled : l.handoff.pollProducer loopProducer = (.pending, handoff)) :
    LoopStepped l { l with handoff }
  /-- The failure is handed over, or nobody will take it. -/
  | pauses (pause : Nat) (delivered : Bool) (handoff : Handoff Outcome)
      (reporting : l.loop = .reporting pause)
      (polled : l.handoff.pollProducer loopProducer = (.ready delivered, handoff)) :
    LoopStepped l ({ l with handoff }.startPause pause)
  /-- The pause is over. -/
  | resumes (timer : Timer) (pausing : l.loop = .pausing timer) (going : l.fired = false)
      (elapsed : expired l.now timer.due = true) :
    LoopStepped l { l with loop := .seeking }

/-- A failure to take a connection is submitted as an outcome, and noted. -/
theorem reportRefusal_eq (l : Listener) (error : SystemError) :
    ∃ (pause : Nat) (l₁ : Listener), l₁.core = l.core ∧
      l.reportRefusal error =
        { l₁ with
          loop := .reporting pause
          handoff := l₁.handoff.submit loopProducer (.error (.accept error)) }.note
            (.refused error) := by
  rcases hpause : l.backoff.recordFailure l.chance with ⟨⟨range, length⟩, backoff, chance⟩
  let counted : Listener := { l with
    backoff, chance
    tally := { l.tally with acceptErrors := l.tally.acceptErrors + 1 } }
  unfold reportRefusal
  simp only [hpause]
  -- a line on jitter only passes
  cases range with
  | none => exact ⟨(length.getD 0).toNat, counted, rfl, rfl⟩
  | some range => exact ⟨(length.getD 0).toNat, counted.note (.jitter range), rfl, rfl⟩

/-- Every step of the accept loop goes one of the ways. -/
theorem stepLoop_spec {l l' : Listener} (h : l.stepLoop = some l') : LoopStepped l l' := by
  unfold stepLoop at h
  split at h
  · -- about to ask for a token
    rename_i seeking
    split at h
    · cases h
      exact .stops (.inl seeking) ‹_›
    · have going : l.fired = false := Bool.eq_false_iff.2 ‹_›
      simp only at h
      split at h
      · cases h
        exact .draws seeking going ‹_›
      · cases h
        exact .queues seeking going (Bool.eq_false_iff.2 ‹_›)
  · -- waiting for a token
    rename_i queued
    split at h
    · cases h
      exact .withdraws queued ‹_›
    · have going : l.fired = false := Bool.eq_false_iff.2 ‹_›
      split at h
      · cases h
        exact .picksUp queued going ‹_›
      · cases h
  · -- waiting for a connection
    rename_i listening
    split at h
    · cases h
      exact .returns listening ‹_›
    · have going : l.fired = false := Bool.eq_false_iff.2 ‹_›
      split at h
      · cases h
      · cases h
        exact .refuses _ _ listening going ‹_›
      · cases h
        exact .takes _ _ listening going ‹_›
  · -- handing over a failure
    rename_i pause reporting
    split at h
    · split at h
      · cases h
        exact .holds pause _ reporting ‹_›
      · cases h
        exact .pauses pause _ _ reporting ‹_›
    · cases h
  · -- pausing
    rename_i timer pausing
    split at h
    · cases h
      exact .stops (.inr ⟨timer, pausing⟩) ‹_›
    · have going : l.fired = false := Bool.eq_false_iff.2 ‹_›
      split at h
      · cases h
        exact .resumes timer pausing going ‹_›
      · cases h
  · cases h

/-! ## What a handshake finds -/

/-- What a handshake finds at its turn. -/
inductive Sight
  /-- Nothing that concerns the acts. -/
  | nothing
  /-- The shutdown has been fired. -/
  | shut
  /-- Bytes of an act. -/
  | read (act : Act) (bytes : Bytes)
  /-- Room for these bytes of act two. -/
  | written (bytes : Bytes)
  /-- Reading or writing fails, or the act has not come in time. -/
  | broken (failure : Failure)

/-- What there is to be read of an act, if `count` bytes of it are missing. -/
def readingSight (l : Listener) (stream : Nat) (act : Act) (count : Nat) (timer : Timer) : Sight :=
  match l.wires.find? stream with
  | none => .nothing
  | some wire =>
    match (wire.inward.read count).1 with
    | .bytes bytes => .read act bytes
    | .fault e => .broken (Failure.ofRead act e)
    | .ended => .broken (Failure.ofRead act .earlyEnd)
    | .nothing => if expired l.now timer.due then .broken (.timeout act) else .nothing

/-- What comes of writing on in act two. -/
def writingSight (l : Listener) (stream : Nat) (left : Bytes) : Sight :=
  match l.wires.find? stream with
  | none => .nothing
  | some wire =>
    match (wire.outward.write left).1 with
    | .pending => .nothing
    | .ready (.error e) => .broken (.io .two e)
    | .ready (.ok rest) => .written (left.take (left.length - rest.length))

/-- What a handshake finds at its turn.  It looks at the shutdown first, and again between act two
    and act three. -/
def sight (l : Listener) (task : HandshakeTask) : Sight :=
  match task.phase with
  | .spawned | .wroteTwo _ => if l.fired then .shut else .nothing
  | .readOne _ got timer =>
    if l.fired then .shut else l.readingSight task.stream .one (keyActSize - got.length) timer
  | .writeTwo _ left => if l.fired then .shut else l.writingSight task.stream left
  | .readThree _ got timer =>
    if l.fired then .shut else l.readingSight task.stream .three (staticActSize - got.length) timer
  | .reporting => .nothing

/-! ## The handshakes -/

/-- A stream is used: it is as the network and the gate have left it. -/
def withWire (l : Listener) (stream : Nat) (wire : Wire) : Listener :=
  { l with wires := l.wires.update stream wire }

variable (S : Suite)

/-- The ways that a step of a handshake can go; the first index is what it finds. -/
inductive TaskStepped (l : Listener) (id : Nat) (task : HandshakeTask) : Sight → Listener → Prop
  /-- The listener is closing before the acts have begun. -/
  | aborts (spawned : task.phase = .spawned) (fired : l.fired = true) :
    TaskStepped l id task .shut
      ((((l.enter id .init).enter id .rejected).endTask id).closeStream task.stream)
  /-- The acts begin. -/
  | begins (spawned : task.phase = .spawned) (going : l.fired = false) :
    TaskStepped l id task .nothing
      ((({ l.enter id .init with tally := l.tally.start }.enter id .awaitActOne).arm
          l.settings.timeout).2.setPhase id task
        (.readOne (Machine.responder S l.settings.identity) [] ⟨l.now + l.settings.timeout, l.armed⟩))
  /-- The shutdown cuts the acts short. -/
  | shut (inActs : task.phase.inActs = true) (fired : l.fired = true) :
    TaskStepped l id task .shut (l.failActs id task .closed)
  /-- Reading or writing fails, or an act has not come in time. -/
  | breaks (failure : Failure) (wires : Roster Wire) (inActs : task.phase.inActs = true)
      (going : l.fired = false) :
    TaskStepped l id task (.broken failure) ({ l with wires }.failActs id task failure)
  /-- Some of act one is read, and more is missing. -/
  | readsOne (machine : Machine) (got bytes : Bytes) (timer : Timer) (wire : Wire) (inward : Pipe)
      (phase_eq : task.phase = .readOne machine got timer) (going : l.fired = false)
      (found : l.wires.find? task.stream = some wire)
      (read : wire.inward.read (keyActSize - got.length) = (.bytes bytes, inward))
      (short : Octets.ofBytes? keyActSize (got ++ bytes) = none) :
    TaskStepped l id task (.read .one bytes)
      ((l.withWire task.stream { wire with inward }).setPhase id task
        (.readOne machine (got ++ bytes) timer))
  /-- The rest of act one is read. -/
  | takesOne (machine : Machine) (got bytes : Bytes) (timer : Timer) (wire : Wire) (inward : Pipe)
      (act : Octets keyActSize)
      (phase_eq : task.phase = .readOne machine got timer) (going : l.fired = false)
      (found : l.wires.find? task.stream = some wire)
      (read : wire.inward.read (keyActSize - got.length) = (.bytes bytes, inward))
      (full : Octets.ofBytes? keyActSize (got ++ bytes) = some act) :
    TaskStepped l id task (.read .one bytes)
      ((l.withWire task.stream { wire with inward }).takeActOne S id task machine act)
  /-- Some of act two, or all of it, is written. -/
  | writes (machine : Machine) (left rest : Bytes) (wire : Wire) (outward : Pipe)
      (phase_eq : task.phase = .writeTwo machine left) (going : l.fired = false)
      (found : l.wires.find? task.stream = some wire)
      (written : wire.outward.write left = (.ready (.ok rest), outward)) :
    TaskStepped l id task (.written (left.take (left.length - rest.length)))
      ((l.withWire task.stream { wire with outward }).setPhase id task
        (if rest = [] then .wroteTwo machine else .writeTwo machine rest))
  /-- Act three is waited for. -/
  | awaits (machine : Machine) (phase_eq : task.phase = .wroteTwo machine)
      (going : l.fired = false) :
    TaskStepped l id task .nothing
      (((l.enter id .awaitActThree).arm l.settings.timeout).2.setPhase id task
        (.readThree machine [] ⟨l.now + l.settings.timeout, l.armed⟩))
  /-- Some of act three is read, and more is missing. -/
  | readsThree (machine : Machine) (got bytes : Bytes) (timer : Timer) (wire : Wire) (inward : Pipe)
      (phase_eq : task.phase = .readThree machine got timer) (going : l.fired = false)
      (found : l.wires.find? task.stream = some wire)
      (read : wire.inward.read (staticActSize - got.length) = (.bytes bytes, inward))
      (short : Octets.ofBytes? staticActSize (got ++ bytes) = none) :
    TaskStepped l id task (.read .three bytes)
      ((l.withWire task.stream { wire with inward }).setPhase id task
        (.readThree machine (got ++ bytes) timer))
  /-- The rest of act three is read. -/
  | takesThree (machine : Machine) (got bytes : Bytes) (timer : Timer) (wire : Wire) (inward : Pipe)
      (act : Octets staticActSize)
      (phase_eq : task.phase = .readThree machine got timer) (going : l.fired = false)
      (found : l.wires.find? task.stream = some wire)
      (read : wire.inward.read (staticActSize - got.length) = (.bytes bytes, inward))
      (full : Octets.ofBytes? staticActSize (got ++ bytes) = some act) :
    TaskStepped l id task (.read .three bytes)
      ((l.withWire task.stream { wire with inward }).takeActThree S id task machine act)
  /-- The outcome is not handed over yet. -/
  | holds (handoff : Handoff Outcome) (reporting : task.phase = .reporting)
      (polled : l.handoff.pollProducer id = (.pending, handoff)) :
    TaskStepped l id task .nothing { l with handoff }
  /-- The outcome is handed over. -/
  | delivers (handoff : Handoff Outcome) (reporting : task.phase = .reporting)
      (polled : l.handoff.pollProducer id = (.ready true, handoff)) :
    TaskStepped l id task .nothing ({ l with handoff }.endTask id)
  /-- Nobody will take the outcome: it is dropped. -/
  | drops (outcome : Outcome) (handoff : Handoff Outcome) (reporting : task.phase = .reporting)
      (held : l.handoff.producers.find? id = some outcome)
      (polled : l.handoff.pollProducer id = (.ready false, handoff)) :
    TaskStepped l id task .nothing (({ l with handoff }.dropOutcome outcome).endTask id)

variable {S}

/-- Reading on in an act, whatever act it is: some more of it comes, or the rest, or a fault. -/
theorem readAct_cases {l l' : Listener} {id : Nat} {task : HandshakeTask} {act : Act} {size : Nat}
    {got : Bytes} {timer : Timer} {more : Listener → Bytes → Listener}
    {full : Listener → Octets size → Listener}
    (h : l.readAct id task act size got timer more full = some l') :
    (∃ wire inward bytes, l.wires.find? task.stream = some wire ∧
      wire.inward.read (size - got.length) = (.bytes bytes, inward) ∧
      l.readingSight task.stream act (size - got.length) timer = .read act bytes ∧
      ((Octets.ofBytes? size (got ++ bytes) = none ∧
          l' = more (l.withWire task.stream { wire with inward }) (got ++ bytes)) ∨
        ∃ complete, Octets.ofBytes? size (got ++ bytes) = some complete ∧
          l' = full (l.withWire task.stream { wire with inward }) complete)) ∨
    ∃ failure wires, l.readingSight task.stream act (size - got.length) timer = .broken failure ∧
      l' = { l with wires }.failActs id task failure := by
  unfold readAct at h
  cases found : l.wires.find? task.stream with
  | none =>
    rw [found] at h
    cases h
  | some wire =>
    simp only [found] at h
    have hsight : l.readingSight task.stream act (size - got.length) timer =
        match (wire.inward.read (size - got.length)).1 with
        | .bytes bytes => .read act bytes
        | .fault e => .broken (Failure.ofRead act e)
        | .ended => .broken (Failure.ofRead act .earlyEnd)
        | .nothing => if expired l.now timer.due then .broken (.timeout act) else .nothing := by
      unfold readingSight
      rw [found]
    rcases hread : wire.inward.read (size - got.length) with ⟨seen, inward⟩
    simp only [hread] at h hsight
    cases seen with
    | nothing =>
      simp only at h hsight
      split at h
      · rename_i late
        rw [if_pos late] at hsight
        cases h
        exact .inr ⟨_, l.wires, hsight, rfl⟩
      · cases h
    | bytes bytes =>
      refine .inl ⟨wire, inward, bytes, rfl, hread, hsight, ?_⟩
      simp only at h
      split at h
      · rename_i complete hfull
        cases h
        exact .inr ⟨complete, hfull, rfl⟩
      · rename_i hshort
        cases h
        exact .inl ⟨hshort, rfl⟩
    | fault e =>
      cases h
      exact .inr ⟨_, _, hsight, rfl⟩
    | ended =>
      cases h
      exact .inr ⟨_, _, hsight, rfl⟩

/-- Writing on in act two goes one of the ways. -/
theorem writeActTwo_spec {l l' : Listener} {id : Nat} {task : HandshakeTask} {machine : Machine}
    {left : Bytes} (phase_eq : task.phase = .writeTwo machine left) (going : l.fired = false)
    (h : l.writeActTwo id task machine left = some l') :
    TaskStepped S l id task (l.writingSight task.stream left) l' := by
  unfold writeActTwo at h
  unfold writingSight
  cases found : l.wires.find? task.stream with
  | none =>
    rw [found] at h
    cases h
  | some wire =>
    simp only [found] at h
    rcases hwrite : wire.outward.write left with ⟨result, outward⟩
    simp only [hwrite] at h ⊢
    split at h
    · cases h
    · cases h
      exact .breaks _ _ (by rw [phase_eq]; rfl) going
    · cases h
      exact .writes machine left [] wire outward phase_eq going found hwrite
    · rename_i rest hrest
      cases h
      have hphase : Phase.writeTwo machine rest =
          if rest = [] then .wroteTwo machine else .writeTwo machine rest := (if_neg hrest).symm
      rw [hphase]
      exact .writes machine left rest wire outward phase_eq going found hwrite

/-- Handing the outcome over goes one of the ways. -/
theorem reportOutcome_spec {l l' : Listener} {id : Nat} {task : HandshakeTask}
    (reporting : task.phase = .reporting) (h : l.reportOutcome id = some l') :
    TaskStepped S l id task .nothing l' := by
  unfold reportOutcome at h
  split at h
  · rename_i runnable
    simp only at h
    split at h
    · cases h
      exact .holds _ reporting ‹_›
    · cases h
      exact .delivers _ reporting ‹_›
    · cases h
      cases held : l.handoff.producers.find? id with
      | none =>
        rw [Handoff.producerRunnable, held] at runnable
        cases runnable
      | some outcome => exact .drops outcome _ reporting held ‹_›
  · cases h

/-- Every step of a handshake goes one of the ways. -/
theorem stepTask_spec {l l' : Listener} {id : Nat} {task : HandshakeTask}
    (held : l.tasks.find? id = some task) (h : l.stepTask S id = some l') :
    TaskStepped S l id task (l.sight task) l' := by
  unfold stepTask at h
  simp only [held] at h
  unfold sight
  split at h
  · -- the first step
    rename_i spawned
    rw [spawned]
    cases h
    simp only
    cases fired : l.fired with
    | true =>
      have : l.beginActs S id task =
          (((l.enter id .init).enter id .rejected).endTask id).closeStream task.stream :=
        if_pos fired
      rw [if_pos rfl, this]
      exact .aborts spawned fired
    | false =>
      have : l.beginActs S id task =
          (({ l.enter id .init with tally := l.tally.start }.enter id .awaitActOne).arm
              l.settings.timeout).2.setPhase id task
            (.readOne (Machine.responder S l.settings.identity) []
              ⟨l.now + l.settings.timeout, l.armed⟩) :=
        if_neg (Bool.eq_false_iff.1 fired)
      rw [if_neg Bool.false_ne_true, this]
      exact .begins spawned fired
  · -- reading act one
    rename_i machine got timer reading
    rw [reading]
    simp only
    split at h
    · rename_i fired
      cases h
      rw [if_pos fired]
      exact .shut (by rw [reading]; rfl) fired
    · rename_i hgoing
      have going : l.fired = false := Bool.eq_false_iff.2 hgoing
      rw [if_neg hgoing]
      rcases readAct_cases h with
        ⟨wire, inward, bytes, found, read, hsight, ⟨short, rfl⟩ | ⟨act, full, rfl⟩⟩ |
        ⟨failure, wires, hsight, rfl⟩
      · rw [hsight]
        exact .readsOne machine got bytes timer wire inward reading going found read short
      · rw [hsight]
        exact .takesOne machine got bytes timer wire inward act reading going found read full
      · rw [hsight]
        exact .breaks failure wires (by rw [reading]; rfl) going
  · -- writing act two
    rename_i machine left writing
    rw [writing]
    simp only
    split at h
    · rename_i fired
      cases h
      rw [if_pos fired]
      exact .shut (by rw [writing]; rfl) fired
    · rename_i hgoing
      rw [if_neg hgoing]
      exact writeActTwo_spec writing (Bool.eq_false_iff.2 hgoing) h
  · -- between act two and act three
    rename_i machine wrote
    rw [wrote]
    cases h
    simp only
    cases fired : l.fired with
    | true =>
      have : l.awaitActThree id task machine = l.failActs id task .closed := if_pos fired
      rw [if_pos rfl, this]
      exact .shut (by rw [wrote]; rfl) fired
    | false =>
      have : l.awaitActThree id task machine =
          ((l.enter id .awaitActThree).arm l.settings.timeout).2.setPhase id task
            (.readThree machine [] ⟨l.now + l.settings.timeout, l.armed⟩) :=
        if_neg (Bool.eq_false_iff.1 fired)
      rw [if_neg Bool.false_ne_true, this]
      exact .awaits machine wrote fired
  · -- reading act three
    rename_i machine got timer reading
    rw [reading]
    simp only
    split at h
    · rename_i fired
      cases h
      rw [if_pos fired]
      exact .shut (by rw [reading]; rfl) fired
    · rename_i hgoing
      have going : l.fired = false := Bool.eq_false_iff.2 hgoing
      rw [if_neg hgoing]
      rcases readAct_cases h with
        ⟨wire, inward, bytes, found, read, hsight, ⟨short, rfl⟩ | ⟨act, full, rfl⟩⟩ |
        ⟨failure, wires, hsight, rfl⟩
      · rw [hsight]
        exact .readsThree machine got bytes timer wire inward reading going found read short
      · rw [hsight]
        exact .takesThree machine got bytes timer wire inward act reading going found read full
      · rw [hsight]
        exact .breaks failure wires (by rw [reading]; rfl) going
  · -- handing the outcome over
    rename_i reporting
    rw [reporting]
    exact reportOutcome_spec reporting h

/-- A handshake that has no step to take has found nothing. -/
theorem sight_of_stepTask_eq_none {l : Listener} {id : Nat} {task : HandshakeTask}
    (held : l.tasks.find? id = some task) (h : l.stepTask S id = none) :
    l.sight task = .nothing := by
  have hread : ∀ {act : Act} {size : Nat} {got : Bytes} {timer : Timer}
      {more : Listener → Bytes → Listener} {full : Listener → Octets size → Listener},
      l.readAct id task act size got timer more full = none →
      l.readingSight task.stream act (size - got.length) timer = .nothing := by
    intro act size got timer more full h
    unfold readAct at h
    unfold readingSight
    cases found : l.wires.find? task.stream with
    | none => rfl
    | some wire =>
      simp only [found] at h ⊢
      rcases hread : wire.inward.read (size - got.length) with ⟨seen, inward⟩
      simp only [hread] at h ⊢
      cases seen with
      | nothing =>
        simp only at h ⊢
        split at h
        · cases h
        · rename_i early
          rw [if_neg early]
      | bytes bytes =>
        simp only at h
        split at h <;> cases h
      | fault e => cases h
      | ended => cases h
  unfold stepTask at h
  simp only [held] at h
  unfold sight
  split at h
  · cases h
  · rename_i machine got timer reading
    rw [reading]
    split at h
    · cases h
    · rename_i going
      exact (if_neg going).trans (hread h)
  · rename_i machine left writing
    rw [writing]
    split at h
    · cases h
    · rename_i going
      refine (if_neg going).trans ?_
      unfold writeActTwo at h
      unfold writingSight
      cases found : l.wires.find? task.stream with
      | none => rfl
      | some wire =>
        simp only [found] at h ⊢
        rcases hwrite : wire.outward.write left with ⟨result, outward⟩
        simp only [hwrite] at h ⊢
        split at h
        · rfl
        · cases h
        · cases h
        · cases h
  · cases h
  · rename_i machine got timer reading
    rw [reading]
    split at h
    · cases h
    · rename_i going
      exact (if_neg going).trans (hread h)
  · rename_i reporting
    rw [reporting]

/-- What breaks the acts is a fault of the stream. -/
theorem isFault_of_sight {l : Listener} {task : HandshakeTask} {failure : Failure}
    (h : l.sight task = .broken failure) : failure.isFault = true := by
  have hofRead : ∀ (act : Act) (e : SystemError), (Failure.ofRead act e).isFault = true := by
    intro act e
    unfold Failure.ofRead
    split <;> rfl
  have hread : ∀ (stream : Nat) (act : Act) (count : Nat) (timer : Timer),
      l.readingSight stream act count timer = .broken failure → failure.isFault = true := by
    intro stream act count timer h
    unfold readingSight at h
    split at h
    · cases h
    · split at h
      · cases h
      · cases h
        exact hofRead _ _
      · cases h
        exact hofRead _ _
      · split at h
        · cases h
          rfl
        · cases h
  have hwrite : ∀ (stream : Nat) (left : Bytes),
      l.writingSight stream left = .broken failure → failure.isFault = true := by
    intro stream left h
    unfold writingSight at h
    split at h
    · cases h
    · split at h
      · cases h
      · cases h
        rfl
      · cases h
  unfold sight at h
  split at h
  · split at h <;> cases h
  · split at h <;> cases h
  · split at h
    · cases h
    · exact hread _ _ _ _ h
  · split at h
    · cases h
    · exact hwrite _ _ h
  · split at h
    · cases h
    · exact hread _ _ _ _ h
  · cases h

/-- What becomes of act one once it is there: it is refused, or act two cannot be made, or act two
    is the answer. -/
theorem takeActOne_cases (l : Listener) (id : Nat) (task : HandshakeTask) (machine : Machine)
    (act : Octets keyActSize) :
    (∃ e m, machine.receiveActOne S act = (.error e, m) ∧
      l.takeActOne S id task machine act = l.failActs id task (.handshake e)) ∨
    ∃ m₁, machine.receiveActOne S act = (.ok (), m₁) ∧
      ((∃ e m₂, m₁.sendActTwo S l.chance.takeSecret.1 = (.error e, m₂) ∧
          l.takeActOne S id task machine act =
            { l with chance := l.chance.takeSecret.2 }.failActs id task (.handshake e)) ∨
        ∃ answer m₂, m₁.sendActTwo S l.chance.takeSecret.1 = (.ok answer, m₂) ∧
          l.takeActOne S id task machine act =
            { l with chance := l.chance.takeSecret.2 }.setPhase id task
              (.writeTwo m₂ answer.bytes)) := by
  rcases hone : machine.receiveActOne S act with ⟨e | ⟨⟩, m₁⟩
  · refine .inl ⟨e, m₁, rfl, ?_⟩
    rw [takeActOne, hone]
  · refine .inr ⟨m₁, rfl, ?_⟩
    rcases htwo : m₁.sendActTwo S l.chance.takeSecret.1 with ⟨e | answer, m₂⟩
    · refine .inl ⟨e, m₂, rfl, ?_⟩
      rw [takeActOne, hone]
      simp only [htwo]
    · refine .inr ⟨answer, m₂, rfl, ?_⟩
      rw [takeActOne, hone]
      simp only [htwo]

/-- What becomes of act three once it is there: it is refused, or it names nobody, or the connection
    is secured. -/
theorem takeActThree_cases (l : Listener) (id : Nat) (task : HandshakeTask) (machine : Machine)
    (act : Octets staticActSize) :
    (∃ e m, machine.receiveActThree S act = (.error e, m) ∧
      l.takeActThree S id task machine act = l.failActs id task (.handshake e)) ∨
    ∃ m, machine.receiveActThree S act = (.ok (), m) ∧
      ((m.remoteStatic = none ∧
          l.takeActThree S id task machine act =
            l.failActs id task (.handshake (.invalidKey .three))) ∨
        ∃ remote, m.remoteStatic = some remote ∧
          l.takeActThree S id task machine act = l.succeedActs id task m remote) := by
  rcases hthree : machine.receiveActThree S act with ⟨e | ⟨⟩, m⟩
  · refine .inl ⟨e, m, rfl, ?_⟩
    rw [takeActThree, hthree]
  · refine .inr ⟨m, rfl, ?_⟩
    cases hremote : m.remoteStatic with
    | none =>
      refine .inl ⟨rfl, ?_⟩
      rw [takeActThree, hthree]
      simp only [hremote]
    | some remote =>
      refine .inr ⟨remote, rfl, ?_⟩
      rw [takeActThree, hthree]
      simp only [hremote]

/-! ## Calls, and waiting for the listener to drain -/

/-- The ways that a step of a call can go. -/
inductive CallStepped (l : Listener) (call : Nat) : Listener → Prop
  /-- There is no answer yet. -/
  | waits (handoff : Handoff Outcome)
      (polled : l.handoff.pollConsumer call = (.pending, handoff)) :
    CallStepped l call { l with handoff }
  /-- It is answered with an outcome. -/
  | answers (outcome : Outcome) (handoff : Handoff Outcome)
      (polled : l.handoff.pollConsumer call = (.ready (some outcome), handoff)) :
    CallStepped l call ({ l with handoff }.note (.answered call outcome))
  /-- It learns that the listener is closed; an outcome that it had been given is dropped. -/
  | closes (handoff : Handoff Outcome) (l₁ : Listener)
      (polled : l.handoff.pollConsumer call = (.ready none, handoff))
      (dropped : l₁ = { l with handoff } ∨
        ∃ outcome, l.handoff.consumers.find? call = some (.filled outcome) ∧
          l₁ = { l with handoff }.dropOutcome outcome) :
    CallStepped l call (l₁.note (.answered call (.error .closed)))

/-- Every step of a call goes one of the ways. -/
theorem stepCall_spec {l l' : Listener} {call : Nat} (h : l.stepCall call = some l') :
    CallStepped l call l' := by
  unfold stepCall at h
  split at h
  · simp only at h
    split at h
    · cases h
      exact .waits _ ‹_›
    · cases h
      exact .answers _ _ ‹_›
    · rename_i handoff polled
      split at h
      · rename_i outcome held
        cases h
        exact .closes handoff _ polled (.inr ⟨outcome, held, rfl⟩)
      · cases h
        exact .closes handoff _ polled (.inl rfl)
  · cases h

/-- An outcome that is dropped is nothing to the core. -/
theorem core_of_dropped {l l₁ : Listener} {Held : Outcome → Prop}
    (dropped : l₁ = l ∨ ∃ outcome, Held outcome ∧ l₁ = l.dropOutcome outcome) :
    l₁.core = l.core := by
  rcases dropped with rfl | ⟨outcome, _, rfl⟩
  · rfl
  · exact core_dropOutcome l outcome

/-- A call that is given up is given up in the handoff; an outcome that it had been given is
    dropped. -/
theorem core_abandonCall (l : Listener) (call : Nat) :
    (l.abandonCall call).core =
      { l with handoff := l.handoff.abandonConsumer call : Listener }.core := by
  unfold abandonCall
  simp only
  split
  · exact core_dropOutcome _ _
  · rfl

/-- The ways that a step of a party can go that waits for the listener to drain. -/
inductive DrainStepped (l : Listener) (id : Nat) : Listener → Prop
  /-- The loop has returned: it asks for all tokens. -/
  | asks (waiting : l.drains.find? id = some .loopRuns) (stopped : l.loop = .stopped) :
    DrainStepped l id { l with
      pool := l.pool.ask (.drain id) l.drainNeed
      drains := l.drains.update id .claiming }
  /-- It has got all tokens, and gives them back. -/
  | drains (claiming : l.drains.find? id = some .claiming)
      (met : l.pool.isMet (.drain id) = true) :
    DrainStepped l id ({ l with
      pool := (l.pool.collect (.drain id)).release l.drainNeed
      drains := l.drains.update id .done }.note (.drained id))

/-- Every step of such a party goes one of the ways. -/
theorem stepDrain_spec {l l' : Listener} {id : Nat} (h : l.stepDrain id = some l') :
    DrainStepped l id l' := by
  unfold stepDrain at h
  split at h
  · rename_i waiting
    split at h
    · cases h
      exact .asks waiting ‹_›
    · cases h
  · rename_i claiming
    split at h
    · cases h
      exact .drains claiming ‹_›
    · cases h
  · cases h

/-! ## Runs -/

/-- A party has taken its step.  A handshake that takes one is there. -/
inductive StepTaken (S : Suite) (l : Listener) : Party → Listener → Prop
  | loop {l' : Listener} (step : l.stepLoop = some l') : StepTaken S l .loop l'
  | task {id : Nat} {l' : Listener} (task : HandshakeTask) (held : l.tasks.find? id = some task)
      (step : l.stepTask S id = some l') : StepTaken S l (.task id) l'
  | call {call : Nat} {l' : Listener} (step : l.stepCall call = some l') :
      StepTaken S l (.call call) l'
  | drain {drain : Nat} {l' : Listener} (step : l.stepDrain drain = some l') :
      StepTaken S l (.drain drain) l'

/-- A party whose turn it is takes its step, or has none to take and nothing changes. -/
theorem apply_step (S : Suite) (l : Listener) (party : Party) :
    l.stepParty S party = none ∧ l.apply S (.step party) = l ∨
      ∃ l', l.apply S (.step party) = l' ∧ StepTaken S l party l' := by
  cases hstep : l.stepParty S party with
  | none => exact .inl ⟨rfl, by rw [apply, hstep, Option.getD_none]⟩
  | some l' =>
    refine .inr ⟨l', by rw [apply, hstep, Option.getD_some], ?_⟩
    cases party with
    | loop => exact .loop hstep
    | task id =>
      cases held : l.tasks.find? id with
      | none =>
        rw [stepParty, stepTask, held] at hstep
        cases hstep
      | some task => exact .task task held hstep
    | call call => exact .call hstep
    | drain drain => exact .drain hstep

theorem run_append (S : Suite) (l : Listener) (events more : List Event) :
    l.run S (events ++ more) = (l.run S events).run S more := List.foldl_append

/-- What every event preserves holds along every run. -/
theorem run_induction {P : Listener → Prop} {l : Listener} (start : P l)
    (step : ∀ l e, P l → P (l.apply S e)) (events : List Event) : P (l.run S events) := by
  induction events generalizing l with
  | nil => exact start
  | cons e events ih => exact ih (step l e start)

end Listener

end Gatehouse
