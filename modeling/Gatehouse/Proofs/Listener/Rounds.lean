import Gatehouse.Proofs.Listener.Desk
import Gatehouse.Proofs.Listener.Hearing
import Gatehouse.Proofs.Listener.Owners
import Gatehouse.Proofs.Listener.Taking

/-!
# The rounds of the accept loop

The accept loop goes round: it asks for a token, it takes what the socket answers, and where that is a
failure it hands the failure over, gives the token back and pauses.  All that concerns these rounds
is gathered in one place (`Round`), and what an event can come to there is said once, as one constructor
for each way that it can go (`Turned`).  That is so in every listener on duty, one that nobody has
begun to close (`Scene.OnDuty.apply`).
-/

namespace Gatehouse

namespace SocketSlot

variable {α : Type} {s s' : SocketSlot α}

/-- What the socket is going to answer, one after another. -/
def answers (s : SocketSlot α) : List (Except SystemError α) :=
  (s.raw.getD []).filterMap fun
    | .ready answer => some answer
    | .pending => none

/-- The socket is given answers, one after another. -/
def pushAll (s : SocketSlot α) (more : List (Except SystemError α)) : SocketSlot α :=
  more.foldl push s

@[simp] theorem isOpen_pushAll (s : SocketSlot α) (more : List (Except SystemError α)) :
    (s.pushAll more).isOpen = s.isOpen := by
  induction more generalizing s with
  | nil => rfl
  | cons answer more ih => exact (ih _).trans (isOpen_push s answer)

theorem answers_pushAll (isOpen : s.isOpen = true) (more : List (Except SystemError α)) :
    (s.pushAll more).answers = s.answers ++ more := by
  induction more generalizing s with
  | nil => exact (List.append_nil _).symm
  | cons answer more ih =>
    have pushed : (s.push answer).answers = s.answers ++ [answer] := by
      obtain ⟨raw⟩ := s
      cases raw with
      | none => cases isOpen
      | some queue => exact List.filterMap_append
    show ((s.push answer).pushAll more).answers = _
    rw [ih ((isOpen_push s answer).trans isOpen), pushed, List.append_assoc]
    rfl

theorem answers_of_polled (isOpen : s.isOpen = true) {answer : Except SystemError α}
    (polled : s.poll = (.ready answer, s')) : s.answers = answer :: s'.answers := by
  obtain ⟨raw⟩ := s
  match raw with
  | none => cases isOpen
  | some [] => cases polled
  | some (.ready first :: queue) =>
    cases polled
    rfl

/-- What the socket answers next does not depend on what it is given meanwhile. -/
theorem poll_pushAll {answer : Except SystemError α} (isOpen : s.isOpen = true)
    (polled : s.poll = (.ready answer, s')) (more : List (Except SystemError α)) :
    ∃ s'', (s.pushAll more).poll = (.ready answer, s'') := by
  induction more generalizing s s' with
  | nil => exact ⟨s', polled⟩
  | cons new more ih =>
    have pushed : (s.push new).poll = (.ready answer, s'.push new) := by
      obtain ⟨raw⟩ := s
      match raw with
      | none => cases isOpen
      | some [] => cases polled
      | some (first :: queue) =>
        cases polled
        rfl
    exact ih ((isOpen_push s new).trans isOpen) pushed

end SocketSlot

namespace Listener

variable {S : Suite} {l l' : Listener} {capacity : Nat}

/-! ## Rounds -/

/-- The attempt to take a connection that is on record here. -/
def attempt? : Happening → Option (Except SystemError Nat)
  | .taken _ stream => some (.ok stream)
  | .refused error => some (.error error)
  | _ => none

/-- How the accept loop's attempts to take a connection have gone, the latest first: the stream of the
    connection, or why there was none. -/
def attempts (l : Listener) : List (Except SystemError Nat) := l.log.filterMap attempt?

/-- How far the accept loop has come. -/
structure Round where
  loop : LoopPhase
  backoff : Backoff
  acceptErrors : Nat
  dealings : Handoff.Dealings Outcome
  attempts : List (Except SystemError Nat)
  /-- How often it has given a token back. -/
  returns : Nat
  /-- How many raw connections have been taken. -/
  connections : Nat

/-- How far the accept loop of a listener has come. -/
def round (l : Listener) : Round where
  loop := l.loop
  backoff := l.backoff
  acceptErrors := l.tally.acceptErrors
  dealings := l.handoff.dealings loopProducer
  attempts := l.attempts
  returns := l.loopReturns
  connections := l.connections

/-- What an event comes to for the accept loop as long as nobody closes the listener, and what the
    socket is given by it. -/
inductive Turned (l l' : Listener) : List (Except SystemError Arrival) → Prop
  /-- The loop is where it was. -/
  | stays (brought : List (Except SystemError Arrival)) (round : l'.round = l.round)
      (socket : l'.socket = l.socket.pushAll brought) (now : l.now ≤ l'.now) :
    Turned l l' brought
  /-- It has asked for a token, or got the one that it has waited for. -/
  | looks (phase : LoopPhase) (looking : l.loop = .seeking ∨ l.loop = .queued)
      (next : phase = .queued ∨ phase = .listening)
      (round : l'.round = { l.round with loop := phase }) (socket : l'.socket = l.socket) :
    Turned l l' []
  /-- It takes a connection, and its row of failures is over. -/
  | takes (arrival : Arrival) (listening : l.loop = .listening)
      (polled : l.socket.poll = (.ready (.ok arrival), l'.socket))
      (round : l'.round = { l.round with
        loop := .seeking
        backoff := l.backoff.reset
        attempts := .ok arrival.stream :: l.attempts
        connections := l.connections + 1 }) :
    Turned l l' []
  /-- It cannot take one: the failure is counted and submitted, and the pause after it is decided
      on. -/
  | refuses (error : SystemError) (listening : l.loop = .listening)
      (polled : l.socket.poll = (.ready (.error error), l'.socket))
      (round : l'.round = { l.round with
        loop := .reporting ((l.backoff.recordFailure l.chance).1.length.getD 0).toNat
        backoff := (l.backoff.recordFailure l.chance).2.1
        acceptErrors := l.tally.acceptErrors + 1
        dealings := ⟨some (.error (.accept error)), l.handoff.toldTo loopProducer,
          .error (.accept error) :: l.handoff.submittedBy loopProducer⟩
        attempts := .error error :: l.attempts })
      (pool : l'.pool = l.pool) (tasks : l'.tasks = l.tasks) :
    Turned l l' []
  /-- Its failure has been handed over: it gives its token back, and the pause begins. -/
  | delivers (pause : Nat) (reporting : l.loop = .reporting pause)
      (round : l'.round = { l.round with
        loop := .pausing ⟨l.now + pause, l.armed⟩
        dealings := ⟨none, true :: l.handoff.toldTo loopProducer,
          l.handoff.submittedBy loopProducer⟩
        returns := l.loopReturns + 1 })
      (pool : l'.pool = l.pool.release 1) (now : l'.now = l.now) (socket : l'.socket = l.socket) :
    Turned l l' []
  /-- The pause is over. -/
  | resumes (timer : Timer) (pausing : l.loop = .pausing timer) (elapsed : timer.due ≤ l.now)
      (round : l'.round = { l.round with loop := .seeking }) (socket : l'.socket = l.socket) :
    Turned l l' []

/-! ## The loop's own steps -/

theorem round_reportRefusal (error : SystemError)
    (fresh : l.handoff.producers.find? loopProducer = none) :
    (l.reportRefusal error).round = { l.round with
      loop := .reporting ((l.backoff.recordFailure l.chance).1.length.getD 0).toNat
      backoff := (l.backoff.recordFailure l.chance).2.1
      acceptErrors := l.tally.acceptErrors + 1
      dealings := ⟨some (.error (.accept error)), l.handoff.toldTo loopProducer,
        .error (.accept error) :: l.handoff.submittedBy loopProducer⟩
      attempts := .error error :: l.attempts } := by
  rw [← Handoff.dealings_submit fresh]
  rcases hpause : l.backoff.recordFailure l.chance with ⟨⟨range, length⟩, backoff, chance⟩
  unfold reportRefusal
  simp only [hpause]
  cases range <;> rfl

/-- A failure leaves tokens and handshakes as they are, and the clock. -/
theorem untouched_reportRefusal (l : Listener) (error : SystemError) :
    (l.reportRefusal error).pool = l.pool ∧ (l.reportRefusal error).tasks = l.tasks ∧
      (l.reportRefusal error).socket = l.socket := by
  obtain ⟨pause, l₁, hcore, heq⟩ := reportRefusal_eq l error
  have socket : (l.reportRefusal error).front.socket = l.front.socket := by
    rw [front_reportRefusal]
  rw [heq] at socket ⊢
  exact ⟨congrArg Core.pool hcore, congrArg Core.tasks hcore, socket⟩

/-- In a listener that has not been shut down, a step of the loop goes one of the ways. -/
theorem turned_stepLoop (going : l.fired = false) (isOpen : Handoff.Open l.handoff)
    (fresh : l.loop = .listening → l.handoff.producers.find? loopProducer = none)
    (stepped : LoopStepped l l') : Turned l l' [] := by
  have unfired : ∀ {P : Prop}, l.fired = true → P :=
    fun fired => absurd (going.symm.trans fired) Bool.false_ne_true
  cases stepped with
  | stops _ fired => exact unfired fired
  | withdraws _ fired => exact unfired fired
  | returns _ fired => exact unfired fired
  | queues seeking => exact .looks .queued (.inl seeking) (.inl rfl) rfl rfl
  | draws seeking => exact .looks .listening (.inl seeking) (.inr rfl) rfl rfl
  | picksUp queued => exact .looks .listening (.inr queued) (.inr rfl) rfl rfl
  | refuses error socket listening _ polled =>
    obtain ⟨pool, tasks, same⟩ := untouched_reportRefusal { l with socket } error
    exact .refuses error listening (polled.trans (by rw [same]))
      (round_reportRefusal error (fresh listening)) pool tasks
  | takes arrival socket listening _ polled => exact .takes arrival listening polled rfl
  | holds pause handoff reporting polled =>
    have spec := l.handoff.pollProducer_spec loopProducer
    rw [polled] at spec
    rcases Handoff.dealings_producerPolled spec with ⟨_, same⟩ | ⟨delivered, answer, _⟩
    · -- at most its place in line has changed
      refine .stays [] ?_ rfl (Nat.le_refl _)
      show { l.round with dealings := handoff.dealings loopProducer } = l.round
      rw [same]
      rfl
    · cases answer
  | pauses pause delivered handoff reporting polled =>
    -- as long as nobody closes the listener, what is answered has been delivered
    have delivers := delivered_of_open isOpen polled
    have spec := l.handoff.pollProducer_spec loopProducer
    rw [polled] at spec
    rcases Handoff.dealings_producerPolled spec with ⟨answer, _⟩ | ⟨told, answer, after⟩
    · cases answer
    · obtain rfl : delivered = told := Poll.ready.inj answer
      have returns : ({ l with handoff }.startPause pause).loopReturns = l.loopReturns + 1 :=
        loopReturns_note { l with handoff }
      refine .delivers pause reporting ?_ rfl rfl rfl
      rw [← delivers, ← after, ← returns]
      rfl
  | resumes timer pausing _ elapsed =>
    exact .resumes timer pausing (of_decide_eq_true elapsed) rfl rfl

/-! ## Everybody else -/

/-- What the loop writes about is written by the loop alone. -/
theorem attempts_of_others {e : Event} (notLoop : e ≠ .step .loop) :
    (l.apply S e).attempts = l.attempts ∧ (l.apply S e).loopReturns = l.loopReturns := by
  obtain ⟨news, log, writes⟩ := wrote_apply S l e
  have foreign : ∀ h ∈ news, h.writer? ≠ some .loop := by
    intro h hmem writer
    rcases writes h hmem with closing | ⟨p, wrote, rfl⟩
    · cases writer.symm.trans closing
    · cases writer.symm.trans wrote
      exact notLoop rfl
  constructor
  · have none : news.filterMap attempt? = [] := by
      rw [List.filterMap_eq_nil_iff]
      intro h hmem
      cases h with
      | taken | refused => exact absurd rfl (foreign _ hmem)
      | _ => rfl
    rw [attempts, log, List.filterMap_append, none]
    rfl
  · unfold loopReturns
    rw [log, List.countP_append, List.countP_eq_zero.2, Nat.zero_add]
    intro h hmem
    cases h with
    | loopTokenReturned => exact absurd rfl (foreign _ hmem)
    | _ => exact Bool.false_ne_true

/-- What the socket is given by an event. -/
def Event.brought : Event → List (Except SystemError Arrival)
  | .arrive answer => [answer]
  | _ => []

/-- Has an event to do with closing? -/
def Event.isClosing : Event → Bool
  | .trigger | .closeSocket => true
  | _ => false

/-- What the others do is nothing to the rounds of the loop. -/
theorem turned_of_others {e : Event} (notLoop : e ≠ .step .loop) (notClosing : e.isClosing = false)
    (noTask : l.tasks.find? loopProducer = none) : Turned l (l.apply S e) e.brought := by
  have aside := aside_apply S l notLoop noTask
  obtain ⟨attempts, returns⟩ := attempts_of_others (S := S) (l := l) notLoop
  have now : l.now ≤ (l.apply S e).now := by
    rw [now_apply]
    exact Nat.le_add_right _ _
  have front : (l.apply S e).connections = l.connections ∧
      (l.apply S e).socket = l.socket.pushAll e.brought := by
    cases serving : e.isServing with
    | true =>
      have serve := frontServe_apply S l serving
      have socket : (l.apply S e).socket = l.socket := serve.socket
      refine ⟨serve.connections, ?_⟩
      rw [socket]
      cases e with
      | arrive answer => cases serving
      | _ => rfl
    | false =>
      cases e with
      | step party =>
        cases party with
        | loop => exact absurd rfl notLoop
        | _ => cases serving
      | arrive answer => exact ⟨rfl, rfl⟩
      | trigger | closeSocket => cases notClosing
      | _ => cases serving
  refine .stays _ ?_ front.2 now
  rw [round, aside.loop, aside.backoff, aside.acceptErrors, aside.handoff.dealings, attempts,
    returns, front.1]
  rfl

/-! ## Room for another handshake -/

namespace Books

variable {b b' : Books}

/-- Where no connection is taken, no more handshakes run than before. -/
theorem running_le (move : Move b b') (taken : b'.taken = b.taken) :
    b'.running.length ≤ b.running.length := by
  cases move with
  | takes => exact absurd taken (Nat.succ_ne_self _)
  | ends => exact List.length_filter_le _ _
  | _ => exact Nat.le_refl _

/-- While the loop is busy with a failure there is room for another handshake: the loop had a token
    for it. -/
def Room (capacity : Nat) (b : Books) : Prop :=
  b.loop.inRefusal = true → b.running.length < capacity

theorem Room.move (room : b.Room capacity) (balanced : Balanced capacity b) (move : Move b b') :
    b'.Room capacity := by
  have hbalanced : b.pool.total + b.loop.inHand + b.running.length = capacity := balanced
  cases move with
  | refuses pause listening =>
    intro _
    rw [listening] at hbalanced
    have hand : LoopPhase.listening.inHand = 1 := rfl
    show b.running.length < capacity
    omega
  | pauses pause timer reporting => exact fun _ => room (congrArg LoopPhase.inRefusal reporting)
  | ends => exact fun busy => (List.length_filter_le _ _).trans_lt (room busy)
  | still | waits | claims | drains | leaves => exact room
  | stops | queues | draws | withdraws | picksUp | returns | resumes | takes =>
    exact fun busy => absurd busy Bool.false_ne_true

end Books

/-! ## Listeners on duty -/

/-- What holds of a listener along every run: its books are in order, nobody in line is forgotten,
    both halves of the handoff are there, and a failure leaves room for another handshake. -/
structure InService (capacity : Nat) (l : Listener) : Prop where
  serviceable : Serviceable capacity l
  kept : l.handoff.Kept
  halves : l.handoff.flags.2 = (true, true)
  room : l.books.Room capacity

namespace InService

/-- The loop's number is no handshake's. -/
theorem noTask (inService : InService capacity l) : l.tasks.find? loopProducer = none :=
  inService.serviceable.kept.patient.books.once.unused.1

/-- The line is kept by whatever happens. -/
theorem kept_happens (inService : InService capacity l) (happens : Happens S l l') :
    l'.handoff.Kept := by
  have noTask := inService.noTask
  have polled : ∀ {answer : Poll Bool} {handoff : Handoff Outcome},
      l.handoff.pollProducer loopProducer = (answer, handoff) → handoff.Kept := by
    intro answer handoff polled
    have kept := inService.kept.producerPolled (l.handoff.pollProducer_spec loopProducer)
    rw [polled] at kept
    exact kept
  have refused : ∀ socket error, ({ l with socket }.reportRefusal error).handoff.Kept := by
    intro socket error
    have submits : ({ l with socket }.reportRefusal error).handoff =
        l.handoff.submit loopProducer (.error (.accept error)) :=
      congrArg Front.handoff (front_reportRefusal { l with socket } error)
    rw [submits]
    exact inService.kept.submit _ _
  have stopped : ∀ {l₁ : Listener}, l₁.handoff = l.handoff → l₁.stopLoop.handoff.Kept := by
    intro l₁ same
    have hhandoff : l₁.stopLoop.handoff = l₁.handoff := congrArg Front.handoff (front_stopLoop l₁)
    rw [hhandoff, same]
    exact inService.kept
  cases happens with
  | event e =>
    by_cases notLoop : e = .step .loop
    · subst notLoop
      rcases apply_step S l .loop with ⟨_, same⟩ | ⟨l', happly, ⟨step⟩⟩
      · rw [same]
        exact inService.kept
      · rw [happly]
        cases stepLoop_spec step with
        | stops | withdraws | returns => exact stopped rfl
        | refuses error socket => exact refused socket error
        | holds pause handoff _ hpolled => exact polled hpolled
        | pauses pause delivered handoff _ hpolled => exact polled hpolled
        | queues | draws | picksUp | takes | resumes => exact inService.kept
    · exact inService.kept.elsewhere (aside_apply S l notLoop noTask).handoff
  | refuses error socket => exact refused socket error
  | takes => exact inService.kept

theorem happens (inService : InService capacity l) (happens : Happens S l l') :
    InService capacity l' where
  serviceable := inService.serviceable.happens happens
  kept := inService.kept_happens happens
  halves := (frontMove_happens happens).halves.trans inService.halves
  room := inService.room.move inService.serviceable.kept.patient.books.balanced
    (move_happens happens)

theorem opened {identity : Identity} {timeout : Nat} {address : Except SystemError SocketAddress}
    (opened : ofRaw identity capacity timeout address = .ok l) : InService capacity l := by
  have front := front_opened opened
  have handoff : l.handoff = {} := congrArg Front.handoff front
  refine ⟨.opened opened, ?_, ?_, ?_⟩
  · rw [handoff]
    exact .start
  · rw [handoff]
    rfl
  · obtain ⟨_, _, _, rfl⟩ := eq_of_opened opened
    exact fun busy => absurd busy Bool.false_ne_true

theorem isOpen (inService : InService capacity l) (going : l.fired = false) :
    Handoff.Open l.handoff :=
  Handoff.open_iff_flags.2 (Prod.ext going inService.halves)

/-- A loop that hands nothing over has no outcome with the handoff. -/
theorem fresh (inService : InService capacity l) (quiet : l.loop.isReporting = false) :
    l.handoff.producers.find? loopProducer = none := by
  rw [Option.eq_none_iff_forall_ne_some]
  intro outcome found
  rcases inService.serviceable.kept.reporting.owner _ outcome found with ⟨_, loop⟩ | ⟨task, held, _⟩
  · exact absurd (quiet.symm.trans loop) Bool.false_ne_true
  · cases inService.noTask.symm.trans held

end InService

namespace Scene

variable {s : Scene}

/-- What the socket is given by an event. -/
def Event.brought : Event → List (Except SystemError Arrival)
  | .listener e => e.brought
  | _ => []

/-- What the socket is given, one after another. -/
def arrived (events : List Event) : List (Except SystemError Arrival) := events.flatMap Event.brought

/-- A listener that nobody has begun to close. -/
structure OnDuty (capacity : Nat) (s : Scene) : Prop where
  attentive : s.Attentive
  unclosed : s.closings = []
  going : s.listener.fired = false
  isOpen : s.listener.socket.isOpen = true
  inService : InService capacity s.listener

namespace OnDuty

theorem turned_stepLoop (onDuty : OnDuty capacity s) :
    Turned s.listener s.stepLoop.listener [] ∧ s.stepLoop.closings = s.closings := by
  have handoffOpen := onDuty.inService.isOpen onDuty.going
  have fresh : s.listener.loop = .listening →
      s.listener.handoff.producers.find? loopProducer = none := by
    intro listening
    refine onDuty.inService.fresh ?_
    rw [listening]
    rfl
  have turned : ∀ {l'}, LoopStepped s.listener l' → Turned s.listener l' [] :=
    Listener.turned_stepLoop onDuty.going handoffOpen fresh
  have stays : Turned s.listener s.listener [] :=
    .stays [] rfl rfl (Nat.le_refl _)
  unfold stepLoop
  split
  · rename_i looked
    have listening := onDuty.attentive looked
    unfold pollSocket
    split
    · exact ⟨stays, rfl⟩
    · rename_i error socket polled
      exact ⟨turned (.refuses error socket listening onDuty.going polled), rfl⟩
    · rename_i arrival socket polled
      exact ⟨turned (.takes arrival socket listening onDuty.going polled), rfl⟩
  · split
    · exact ⟨stays, rfl⟩
    · refine ⟨?_, rfl⟩
      show Turned s.listener (s.listener.stepLoop.getD s.listener) []
      cases hstep : s.listener.stepLoop with
      | none => exact stays
      | some l' => exact turned (stepLoop_spec hstep)

/-- As long as nobody closes the listener, every event goes one of the ways for the loop. -/
theorem turned (onDuty : OnDuty capacity s) (e : Event)
    (going : (s.apply S e).listener.fired = false) :
    Turned s.listener (s.apply S e).listener e.brought ∧ (s.apply S e).closings = [] := by
  have stays : Turned s.listener s.listener [] :=
    .stays [] rfl rfl (Nat.le_refl _)
  cases e with
  | startClose id => exact absurd going Bool.noConfusion
  | finishClose id =>
    have same : s.apply S (.finishClose id) = s := by
      show s.finishClose id = s
      rw [finishClose, onDuty.unclosed]
      rfl
    rw [same]
    exact ⟨stays, onDuty.unclosed⟩
  | listener e =>
    have noTask := onDuty.inService.noTask
    have others : e ≠ .step .loop → e.isClosing = false →
        s.apply S (.listener e) = { s with listener := s.listener.apply S e } →
        Turned s.listener (s.apply S (.listener e)).listener e.brought ∧
          (s.apply S (.listener e)).closings = [] := by
      intro notLoop notClosing happly
      rw [happly]
      exact ⟨turned_of_others notLoop notClosing noTask, onDuty.unclosed⟩
    cases serving : e.isServing with
    | true =>
      refine others ?_ ?_ (apply_of_serving s serving)
      · rintro rfl
        cases serving
      · cases e <;> first | rfl | cases serving
    | false =>
      cases e with
      | step party =>
        cases party with
        | loop =>
          obtain ⟨turned, closings⟩ := onDuty.turned_stepLoop
          exact ⟨turned, closings.trans onDuty.unclosed⟩
        | _ => cases serving
      | arrive answer => exact others Listener.Event.noConfusion rfl rfl
      | trigger | closeSocket => exact ⟨stays, onDuty.unclosed⟩
      | _ => cases serving

/-- Nothing but closing it takes a listener off duty. -/
theorem apply (onDuty : OnDuty capacity s) (e : Event)
    (going : (s.apply S e).listener.fired = false) : OnDuty capacity (s.apply S e) := by
  obtain ⟨turned, unclosed⟩ := onDuty.turned e going
  obtain ⟨attentive, happens⟩ := happens_apply S onDuty.attentive e
  refine ⟨attentive, unclosed, going, ?_, ?_⟩
  · have polled : ∀ {answer socket}, s.listener.socket.poll = (answer, socket) →
        socket.isOpen = true := by
      intro answer socket polled
      have same := SocketSlot.isOpen_poll s.listener.socket
      rw [polled, onDuty.isOpen] at same
      exact same
    generalize e.brought = brought at turned
    cases turned with
    | stays _ _ socket =>
      rw [socket, SocketSlot.isOpen_pushAll]
      exact onDuty.isOpen
    | takes _ _ answered => exact polled answered
    | refuses _ _ answered => exact polled answered
    | looks _ _ _ _ socket | delivers _ _ _ _ _ socket | resumes _ _ _ _ socket =>
      rw [socket]
      exact onDuty.isOpen
  · rcases happens with same | happens
    · rw [same]
      exact onDuty.inService
    · exact onDuty.inService.happens happens

theorem opened {identity : Identity} {timeout : Nat} {address : Except SystemError SocketAddress}
    (opened : ofRaw identity capacity timeout address = .ok l) :
    OnDuty capacity { listener := l } := by
  have front := front_opened opened
  have socket : l.socket = ⟨some []⟩ := congrArg Front.socket front
  refine ⟨fun looked => absurd looked Bool.false_ne_true, rfl, ?_, ?_, .opened opened⟩
  · exact congrArg (fun f : Front => f.handoff.fired) front
  · exact congrArg SocketSlot.isOpen socket

end OnDuty

/-- A listener that has not been shut down by the end of a run has not been so before. -/
theorem fired_of_run {events : List Event} (going : (s.run S events).listener.fired = false) :
    s.listener.fired = false := by
  induction events generalizing s with
  | nil => exact going
  | cons e events ih =>
    cases fired : s.listener.fired with
    | false => rfl
    | true =>
      have later := (move_apply S s e).fired fired
      exact absurd ((ih going).symm.trans later) Bool.false_ne_true

end Scene

end Listener

end Gatehouse
