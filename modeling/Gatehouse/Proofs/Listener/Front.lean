import Gatehouse.Proofs.Handoff.Shut
import Gatehouse.Proofs.Handoff.Sources
import Gatehouse.Proofs.Listener.Apart

/-!
# The front of a listener

Those who wait for outcomes see little of a listener: the handoff, the socket, how many connections
have been taken and what has been answered (`Front`).  Whatever a party does, at most one thing
happens there (`Front.Move`): a poll, a submission, a call that comes or goes, a connection that is
taken, the socket that is closed.
-/

namespace Gatehouse.Listener

/-- What those who wait for outcomes see of a listener. -/
structure Front where
  handoff : Handoff Outcome
  socket : SocketSlot Arrival
  /-- How many raw connections have been taken. -/
  connections : Nat
  /-- What calls have been answered, the latest first. -/
  answers : List (Nat × Outcome)

/-- The answer that is on record here. -/
def answer? : Happening → Option (Nat × Outcome)
  | .answered call outcome => some (call, outcome)
  | _ => none

/-- What those who wait for outcomes see. -/
def front (l : Listener) : Front where
  handoff := l.handoff
  socket := l.socket
  connections := l.connections
  answers := l.log.filterMap answer?

/-- What handshakes and calls can do at the front. -/
inductive Front.Serve (f : Front) : Front → Prop
  /-- Nothing. -/
  | still : Serve f f
  /-- A call comes. -/
  | asks (call : Nat) : Serve f { f with handoff := f.handoff.request call }
  /-- A call is given up. -/
  | abandons (call : Nat) : Serve f { f with handoff := f.handoff.abandonConsumer call }
  /-- A producer is polled. -/
  | polls (id : Nat) : Serve f { f with handoff := (f.handoff.pollProducer id).2 }
  /-- A handshake submits its outcome.  That is no failure to take a connection. -/
  | submits (id : Nat) (outcome : Outcome) (own : ∀ e, outcome ≠ .error (.accept e)) :
    Serve f { f with handoff := f.handoff.submit id outcome }
  /-- A call has no answer yet. -/
  | waits (call : Nat) (handoff : Handoff Outcome)
      (polled : f.handoff.pollConsumer call = (.pending, handoff)) : Serve f { f with handoff }
  /-- A call is answered with an outcome. -/
  | answers (call : Nat) (outcome : Outcome) (handoff : Handoff Outcome)
      (polled : f.handoff.pollConsumer call = (.ready (some outcome), handoff)) :
    Serve f { f with handoff, answers := (call, outcome) :: f.answers }
  /-- A call learns that the listener is closed. -/
  | closes (call : Nat) (handoff : Handoff Outcome)
      (polled : f.handoff.pollConsumer call = (.ready none, handoff)) :
    Serve f { f with handoff, answers := (call, .error .closed) :: f.answers }

/-- What an event can do at the front. -/
inductive Front.Move (f : Front) : Front → Prop
  /-- What handshakes and calls can do. -/
  | serves {f' : Front} (serve : f.Serve f') : Move f f'
  /-- The socket will answer this. -/
  | arrives (answer : Except SystemError Arrival) :
    Move f { f with socket := f.socket.push answer }
  /-- The shutdown is fired. -/
  | fires : Move f { f with handoff := f.handoff.shut }
  /-- The socket is closed. -/
  | empties : Move f { f with socket := ⟨none⟩ }
  /-- The socket gives a connection. -/
  | takes (arrival : Arrival) (socket : SocketSlot Arrival)
      (polled : f.socket.poll = (.ready (.ok arrival), socket)) :
    Move f { f with socket, connections := f.connections + 1 }
  /-- The socket has failed to give a connection. -/
  | refuses (error : SystemError) (socket : SocketSlot Arrival)
      (polled : f.socket.poll = (.ready (.error error), socket)) :
    Move f { f with
      socket
      handoff := f.handoff.submit loopProducer (.error (.accept error)) }

namespace Front

variable {f f' : Front}

theorem eq_step_of_polled {h : Handoff Outcome} {call : Nat} {answer : Poll (Option Outcome)}
    {handoff : Handoff Outcome} (polled : h.pollConsumer call = (answer, handoff)) :
    handoff = h.step (.pollConsumer call) :=
  (congrArg (·.2) polled).symm

/-- Serving leaves the shutdown alone: it takes one step of the handoff, or none. -/
theorem Serve.step (serve : f.Serve f') :
    f'.handoff = f.handoff ∨ ∃ st ≠ .shut, f'.handoff = f.handoff.step st := by
  cases serve with
  | still => exact .inl rfl
  | asks call => exact .inr ⟨.request call, by simp, rfl⟩
  | abandons call => exact .inr ⟨.abandonConsumer call, by simp, rfl⟩
  | polls id => exact .inr ⟨.pollProducer id, by simp, rfl⟩
  | submits id outcome _ => exact .inr ⟨.submit id outcome, by simp, rfl⟩
  | waits call handoff polled => exact .inr ⟨.pollConsumer call, by simp, eq_step_of_polled polled⟩
  | answers call outcome handoff polled =>
    exact .inr ⟨.pollConsumer call, by simp, eq_step_of_polled polled⟩
  | closes call handoff polled => exact .inr ⟨.pollConsumer call, by simp, eq_step_of_polled polled⟩

theorem Serve.fired (serve : f.Serve f') : f'.handoff.fired = f.handoff.fired := by
  rcases serve.step with hsame | ⟨st, hst, hstep⟩
  · rw [hsame]
  · rw [hstep, Handoff.fired_step f.handoff hst]

theorem Serve.socket (serve : f.Serve f') : f'.socket = f.socket := by cases serve <;> rfl

theorem Serve.connections (serve : f.Serve f') : f'.connections = f.connections := by
  cases serve <;> rfl

/-- Serving reports no failure to take a connection. -/
theorem Serve.refusals (serve : f.Serve f') {k : Nat} {e : SystemError}
    (hmem : .error (.accept e) ∈ f'.handoff.submittedBy k) :
    .error (.accept e) ∈ f.handoff.submittedBy k := by
  have hpolled : ∀ {call answer handoff}, f.handoff.pollConsumer call = (answer, handoff) →
      handoff.submittedBy k = f.handoff.submittedBy k := by
    intro call answer handoff polled
    rw [eq_step_of_polled polled]
    exact (Handoff.quiet_pollConsumer f.handoff call).submitted k
  cases serve with
  | still => exact hmem
  | asks call => exact hmem
  | abandons call => exact (Handoff.quiet_abandonConsumer f.handoff call).submitted k ▸ hmem
  | polls id => exact (Handoff.quiet_pollProducer f.handoff id).submitted k ▸ hmem
  | submits id outcome own =>
    have hmem : _ ∈ (f.handoff.submit id outcome).submittedBy k := hmem
    rw [Handoff.submittedBy_submit] at hmem
    split at hmem
    · exact (List.mem_cons.1 hmem).resolve_left fun heq => own e heq.symm
    · exact hmem
  | waits call handoff polled => exact hpolled polled ▸ hmem
  | answers call outcome handoff polled => exact hpolled polled ▸ hmem
  | closes call handoff polled => exact hpolled polled ▸ hmem

/-- The handoff takes one step, or none. -/
theorem Move.step (move : f.Move f') :
    f'.handoff = f.handoff ∨ ∃ st, f'.handoff = f.handoff.step st := by
  cases move with
  | serves serve => exact serve.step.imp_right fun ⟨st, _, hstep⟩ => ⟨st, hstep⟩
  | arrives _ => exact .inl rfl
  | fires => exact .inr ⟨.shut, rfl⟩
  | empties => exact .inl rfl
  | takes _ _ _ => exact .inl rfl
  | refuses error _ _ => exact .inr ⟨.submit loopProducer (.error (.accept error)), rfl⟩

/-- What a call is answered was with a producer or in the call's slot, and the shutdown had not been
    fired; else it is that the listener is closed. -/
theorem Move.answered (move : f.Move f') {call : Nat} {outcome : Outcome}
    (hmem : (call, outcome) ∈ f'.answers) :
    (call, outcome) ∈ f.answers ∨ outcome = .error .closed ∨
      f.handoff.fired = false ∧ f.handoff.consumers.find? call = some (.filled outcome) := by
  cases move with
  | serves serve =>
    cases serve with
    | answers own given handoff polled =>
      rcases List.mem_cons.1 hmem with hnew | hold
      · cases hnew
        have hpolled := f.handoff.pollConsumer_spec call
        rw [polled] at hpolled
        cases hpolled with
        | returns _ held going => exact .inr (.inr ⟨going, held⟩)
      · exact .inl hold
    | closes own handoff polled =>
      rcases List.mem_cons.1 hmem with hnew | hold
      · cases hnew
        exact .inr (.inl rfl)
      · exact .inl hold
    | _ => exact .inl hmem
  | _ => exact .inl hmem

/-- What is dropped was on hand, and so it had been submitted. -/
theorem Move.spilled (move : f.Move f') (known : f.handoff.Known) {outcome : Outcome}
    (spilled : .spilled outcome ∈ f'.handoff.history) :
    .spilled outcome ∈ f.handoff.history ∨ ∃ id, outcome ∈ f.handoff.submittedBy id := by
  have held : ∀ {id}, f.handoff.producers.find? id = some outcome →
      ∃ id, outcome ∈ f.handoff.submittedBy id :=
    fun found => ⟨_, known.held _ _ (Roster.mem_of_find? found)⟩
  have slotted : ∀ {call}, f.handoff.consumers.find? call = some (.filled outcome) →
      ∃ id, outcome ∈ f.handoff.submittedBy id :=
    fun found => known.slotted _ _ (Roster.mem_of_find? found)
  have submitted : ∀ {id o}, .spilled outcome ∈ (f.handoff.submit id o).history →
      .spilled outcome ∈ f.handoff.history :=
    fun hmem => (List.mem_cons.1 hmem).resolve_left fun h => by cases h
  have polled : ∀ {call answer handoff}, f.handoff.pollConsumer call = (answer, handoff) →
      .spilled outcome ∈ handoff.history →
        .spilled outcome ∈ f.handoff.history ∨ ∃ id, outcome ∈ f.handoff.submittedBy id := by
    intro call answer handoff polled hmem
    have spec := f.handoff.pollConsumer_spec call
    rw [polled] at spec
    exact (Handoff.spilled_consumerPolled spec hmem).imp_right fun ⟨_, found⟩ => slotted found
  cases move with
  | serves serve =>
    cases serve with
    | still | asks => exact .inl spilled
    | abandons call => exact (Handoff.spilled_abandonConsumer spilled).imp_right slotted
    | polls id =>
      exact (Handoff.spilled_producerPolled (f.handoff.pollProducer_spec id) spilled).imp_right
        fun ⟨_, found⟩ => held found
    | submits id o _ => exact .inl (submitted spilled)
    | waits call handoff hpolled => exact polled hpolled spilled
    | answers call o handoff hpolled => exact polled hpolled spilled
    | closes call handoff hpolled => exact polled hpolled spilled
  | arrives | fires | empties | takes => exact .inl spilled
  | refuses error socket _ => exact .inl (submitted spilled)

/-- Whatever calls have been answered was submitted by somebody, but that the listener is closed. -/
structure Sourced (f : Front) : Prop where
  known : f.handoff.Known
  answered : ∀ call outcome, (call, outcome) ∈ f.answers →
    outcome = .error .closed ∨ ∃ k, outcome ∈ f.handoff.submittedBy k

theorem Move.sourced (move : f.Move f') (sourced : f.Sourced) : f'.Sourced := by
  have stays : ∀ {outcome k}, outcome ∈ f.handoff.submittedBy k →
      outcome ∈ f'.handoff.submittedBy k := by
    intro outcome k hk
    rcases move.step with hsame | ⟨st, hst⟩
    · exact hsame ▸ hk
    · exact hst ▸ Handoff.mem_submittedBy_step f.handoff st hk
  refine ⟨?_, fun call outcome hmem => ?_⟩
  · rcases move.step with hsame | ⟨st, hst⟩
    · rw [hsame]
      exact sourced.known
    · rw [hst]
      exact sourced.known.step st
  · rcases move.answered hmem with hold | hclosed | ⟨_, held⟩
    · exact (sourced.answered call outcome hold).imp_right fun ⟨k, hk⟩ => ⟨k, stays hk⟩
    · exact .inl hclosed
    · obtain ⟨k, hk⟩ := sourced.known.slotted call outcome (Roster.mem_of_find? held)
      exact .inr ⟨k, stays hk⟩

end Front

variable {S : Suite} {l l' : Listener} {id : Nat} {task : HandshakeTask}

/-! ## What is nothing to the front -/

theorem socket_onWire (l : Listener) (stream : Nat) (f : Wire → Wire) :
    (l.onWire stream f).socket = l.socket := by
  unfold onWire
  split <;> rfl

theorem socket_closeStream (l : Listener) (stream : Nat) :
    (l.closeStream stream).socket = l.socket :=
  socket_onWire l stream Wire.closeGate

theorem socket_dropOutcome (l : Listener) (outcome : Outcome) :
    (l.dropOutcome outcome).socket = l.socket := by
  cases outcome with
  | ok connection => exact socket_closeStream l connection.stream
  | error _ => rfl

theorem socket_closeSocket (l : Listener) : l.closeSocket.socket = ⟨none⟩ := by
  unfold closeSocket
  rw [SocketSlot.close]
  cases hraw : l.socket.raw with
  | none => exact congrArg SocketSlot.mk hraw
  | some _ => rfl

/-- The core and the socket are all that is seen from the front. -/
theorem front_congr (core : l'.core = l.core) (socket : l'.socket = l.socket) :
    l'.front = l.front := by
  have hanswers : ∀ l : Listener, l.front.answers = l.core.record.filterMap answer? := by
    intro l
    refine (filterMap_record (fun h passing => ?_) l).symm
    cases h <;> first | rfl | cases passing
  have hhandoff : l'.handoff = l.handoff := congrArg Core.handoff core
  have hconnections : l'.connections = l.connections := congrArg Core.connections core
  have hsame : l'.front.answers = l.front.answers := by rw [hanswers, hanswers, core]
  show Front.mk l'.handoff l'.socket l'.connections l'.front.answers = l.front
  rw [hhandoff, hconnections, hsame, socket]
  rfl

theorem front_closeStream (l : Listener) (stream : Nat) : (l.closeStream stream).front = l.front :=
  front_congr (core_closeStream l stream) (socket_closeStream l stream)

theorem front_dropOutcome (l : Listener) (outcome : Outcome) :
    (l.dropOutcome outcome).front = l.front :=
  front_congr (core_dropOutcome l outcome) (socket_dropOutcome l outcome)

theorem front_onWire (l : Listener) (stream : Nat) (f : Wire → Wire) :
    (l.onWire stream f).front = l.front :=
  front_congr (core_onWire l stream f) (socket_onWire l stream f)

/-- Closing the socket is seen as such. -/
theorem front_closeSocket (l : Listener) :
    l.closeSocket.front = { l.front with socket := ⟨none⟩ } := by
  have hcore : l.closeSocket.core = { l with socket := ⟨none⟩ : Listener }.core := core_closeSocket l
  exact front_congr hcore (socket_closeSocket l)

theorem front_stopLoop (l : Listener) : l.stopLoop.front = { l.front with socket := ⟨none⟩ } :=
  front_closeSocket l

theorem front_of_dropped {Held : Outcome → Prop}
    (dropped : l' = l ∨ ∃ outcome, Held outcome ∧ l' = l.dropOutcome outcome) :
    l'.front = l.front := by
  rcases dropped with rfl | ⟨outcome, _, rfl⟩
  · rfl
  · exact front_dropOutcome l outcome

/-! ## The handshakes -/

theorem front_submitOutcome (l : Listener) (id : Nat) (task : HandshakeTask) (outcome : Outcome) :
    (l.submitOutcome id task outcome).front =
      { l.front with handoff := l.front.handoff.submit id outcome } :=
  rfl

theorem front_endTask (l : Listener) (id : Nat) : (l.endTask id).front = l.front := rfl

theorem frontServe_failActs {failure : Failure} (same : l'.front = l.front)
    (own : ∀ e, failure ≠ .accept e) : l.front.Serve (l'.failActs id task failure).front := by
  have hrejected : (l'.rejectActs id task failure).front = l.front :=
    (front_closeStream l' task.stream).trans same
  rcases failActs_cases l' id task failure with ⟨_, heq⟩ | ⟨_, heq⟩
  · rw [heq, front_endTask, hrejected]
    exact .still
  · rw [heq, front_submitOutcome, hrejected]
    exact .submits id _ fun e heq => own e (Except.error.inj heq)

theorem frontServe_succeedActs {machine : Machine} {remote : PublicKey}
    (same : l'.front = l.front) :
    l.front.Serve (l'.succeedActs id task machine remote).front := by
  unfold succeedActs
  simp only
  rw [front_submitOutcome, ← same]
  exact .submits id _ (by simp)

theorem frontServe_polled {answer : Poll Bool} {handoff : Handoff Outcome}
    (polled : l.handoff.pollProducer id = (answer, handoff)) :
    l.front.Serve { l with handoff : Listener }.front := by
  have hserve : l.front.Serve { l.front with handoff := (l.front.handoff.pollProducer id).2 } :=
    .polls id
  have hhandoff : (l.front.handoff.pollProducer id).2 = handoff := congrArg (·.2) polled
  rw [hhandoff] at hserve
  exact hserve

theorem frontServe_stepTask (stepped : TaskStepped S l id task (l.sight task) l') :
    l.front.Serve l'.front := by
  generalize hsight : l.sight task = sight at stepped
  cases stepped with
  | aborts spawned fired =>
    rw [front_closeStream]
    exact .still
  | begins spawned going => exact .still
  | shut inActs fired => exact frontServe_failActs rfl (fun e => Failure.noConfusion)
  | breaks failure wires inActs going =>
    refine frontServe_failActs rfl (fun e heq => ?_)
    rw [heq] at hsight
    cases isFault_of_sight hsight
  | readsOne => exact .still
  | takesOne machine got bytes timer wire inward act _ _ _ _ _ =>
    rcases takeActOne_cases (l.withWire task.stream { wire with inward }) id task machine act with
      ⟨e, m, _, htake⟩ | ⟨m₁, _, ⟨e, m₂, _, htake⟩ | ⟨two, m₂, _, htake⟩⟩
    · rw [htake]
      exact frontServe_failActs rfl (fun e => Failure.noConfusion)
    · rw [htake]
      exact frontServe_failActs rfl (fun e => Failure.noConfusion)
    · rw [htake]
      exact .still
  | writes => exact .still
  | awaits => exact .still
  | readsThree => exact .still
  | takesThree machine got bytes timer wire inward act _ _ _ _ _ =>
    rcases takeActThree_cases (l.withWire task.stream { wire with inward }) id task machine act with
      ⟨e, m, _, htake⟩ | ⟨m, _, ⟨_, htake⟩ | ⟨remote, _, htake⟩⟩
    · rw [htake]
      exact frontServe_failActs rfl (fun e => Failure.noConfusion)
    · rw [htake]
      exact frontServe_failActs rfl (fun e => Failure.noConfusion)
    · rw [htake]
      exact frontServe_succeedActs rfl
  | holds handoff _ polled => exact frontServe_polled polled
  | delivers handoff _ polled => exact frontServe_polled polled
  | drops outcome handoff _ _ polled =>
    have hfront : (({ l with handoff : Listener }.dropOutcome outcome).endTask id).front =
        { l with handoff : Listener }.front := front_dropOutcome _ outcome
    rw [hfront]
    exact frontServe_polled polled

/-! ## The accept loop -/

/-- A failure to take a connection is submitted. -/
theorem front_reportRefusal (l : Listener) (error : SystemError) :
    (l.reportRefusal error).front =
      { l.front with handoff := l.handoff.submit loopProducer (.error (.accept error)) } := by
  rcases hpause : l.backoff.recordFailure l.chance with ⟨⟨range, length⟩, backoff, chance⟩
  unfold reportRefusal
  simp only [hpause]
  cases range <;> rfl

theorem frontMove_stepLoop (stepped : LoopStepped l l') : l.front.Move l'.front := by
  cases stepped with
  | stops idle fired =>
    rw [front_stopLoop]
    exact .empties
  | queues seeking going unmet => exact .serves .still
  | draws seeking going met => exact .serves .still
  | withdraws queued fired =>
    rw [front_stopLoop]
    exact .empties
  | picksUp queued going met => exact .serves .still
  | returns listening fired =>
    rw [front_stopLoop]
    exact .empties
  | refuses error socket listening going polled =>
    rw [front_reportRefusal]
    exact .refuses error socket polled
  | takes arrival socket listening going polled =>
    exact .takes arrival socket polled
  | holds pause handoff reporting polled => exact .serves (frontServe_polled polled)
  | pauses pause delivered handoff reporting polled => exact .serves (frontServe_polled polled)
  | resumes timer pausing going elapsed => exact .serves .still

/-- Where the accept loop does not poll the socket, it closes it once the shutdown has been fired, or
    lets it be. -/
theorem front_stepLoop_of_not_listening (stepped : LoopStepped l l')
    (elsewhere : ¬ (l.loop = .listening ∧ l.fired = false)) :
    l.front.Serve l'.front ∨ l.fired = true ∧ l'.front = { l.front with socket := ⟨none⟩ } := by
  cases stepped with
  | stops idle fired => exact .inr ⟨fired, front_stopLoop l⟩
  | queues seeking going unmet => exact .inl .still
  | draws seeking going met => exact .inl .still
  | withdraws queued fired => exact .inr ⟨fired, front_stopLoop _⟩
  | picksUp queued going met => exact .inl .still
  | returns listening fired => exact .inr ⟨fired, front_stopLoop _⟩
  | refuses error socket listening going polled => exact absurd ⟨listening, going⟩ elsewhere
  | takes arrival socket listening going polled => exact absurd ⟨listening, going⟩ elsewhere
  | holds pause handoff reporting polled => exact .inl (frontServe_polled polled)
  | pauses pause delivered handoff reporting polled => exact .inl (frontServe_polled polled)
  | resumes timer pausing going elapsed => exact .inl .still

/-! ## Calls -/

theorem frontServe_stepCall {call : Nat} (stepped : CallStepped l call l') : l.front.Serve l'.front := by
  cases stepped with
  | waits handoff polled => exact .waits call handoff polled
  | answers outcome handoff polled => exact .answers call outcome handoff polled
  | closes handoff l₁ polled dropped =>
    have hfront : l₁.front = { l with handoff : Listener }.front := front_of_dropped dropped
    have hnote : (l₁.note (.answered call (.error .closed))).front =
        { l₁.front with answers := (call, .error .closed) :: l₁.front.answers } := rfl
    rw [hnote, hfront]
    exact .closes call handoff polled

/-- Once the shutdown has been fired, every call that is there is told so at its next turn. -/
theorem stepCall_of_fired (fired : l.fired = true) {call : Nat} {consumer : Consumer Outcome}
    (held : l.handoff.consumers.find? call = some consumer) :
    ∃ l', l.stepCall call = some l' ∧
      l'.front.answers = (call, .error .closed) :: l.front.answers := by
  have hpolled : (l.handoff.pollConsumer call).1 = .ready none :=
    congrArg (·.1) (Handoff.pollConsumer_of_fired fired held)
  have hrunnable : l.handoff.consumerRunnable call = true := by
    have hfired : l.handoff.fired = true := fired
    rw [Handoff.consumerRunnable, held]
    cases consumer with
    | waiting =>
      show (l.handoff.fired || !l.handoff.senderAlive) = true
      rw [hfired, Bool.true_or]
    | _ => rfl
  cases hstep : l.stepCall call with
  | none =>
    unfold stepCall at hstep
    rw [if_pos hrunnable] at hstep
    simp only at hstep
    split at hstep <;> cases hstep
  | some l' =>
    refine ⟨l', rfl, ?_⟩
    cases stepCall_spec hstep with
    | waits handoff polled =>
      rw [polled] at hpolled
      cases hpolled
    | answers outcome handoff polled =>
      rw [polled] at hpolled
      cases hpolled
    | closes handoff l₁ polled dropped =>
      have hfront : l₁.front = { l with handoff : Listener }.front := front_of_dropped dropped
      exact congrArg (fun f : Front => (call, .error .closed) :: f.answers) hfront

theorem frontServe_abandonCall (l : Listener) (call : Nat) :
    l.front.Serve (l.abandonCall call).front := by
  have hfront : (l.abandonCall call).front =
      { l with handoff := l.handoff.abandonConsumer call : Listener }.front := by
    unfold abandonCall
    simp only
    split
    · exact front_dropOutcome _ _
    · rfl
  rw [hfront]
  exact .abandons call

theorem front_stepDrain {drain : Nat} (stepped : DrainStepped l drain l') :
    l'.front = l.front := by
  cases stepped with
  | asks _ _ => rfl
  | drains _ _ => rfl

/-! ## Every event -/

/-- Is this an event that has nothing to do with the socket or the shutdown? -/
def Event.isServing : Event → Bool
  | .step .loop | .trigger | .closeSocket | .arrive _ => false
  | _ => true

theorem frontServe_apply (S : Suite) (l : Listener) {e : Event} (serving : e.isServing = true) :
    l.front.Serve (l.apply S e).front := by
  cases e with
  | step party =>
    rcases apply_step S l party with ⟨_, same⟩ | ⟨l', happly, taken⟩
    · rw [same]
      exact .still
    · rw [happly]
      cases taken with
      | loop _ => cases serving
      | task task held step => exact frontServe_stepTask (stepTask_spec held step)
      | call step => exact frontServe_stepCall (stepCall_spec step)
      | drain step =>
        rw [front_stepDrain (stepDrain_spec step)]
        exact .still
  | startCall call => exact .asks call
  | abandonCall call => exact frontServe_abandonCall l call
  | trigger => cases serving
  | closeSocket => cases serving
  | arrive answer => cases serving
  | wire stream change =>
    rw [apply, front_onWire]
    exact .still
  | startDrain _ | abandonDrain _ | newStream _ | advance _ | chance _ => exact .still

/-- Whatever happens, at most one thing happens at the front. -/
theorem frontMove_apply (S : Suite) (l : Listener) (e : Event) :
    l.front.Move (l.apply S e).front := by
  cases serving : e.isServing with
  | true => exact .serves (frontServe_apply S l serving)
  | false =>
    cases e with
    | step party =>
      cases party with
      | loop =>
        rcases apply_step S l .loop with ⟨_, same⟩ | ⟨l', happly, ⟨step⟩⟩
        · rw [same]
          exact .serves .still
        · rw [happly]
          exact frontMove_stepLoop (stepLoop_spec step)
      | _ => cases serving
    | trigger => exact .fires
    | closeSocket =>
      rw [apply, front_closeSocket]
      exact .empties
    | arrive answer => exact .arrives answer
    | _ => cases serving

theorem sourced_run (S : Suite) {l : Listener} (sourced : l.front.Sourced) (events : List Event) :
    (l.run S events).front.Sourced :=
  run_induction (P := fun l => l.front.Sourced) sourced
    (fun l e sourced => (frontMove_apply S l e).sourced sourced) events

/-- A listener that has just been opened: nothing has come, and the socket is there. -/
theorem front_opened {identity : Identity} {capacity timeout : Nat}
    {address : Except SystemError SocketAddress}
    (opened : ofRaw identity capacity timeout address = .ok l) :
    l.front = { handoff := {}, socket := ⟨some []⟩, connections := 0, answers := [] } := by
  obtain ⟨_, _, _, rfl⟩ := eq_of_opened opened
  rfl

theorem settings_opened {identity : Identity} {capacity timeout : Nat}
    {address : Except SystemError SocketAddress}
    (opened : ofRaw identity capacity timeout address = .ok l) :
    ∃ bound, address = .ok bound ∧
      l.settings = { identity, capacity, timeout, address := bound } := by
  obtain ⟨_, bound, haddress, rfl⟩ := eq_of_opened opened
  exact ⟨bound, haddress, rfl⟩

theorem identity_opened {identity : Identity} {capacity timeout : Nat}
    {address : Except SystemError SocketAddress}
    (opened : ofRaw identity capacity timeout address = .ok l) :
    l.settings.identity = identity := by
  obtain ⟨_, _, settings⟩ := settings_opened opened
  rw [settings]

theorem sourced_opened {identity : Identity} {capacity timeout : Nat}
    {address : Except SystemError SocketAddress}
    (opened : ofRaw identity capacity timeout address = .ok l) : l.front.Sourced := by
  rw [front_opened opened]
  exact ⟨.start, fun _ _ hmem => absurd hmem List.not_mem_nil⟩

end Gatehouse.Listener
