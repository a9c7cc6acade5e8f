import Gatehouse.Proofs.Listener.Deeds
import Gatehouse.Proofs.Listener.Lines

/-!
# Whose stream it is

A stream that comes up only once, with one raw connection, belongs to that connection alone (`Sole`):
before the connection is taken nobody touches its stream, and afterwards only its own handshake does,
or whoever was given the secured connection (`Sole.of_touches`).
-/

namespace Gatehouse

namespace SocketSlot

variable {α : Type} {s s' : SocketSlot α}

/-- What comes to the socket waits behind everything else, unless the socket is closed. -/
theorem waiting_push (s : SocketSlot α) (answer : Except SystemError α) :
    (s.push answer).waiting = s.waiting ++ (s.push answer).waiting.drop s.waiting.length ∧
      ∀ a ∈ (s.push answer).waiting.drop s.waiting.length, answer = .ok a := by
  obtain ⟨_ | raw⟩ := s
  · exact ⟨rfl, fun _ hmem => absurd hmem List.not_mem_nil⟩
  · have hpush : (push ⟨some raw⟩ answer).waiting =
        (⟨some raw⟩ : SocketSlot α).waiting ++ (⟨some [.ready answer]⟩ : SocketSlot α).waiting :=
      List.filterMap_append
    rw [hpush, List.drop_left]
    refine ⟨rfl, fun a hmem => ?_⟩
    cases answer with
    | ok b =>
      cases List.mem_singleton.1 hmem
      rfl
    | error e => cases hmem

theorem waiting_poll_ok {a : α} (polled : s.poll = (.ready (.ok a), s')) :
    s.waiting = a :: s'.waiting := by
  obtain ⟨_ | _ | ⟨answer, answers⟩⟩ := s
  · cases polled
  · cases polled
  · cases polled
    rfl

theorem waiting_poll_error {e : SystemError} (polled : s.poll = (.ready (.error e), s')) :
    s'.waiting = s.waiting := by
  obtain ⟨_ | _ | ⟨answer, answers⟩⟩ := s
  · cases polled
    rfl
  · cases polled
  · cases polled
    rfl

end SocketSlot

namespace Listener

variable {S : Suite} {l l' : Listener} {id stream : Nat} {owner : Option Nat} {e : Event}

/-- How many connections on this stream wait in the socket. -/
def queued (l : Listener) (stream : Nat) : Nat :=
  l.socket.waiting.countP fun arrival => arrival.stream = stream

/-- Does an event bring up a stream from outside? -/
def Event.Names (stream : Nat) : Event → Prop
  | .arrive (.ok arrival) => arrival.stream = stream
  | .newStream k => k = stream
  | .wire k _ => k = stream
  | _ => False

theorem waits_of_queued (waits : l.Waits stream) : 0 < l.queued stream := by
  obtain ⟨arrival, hmem, heq⟩ := waits
  exact List.countP_pos_iff.2 ⟨arrival, hmem, decide_eq_true heq⟩

theorem queued_stepLoop (stepped : LoopStepped l l') : l'.queued stream ≤ l.queued stream := by
  have emptied : ∀ {l₁ l : Listener}, l₁.front = { l.front with socket := ⟨none⟩ } →
      l₁.queued stream ≤ l.queued stream := by
    intro l₁ l hfront
    have hsocket : l₁.socket = ⟨none⟩ := congrArg Front.socket hfront
    rw [queued, hsocket]
    exact Nat.zero_le _
  cases stepped with
  | stops => exact emptied (front_stopLoop l)
  | withdraws => exact emptied (front_stopLoop { l with pool := l.pool.withdraw .loop })
  | returns => exact emptied (front_stopLoop l.releaseLoopToken)
  | refuses error socket _ _ polled =>
    have hsocket : ({ l with socket }.reportRefusal error).socket = socket :=
      congrArg Front.socket (front_reportRefusal _ error)
    rw [queued, hsocket, SocketSlot.waiting_poll_error polled]
    exact Nat.le_refl _
  | takes arrival socket _ _ polled =>
    show socket.waiting.countP _ ≤ l.socket.waiting.countP _
    rw [SocketSlot.waiting_poll_ok polled, List.countP_cons]
    exact Nat.le_add_right _ _
  | queues | draws | picksUp | holds | pauses | resumes => exact Nat.le_refl _

/-- Nobody comes to wait on a stream that is not brought up. -/
theorem queued_apply (S : Suite) (l : Listener) (quiet : ¬ e.Names stream) :
    (l.apply S e).queued stream ≤ l.queued stream := by
  have same : ∀ {l₁ : Listener}, l₁.socket = l.socket → l₁.queued stream ≤ l.queued stream := by
    intro l₁ hsocket
    rw [queued, hsocket]
    exact Nat.le_refl _
  cases serving : e.isServing with
  | true => exact same (frontServe_apply S l serving).socket
  | false =>
    cases e with
    | step party =>
      cases party with
      | loop =>
        rcases apply_step S l .loop with ⟨_, same⟩ | ⟨l', happly, ⟨step⟩⟩
        · rw [same]
        · rw [happly]
          exact queued_stepLoop (stepLoop_spec step)
      | _ => cases serving
    | trigger => exact Nat.le_refl _
    | closeSocket =>
      rw [apply, queued, socket_closeSocket]
      exact Nat.zero_le _
    | arrive answer =>
      obtain ⟨happend, hnew⟩ := SocketSlot.waiting_push l.socket answer
      show (l.socket.push answer).waiting.countP _ ≤ _
      rw [happend, List.countP_append]
      have hnone : ((l.socket.push answer).waiting.drop l.socket.waiting.length).countP
          (fun arrival => arrival.stream = stream) = 0 := by
        refine List.countP_eq_zero.2 fun arrival hmem heq => quiet ?_
        rw [hnew arrival hmem]
        show arrival.stream = stream
        exact of_decide_eq_true heq
      rw [hnone]
      exact Nat.le_refl _
    | _ => cases serving

/-! ## What is on record -/

/-- Nobody fires the shutdown by serving, or drops a half of the handoff. -/
theorem Front.Serve.flags {f f' : Front} (serve : f.Serve f') :
    f'.handoff.flags = f.handoff.flags := by
  have polled : ∀ {call answer handoff}, f.handoff.pollConsumer call = (answer, handoff) →
      handoff.flags = f.handoff.flags := by
    intro call answer handoff polled
    have spec := f.handoff.pollConsumer_spec call
    rw [polled] at spec
    exact Handoff.flags_consumerPolled spec
  cases serve with
  | still => rfl
  | asks call => rfl
  | abandons call => exact Handoff.flags_abandonConsumer f.handoff call
  | polls id => exact Handoff.flags_producerPolled (f.handoff.pollProducer_spec id)
  | submits id outcome own => rfl
  | waits call handoff h => exact polled h
  | answers call outcome handoff h => exact polled h
  | closes call handoff h => exact polled h

/-- Both halves of the handoff remain, whatever happens. -/
theorem Front.Move.halves {f f' : Front} (move : f.Move f') :
    f'.handoff.flags.2 = f.handoff.flags.2 := by
  cases move with
  | serves serve => rw [serve.flags]
  | arrives | fires | empties | takes | refuses => rfl

theorem Front.Move.connections {f f' : Front} (move : f.Move f') :
    f.connections ≤ f'.connections := by
  cases move with
  | serves serve => rw [serve.connections]
  | takes => exact Nat.le_succ _
  | arrives | fires | empties | refuses => exact Nat.le_refl _

theorem fired_stepLoop (stepped : LoopStepped l l') : l'.fired = l.fired := by
  have stopped : ∀ l : Listener, l.stopLoop.fired = l.fired := fun l =>
    congrArg (fun f : Front => f.handoff.fired) (front_stopLoop l)
  have polled : ∀ {answer : Poll Bool} {handoff : Handoff Outcome},
      l.handoff.pollProducer loopProducer = (answer, handoff) → handoff.fired = l.handoff.fired :=
    fun polled => (frontServe_polled polled).fired
  cases stepped with
  | stops => exact stopped l
  | withdraws => exact stopped { l with pool := l.pool.withdraw .loop }
  | returns => exact stopped l.releaseLoopToken
  | refuses error socket =>
    exact congrArg (fun f : Front => f.handoff.fired) (front_reportRefusal { l with socket } error)
  | holds pause handoff _ h => exact polled h
  | pauses pause delivered handoff _ h => exact polled h
  | queues | draws | picksUp | takes | resumes => rfl

/-- Only one event fires the shutdown. -/
theorem fired_apply (S : Suite) (l : Listener) (quiet : e ≠ .trigger) :
    (l.apply S e).fired = l.fired := by
  cases serving : e.isServing with
  | true => exact (frontServe_apply S l serving).fired
  | false =>
    cases e with
    | step party =>
      cases party with
      | loop =>
        rcases apply_step S l .loop with ⟨_, same⟩ | ⟨l', happly, ⟨step⟩⟩
        · rw [same]
        · rw [happly]
          exact fired_stepLoop (stepLoop_spec step)
      | _ => cases serving
    | trigger => exact absurd rfl quiet
    | closeSocket => exact congrArg (fun f : Front => f.handoff.fired) (front_closeSocket l)
    | arrive answer => rfl
    | _ => cases serving

/-- Connections that have been taken have numbers of their own, up to the last one. -/
structure Numbered (l : Listener) : Prop where
  old : ∀ k stream, .taken k stream ∈ l.log → l.Taken k
  unique : ∀ k stream stream', .taken k stream ∈ l.log → .taken k stream' ∈ l.log →
    stream = stream'

theorem Numbered.apply (S : Suite) (numbered : Numbered l) (e : Event) :
    Numbered (l.apply S e) := by
  by_cases new : ∃ k stream, .taken k stream ∈ (l.apply S e).log ∧ .taken k stream ∉ l.log
  · obtain ⟨k, stream, now, before⟩ := new
    obtain ⟨arrival, socket, _, _, happly, _, _⟩ := (spawned_of_taken now).resolve_left before
    rw [happly]
    have cases_ : ∀ {k stream}, .taken k stream ∈ ({ l with socket }.spawnTask arrival).log →
        k = l.connections + 1 ∧ stream = arrival.stream ∨ .taken k stream ∈ l.log := by
      intro k stream hmem
      exact (List.mem_cons.1 hmem).imp_left fun heq => Happening.taken.inj heq
    refine ⟨fun k stream hmem => ?_, fun k stream stream' hmem hmem' => ?_⟩
    · rcases cases_ hmem with ⟨rfl, _⟩ | hold
      · exact ⟨Nat.le_add_left 1 _, Nat.le_refl _⟩
      · exact ⟨(numbered.old k stream hold).1, Nat.le_succ_of_le (numbered.old k stream hold).2⟩
    · rcases cases_ hmem with ⟨rfl, rfl⟩ | hold
      · rcases cases_ hmem' with ⟨_, rfl⟩ | hold'
        · rfl
        · exact absurd (numbered.old _ _ hold').2 (Nat.not_succ_le_self _)
      · rcases cases_ hmem' with ⟨rfl, _⟩ | hold'
        · exact absurd (numbered.old _ _ hold).2 (Nat.not_succ_le_self _)
        · exact numbered.unique k stream stream' hold hold'
  · have same : ∀ {k stream}, .taken k stream ∈ (l.apply S e).log → .taken k stream ∈ l.log := by
      intro k stream hmem
      by_contra before
      exact new ⟨k, stream, hmem, before⟩
    have grows : l.connections ≤ (l.apply S e).connections := (frontMove_apply S l e).connections
    exact ⟨fun k stream hmem => (numbered.old k stream (same hmem)).imp_right (·.trans grows),
      fun k stream stream' hmem hmem' => numbered.unique k stream stream' (same hmem) (same hmem')⟩

/-- What is known of a listener along every run from its opening. -/
structure Orderly (S : Suite) (l : Listener) : Prop where
  sourced : l.front.Sourced
  told : ∀ id, ∃ t, Told S id l t
  staged : ∀ id, ∃ ds, Stage id l ds
  numbered : Numbered l
  halves : l.handoff.flags.2 = (true, true)

/-- A listener that has just been opened has no log and no streams. -/
theorem blank_opened {identity : Identity} {capacity timeout : Nat}
    {address : Except SystemError SocketAddress}
    (opened : ofRaw identity capacity timeout address = .ok l) : l.log = [] ∧ l.wires = [] := by
  obtain ⟨_, _, _, rfl⟩ := eq_of_opened opened
  exact ⟨rfl, rfl⟩

theorem orderly_opened (S : Suite) {identity : Identity} {capacity timeout : Nat}
    {address : Except SystemError SocketAddress} {l₀ : Listener}
    (opened : ofRaw identity capacity timeout address = .ok l₀) : Orderly S l₀ where
  sourced := sourced_opened opened
  told := fun id => ⟨{}, told_opened opened id⟩
  staged := fun id => ⟨_, stage_opened S opened [] id⟩
  numbered := by
    have none : ∀ k stream, .taken k stream ∉ l₀.log := by
      rw [(blank_opened opened).1]
      exact fun _ _ => List.not_mem_nil
    exact ⟨fun k stream hmem => absurd hmem (none k stream),
      fun k stream _ hmem => absurd hmem (none k stream)⟩
  halves := congrArg (fun f : Front => f.handoff.flags.2) (front_opened opened)

namespace Orderly

theorem apply (orderly : Orderly S l) (e : Event) : Orderly S (l.apply S e) where
  sourced := (frontMove_apply S l e).sourced orderly.sourced
  told := by
    obtain ⟨ts, told⟩ := Classical.skolem.1 orderly.told
    exact fun id => ⟨_, told_apply told e id⟩
  staged := by
    intro id
    obtain ⟨ds, stage⟩ := orderly.staged id
    exact ⟨_, stage.apply orderly.sourced.known (orderly.told id) e⟩
  numbered := orderly.numbered.apply S e
  halves := (frontMove_apply S l e).halves.trans orderly.halves

theorem run (orderly : Orderly S l) (events : List Event) : Orderly S (l.run S events) :=
  run_induction orderly (fun _ e orderly => orderly.apply e) events

/-- What is done with a stream changes nothing about that. -/
theorem onWire (orderly : Orderly S l) (stream : Nat) (f : Wire → Wire) :
    Orderly S (l.onWire stream f) := by
  have front : (l.onWire stream f).front = l.front := front_onWire l stream f
  have handoff : (l.onWire stream f).handoff = l.handoff := congrArg Front.handoff front
  have connections : (l.onWire stream f).connections = l.connections :=
    congrArg Front.connections front
  have log : (l.onWire stream f).log = l.log := log_onWire l stream f
  have taken : ∀ k, (l.onWire stream f).Taken k ↔ l.Taken k := fun k => by
    rw [Taken, Taken, connections]
  have apart : ∀ id, Apart id l (l.onWire stream f) := fun id =>
    apart_of_core (core_onWire l stream f)
  refine ⟨?_, fun id => ?_, fun id => ?_, ⟨?_, ?_⟩, ?_⟩
  · rw [front]
    exact orderly.sourced
  · obtain ⟨t, told⟩ := orderly.told id
    exact ⟨t, told.apart (apart id)⟩
  · obtain ⟨ds, stage⟩ := orderly.staged id
    exact ⟨ds, stage.apart (apart id) (by rw [handoff])⟩
  · rw [log]
    exact fun k stream hmem => (taken k).2 (orderly.numbered.old k stream hmem)
  · rw [log]
    exact orderly.numbered.unique
  · rw [handoff]
    exact orderly.halves

theorem isOpen (orderly : Orderly S l) (unfired : l.fired = false) : Handoff.Open l.handoff :=
  Handoff.open_iff_flags.2 (Prod.ext unfired orderly.halves)

/-- A handshake's stream is on record with its connection. -/
theorem noted (orderly : Orderly S l) {task : HandshakeTask}
    (held : l.tasks.find? id = some task) : .taken id task.stream ∈ l.log := by
  have present : l.tasks.find? id ≠ none := by
    rw [held]
    exact Option.some_ne_none task
  obtain ⟨ds, stage⟩ := orderly.staged id
  cases stage with
  | spawned task' unsettled =>
    obtain rfl : task' = task := Option.some.inj (unsettled.held.symm.trans held)
    exact unsettled.noted
  | acting task' unsettled =>
    obtain rfl : task' = task := Option.some.inj (unsettled.held.symm.trans held)
    exact unsettled.noted
  | reporting task' outcome taken held' phase_eq noted =>
    obtain rfl : task' = task := Option.some.inj (held'.symm.trans held)
    exact noted
  | untaken _ absent => exact absurd absent present
  | unbegun _ _ absent => exact absurd absent present
  | ended _ _ absent _ _ => exact absurd absent present

/-- So is the stream of a connection that was submitted. -/
theorem submitted (orderly : Orderly S l) {connection : SecuredConnection}
    (submitted : .ok connection ∈ l.handoff.submittedBy id) :
    .taken id connection.stream ∈ l.log := by
  obtain ⟨t, told⟩ := orderly.told id
  by_cases taken : l.Taken id
  · exact ((oneOutcome_of_told told taken).secured connection submitted).2.2.2
  · obtain ⟨_, e, heq⟩ := told.failures taken submitted
    cases heq

end Orderly

/-! ## Sole owners -/

/-- At most one connection is on a stream: it waits in the socket, or it has been taken under this
    number. -/
structure Sole (l : Listener) (stream : Nat) (owner : Option Nat) : Prop where
  named : ∀ k, .taken k stream ∈ l.log ↔ owner = some k
  single : l.queued stream + owner.toList.length ≤ 1

namespace Sole

/-- Along every event the owner remains, or the connection that has waited is taken. -/
theorem apply (S : Suite) (sole : Sole l stream owner) (quiet : ¬ e.Names stream) :
    Sole (l.apply S e) stream owner ∨
      owner = none ∧ e = .step .loop ∧ Sole (l.apply S e) stream (some (l.connections + 1)) := by
  by_cases new : ∃ k, .taken k stream ∈ (l.apply S e).log ∧ .taken k stream ∉ l.log
  · obtain ⟨k, now, before⟩ := new
    obtain ⟨arrival, socket, loop, polled, happly, rfl, rfl⟩ :=
      (spawned_of_taken now).resolve_left before
    have hqueued : l.queued arrival.stream =
        socket.waiting.countP (fun a => a.stream = arrival.stream) + 1 := by
      rw [queued, SocketSlot.waiting_poll_ok polled, List.countP_cons, decide_eq_true rfl]
      rfl
    have single := sole.single
    rw [hqueued] at single
    obtain rfl : owner = none := by
      cases owner with
      | none => rfl
      | some k =>
        have hlength : (some k).toList.length = 1 := rfl
        omega
    refine .inr ⟨rfl, loop, ?_⟩
    rw [happly]
    refine ⟨fun k => ⟨fun hmem => ?_, fun heq => ?_⟩, ?_⟩
    · rcases List.mem_cons.1 hmem with hnew | hold
      · rw [(Happening.taken.inj hnew).1]
      · cases (sole.named k).1 hold
    · cases heq
      exact List.mem_cons_self
    · show socket.waiting.countP (fun a => a.stream = arrival.stream) + 1 ≤ 1
      have hnone : (none : Option Nat).toList.length = 0 := rfl
      omega
  · refine .inl ⟨fun k => ⟨fun now => ?_, fun heq => ?_⟩, ?_⟩
    · by_contra other
      exact new ⟨k, now, fun before => other ((sole.named k).1 before)⟩
    · obtain ⟨news, log, _⟩ := wrote_apply S l e
      rw [log]
      exact List.mem_append_right _ ((sole.named k).2 heq)
    · have hle := queued_apply S l quiet
      have single := sole.single
      omega

/-- The owner's handshake is on the stream. -/
theorem stream_eq (orderly : Orderly S l) (sole : Sole l stream (some id)) {task : HandshakeTask}
    (held : l.tasks.find? id = some task) : task.stream = stream :=
  orderly.numbered.unique id _ _ (orderly.noted held) ((sole.named id).2 rfl)

/-- Who was given a connection on the stream was given the owner's. -/
theorem of_given (orderly : Orderly S l) (sole : Sole l stream owner) {call : Nat}
    (given : l.Given call stream) :
    ∃ id connection, owner = some id ∧ .ok connection ∈ l.handoff.submittedBy id ∧
      connection.stream = stream := by
  obtain ⟨connection, filled, rfl⟩ := given
  obtain ⟨k, submitted⟩ := orderly.sourced.known.slotted call _ (Roster.mem_of_find? filled)
  exact ⟨k, connection, (sole.named k).1 (orderly.submitted submitted), submitted, rfl⟩

/-- Who touches a stream is the handshake of its owner, or a call that was given the owner's
    connection and is given up, or else the listener is closing. -/
theorem of_touches (orderly : Orderly S l) (sole : Sole l stream owner) (quiet : ¬ e.Names stream)
    (touches : e.Touches l stream) :
    (∃ id, owner = some id ∧ e = .step (.task id)) ∨
      (∃ call, e = .abandonCall call ∧ l.Given call stream) ∨
        (e = .closeSocket ∨ l.fired = true) ∧
          (l.Waits stream ∨ ∃ call, l.Given call stream) := by
  cases e with
  | step party =>
    cases party with
    | loop => exact .inr (.inr ⟨.inr touches.1, .inl touches.2⟩)
    | task k =>
      refine .inl ⟨k, (sole.named k).1 ?_, rfl⟩
      obtain ⟨task, held, rfl | ⟨connection, found, rfl⟩⟩ := touches
      · exact orderly.noted held
      · exact orderly.submitted
          (orderly.sourced.known.held k _ (Roster.mem_of_find? found))
    | call call => exact .inr (.inr ⟨.inr touches.1, .inr ⟨call, touches.2⟩⟩)
    | drain _ => cases touches
  | abandonCall call => exact .inr (.inl ⟨call, rfl, touches⟩)
  | closeSocket => exact .inr (.inr ⟨.inl rfl, .inl touches⟩)
  | newStream k => exact absurd touches.symm quiet
  | wire k change => exact absurd touches.symm quiet
  | startCall _ | startDrain _ | abandonDrain _ | trigger | arrive _ | advance _ | chance _ =>
    cases touches

end Sole

/-! ## A stream that has not come up -/

/-- Nothing is known of a stream. -/
structure Unused (l : Listener) (stream : Nat) : Prop where
  sole : Sole l stream none
  queue : l.queued stream = 0
  absent : l.wires.find? stream = none

theorem unused_run (S : Suite) {identity : Identity} {capacity timeout : Nat}
    {address : Except SystemError SocketAddress} {l₀ : Listener}
    (opened : ofRaw identity capacity timeout address = .ok l₀) (events : List Event)
    (quiet : ∀ e ∈ events, ¬ e.Names stream) : Unused (l₀.run S events) stream := by
  induction events using List.reverseRecOn with
  | nil =>
    obtain ⟨log, wires⟩ := blank_opened opened
    have queue : l₀.queued stream = 0 := by
      have socket : l₀.socket = ⟨some []⟩ := congrArg Front.socket (front_opened opened)
      rw [queued, socket]
      rfl
    refine ⟨⟨fun k => ⟨fun hmem => ?_, fun h => by cases h⟩, ?_⟩, queue, ?_⟩
    · have hmem : .taken k stream ∈ l₀.log := hmem
      rw [log] at hmem
      cases hmem
    · show l₀.queued stream + 0 ≤ 1
      omega
    · show l₀.wires.find? stream = none
      rw [wires]
      rfl
  | append_singleton events e ih =>
    have unused := ih fun e he => quiet e (List.mem_append_left _ he)
    have hquiet : ¬ e.Names stream := quiet e (List.mem_append_right _ List.mem_cons_self)
    have hrun : l₀.run S (events ++ [e]) = (l₀.run S events).apply S e := run_append S l₀ events [e]
    have orderly := (orderly_opened S opened).run events
    generalize l₀.run S events = l at unused orderly hrun
    rw [hrun]
    have ungiven : ∀ call, ¬ l.Given call stream := fun call given => by
      obtain ⟨_, _, h, _⟩ := unused.sole.of_given orderly given
      cases h
    have idle : ¬ l.Waits stream := fun waits =>
      absurd unused.queue (Nat.ne_of_gt (waits_of_queued waits))
    have untouched : ¬ e.Touches l stream := fun touches => by
      rcases unused.sole.of_touches orderly hquiet touches with
        ⟨_, h, _⟩ | ⟨call, _, given⟩ | ⟨_, waits | ⟨call, given⟩⟩
      · cases h
      · exact ungiven call given
      · exact idle waits
      · exact ungiven call given
    have queue : (l.apply S e).queued stream = 0 :=
      Nat.le_zero.1 (unused.queue ▸ queued_apply S l hquiet)
    refine ⟨?_, queue, ((wired_apply S l e).same stream untouched).trans unused.absent⟩
    refine (unused.sole.apply S hquiet).resolve_right fun ⟨_, _, taken⟩ => ?_
    -- nobody has waited, so nobody was taken
    have hnamed := (taken.named (l.connections + 1)).2 rfl
    obtain ⟨arrival, socket, _, polled, _, _, rfl⟩ := (spawned_of_taken hnamed).resolve_left
      fun old => by cases (unused.sole.named _).1 old
    refine idle ⟨arrival, ?_, rfl⟩
    rw [SocketSlot.waiting_poll_ok polled]
    exact List.mem_cons_self

end Listener

end Gatehouse
