import Gatehouse.Proofs.Listener.Refusals

/-!
# The accept loop goes on

A loop that has a failure to hand over joins the line of those who have outcomes, and every time that
the first in line has its turn while a consumer waits, it moves up; when it is the first itself, its
failure is handed over and the pause begins (`Scene.handsOver`).  When the pause is over, its own
turns bring it to the socket again, whatever the others do in between, and it meets with what the
socket answers next (`Scene.accepts`).
-/

namespace Gatehouse.Listener

variable {S : Suite} {l : Listener} {capacity : Nat}

/-! ## Counting turns -/

namespace Scene

variable {s : Scene}

/-- How often it is time for something in a run. -/
def countTurns (S : Suite) (isTurn : Scene → Event → Bool) (s : Scene) : List Event → Nat
  | [] => 0
  | e :: events => (if isTurn s e = true then 1 else 0) + countTurns S isTurn (s.apply S e) events

theorem countTurns_eq_countP (S : Suite) (isTurn : Event → Bool) (s : Scene) (events : List Event) :
    countTurns S (fun _ => isTurn) s events = events.countP isTurn := by
  induction events generalizing s with
  | nil => rfl
  | cons e events ih => rw [countTurns, ih, List.countP_cons, Nat.add_comm]

/-- Where every event either comes to what is waited for or leaves fewer turns to be taken, one fewer
    if it is such a turn, enough turns come to it. -/
theorem reaches (Waits Done : Scene → Prop) (rank : Scene → Nat) {isTurn : Scene → Event → Bool}
    (step : ∀ s e, Waits s → (s.apply S e).listener.fired = false → Done (s.apply S e) ∨
      Waits (s.apply S e) ∧ rank (s.apply S e) + (if isTurn s e = true then 1 else 0) ≤ rank s)
    (waits : Waits s) {events : List Event} (going : (s.run S events).listener.fired = false)
    (enough : rank s < countTurns S isTurn s events) :
    ∃ before, before <+: events ∧ Done (s.run S before) := by
  -- the rank pays for the turns that are still to come
  induction events generalizing s with
  | nil => exact absurd enough (Nat.not_lt_zero _)
  | cons e events ih =>
    rcases step s e waits (fired_of_run going) with done | ⟨waits, fewer⟩
    · exact ⟨[e], List.prefix_append [e] events, done⟩
    · rw [countTurns] at enough
      obtain ⟨before, hprefix, done⟩ := ih waits going (by omega)
      exact ⟨e :: before, (List.prefix_cons_inj e).2 hprefix, done⟩

/-! ## One event -/

/-- An event that is not the loop's step is nothing to the loop. -/
theorem aside_of_others (S : Suite) (noTask : s.listener.tasks.find? loopProducer = none) {e : Event}
    (notLoop : e ≠ .listener (.step .loop)) :
    Aside s.listener (s.apply S e).listener ∧ (s.apply S e).looked = s.looked := by
  have others : ∀ {e : Listener.Event}, e ≠ .step .loop →
      Aside s.listener (s.listener.apply S e) :=
    fun other => aside_apply S s.listener other noTask
  cases e with
  | startClose id => exact ⟨others (e := .trigger) Listener.Event.noConfusion, rfl⟩
  | finishClose id =>
    show Aside s.listener (s.finishClose id).listener ∧ (s.finishClose id).looked = s.looked
    unfold finishClose
    split
    · exact ⟨others (e := .closeSocket) Listener.Event.noConfusion, rfl⟩
    · exact ⟨aside_of_same rfl, rfl⟩
  | listener e =>
    have other : e ≠ .step .loop := fun same => notLoop (congrArg Event.listener same)
    cases e with
    | trigger | closeSocket => exact ⟨aside_of_same rfl, rfl⟩
    | step party =>
      cases party with
      | loop => exact absurd rfl other
      | _ => exact ⟨others other, rfl⟩
    | _ => exact ⟨others other, rfl⟩

/-- Where no connection is taken, no more handshakes run than before. -/
theorem tasks_le (S : Suite) (attentive : s.Attentive) {e : Event}
    (same : (s.apply S e).listener.connections = s.listener.connections) :
    (s.apply S e).listener.tasks.length ≤ s.listener.tasks.length := by
  have running : (s.apply S e).listener.tasks.ids.length ≤ s.listener.tasks.ids.length := by
    rcases (happens_apply S attentive e).2 with still | happens
    · rw [still]
    · exact Books.running_le (move_happens happens) same
  rwa [Roster.ids, List.length_map, Roster.ids, List.length_map] at running

/-- Where the loop does not wait for a connection its step is the listener's. -/
theorem stepLoop_of_elsewhere (attentive : s.Attentive) {phase : LoopPhase}
    (loop : s.listener.loop = phase) (elsewhere : phase ≠ .listening) :
    s.stepLoop = s.closedBy .loop (s.listener.stepLoop.getD s.listener) := by
  rw [← loop] at elsewhere
  have unseen : ¬ s.looked = true := fun looked => elsewhere (attentive looked)
  unfold stepLoop
  rw [if_neg unseen, if_neg fun h => elsewhere h.1]

/-! ## A failure is handed over -/

/-- The loop has handed its failure over, and a pause of this length has just begun. -/
def HandedOver (pause : Nat) (s : Scene) : Prop :=
  ∃ timer, s.listener.loop = .pausing timer ∧ timer.due = s.listener.now + pause

/-- The loop stands in line with its failure. -/
structure StandsInLine (pause : Nat) (s : Scene) : Prop where
  reporting : s.listener.loop = .reporting pause
  inLine : loopProducer ∈ s.listener.handoff.line

/-- How many stand in front of the loop. -/
def ahead (s : Scene) : Nat := s.listener.handoff.line.idxOf loopProducer

/-- The party that hands over the outcome of a producer. -/
def handing (k : Nat) : Party := if k = loopProducer then .loop else .task k

theorem eq_of_handing {k : Nat} (loop : handing k = .loop) : k = loopProducer := by
  by_contra other
  rw [handing, if_neg other] at loop
  cases loop

/-- Is it the turn of the first in line while a consumer waits? -/
def isOffer (s : Scene) : Event → Bool
  | .listener (.step party) =>
    s.listener.handoff.isAwaited && s.listener.handoff.line.head?.map handing == some party
  | _ => false

theorem first_of_isOffer {e : Event} (offer : s.isOffer e = true) :
    ∃ k, e = .listener (.step (handing k)) ∧ s.listener.handoff.line.head? = some k ∧
      s.listener.handoff.isAwaited = true := by
  cases e with
  | startClose | finishClose => cases offer
  | listener e =>
    cases e with
    | step party =>
      obtain ⟨awaited, first⟩ := Bool.and_eq_true_iff.1 offer
      obtain ⟨k, head, rfl⟩ := Option.map_eq_some_iff.1 (eq_of_beq first)
      exact ⟨k, rfl, head, awaited⟩
    | _ => cases offer

/-- When a handshake that is first in line has its turn while a consumer waits, it leaves the line. -/
theorem line_stepTask_of_first (inService : InService capacity l) (going : l.fired = false) {k : Nat}
    (other : k ≠ loopProducer) (first : l.handoff.line.head? = some k)
    (awaited : l.handoff.isAwaited = true) :
    (l.apply S (.step (.task k))).handoff.line = l.handoff.line.filter (· != k) := by
  have handoffOpen := inService.isOpen going
  have runnable := Handoff.producerRunnable_of_first inService.kept handoffOpen first awaited
  obtain ⟨delivered, line⟩ := Handoff.delivers_of_first inService.kept handoffOpen first awaited
  obtain ⟨outcome, found⟩ := Handoff.find?_of_first inService.kept first
  rcases inService.serviceable.kept.reporting.owner k outcome found with ⟨own, _⟩ | ⟨task, held, phase⟩
  · exact absurd own other
  · have hstep : l.stepTask S k =
        some ({ l with handoff := (l.handoff.pollProducer k).2 }.endTask k) := by
      unfold stepTask
      simp only [held, phase]
      unfold reportOutcome
      rw [if_pos runnable]
      rcases hpoll : l.handoff.pollProducer k with ⟨answer, handoff⟩
      rw [hpoll] at delivered
      cases delivered
      rfl
    show ((l.stepTask S k).getD l).handoff.line = _
    rw [hstep]
    exact line

section Reporting

variable (onDuty : OnDuty capacity s) {pause : Nat} (reporting : s.listener.loop = .reporting pause)

include onDuty reporting

/-- At its turn the loop hands its failure over, or it has joined the line. -/
theorem handedOver_or_joined : s.stepLoop.HandedOver pause ∨
    s.stepLoop.listener.loop = .reporting pause ∧
      s.stepLoop.listener.handoff.line = (s.listener.handoff.joinLine loopProducer).line := by
  have isReporting : s.listener.loop.isReporting = true := congrArg LoopPhase.isReporting reporting
  obtain ⟨failure, held⟩ := onDuty.inService.serviceable.kept.reporting.loop isReporting
  rw [stepLoop_of_elsewhere onDuty.attentive reporting LoopPhase.noConfusion]
  unfold Listener.stepLoop
  simp only [reporting]
  split
  · have polled := s.listener.handoff.pollProducer_spec loopProducer
    rcases hpoll : s.listener.handoff.pollProducer loopProducer with ⟨_ | delivered, handoff⟩
    · rw [hpoll] at polled
      exact .inr ⟨rfl, Handoff.line_of_pending held polled⟩
    · exact .inl ⟨_, rfl, rfl⟩
  · rename_i idle
    -- who is in line already has nothing to do before it is the first
    have inLine : loopProducer ∈ s.listener.handoff.line := by
      by_contra absent
      refine idle ?_
      simp [Handoff.producerRunnable, held, absent]
    rw [Handoff.joinLine_of_mem inLine]
    exact .inr ⟨reporting, rfl⟩

/-- As the first in line it hands its failure over, if a consumer waits. -/
theorem handedOver_of_first (first : s.listener.handoff.line.head? = some loopProducer)
    (awaited : s.listener.handoff.isAwaited = true) : s.stepLoop.HandedOver pause := by
  have handoffOpen := onDuty.inService.isOpen onDuty.going
  have kept := onDuty.inService.kept
  obtain ⟨delivered, _⟩ := Handoff.delivers_of_first kept handoffOpen first awaited
  rw [stepLoop_of_elsewhere onDuty.attentive reporting LoopPhase.noConfusion]
  unfold Listener.stepLoop
  simp only [reporting]
  rw [if_pos (Handoff.producerRunnable_of_first kept handoffOpen first awaited)]
  rcases hpoll : s.listener.handoff.pollProducer loopProducer with ⟨answer, handoff⟩
  rw [hpoll] at delivered
  cases delivered
  exact ⟨_, rfl, rfl⟩

end Reporting

section InLine

variable (onDuty : OnDuty capacity s) {pause : Nat} (stands : s.StandsInLine pause)

include onDuty stands

/-- Whatever the others do, nobody gets in front of the loop, and whoever goes lets it move up. -/
theorem closer_of_others {e : Event} (notLoop : e ≠ .listener (.step .loop)) :
    (s.apply S e).StandsInLine pause ∧
      (s.apply S e).ahead + (if s.isOffer e = true then 1 else 0) ≤ s.ahead := by
  obtain ⟨aside, _⟩ := aside_of_others S onDuty.inService.noTask notLoop
  obtain ⟨stays, behind⟩ := aside.handoff.place stands.inLine
  refine ⟨⟨aside.loop.trans stands.reporting, stays⟩, ?_⟩
  cases offer : s.isOffer e with
  | false => exact behind
  | true =>
    -- somebody else is the first, and leaves the line
    obtain ⟨k, rfl, first, awaited⟩ := first_of_isOffer offer
    have other : k ≠ loopProducer := by
      rintro rfl
      exact notLoop rfl
    have line : (s.apply S (.listener (.step (handing k)))).listener.handoff.line =
        s.listener.handoff.line.filter (· != k) := by
      rw [handing, if_neg other]
      exact line_stepTask_of_first onDuty.inService onDuty.going other first awaited
    rw [ahead, line]
    exact Handoff.idxOf_filter_lt first other

/-- At its own turn it hands its failure over if it is the first and a consumer waits. -/
theorem handedOver_or_stands : s.stepLoop.HandedOver pause ∨ s.stepLoop.StandsInLine pause ∧
    s.stepLoop.ahead + (if s.isOffer (.listener (.step .loop)) = true then 1 else 0) ≤ s.ahead := by
  cases offer : s.isOffer (.listener (.step .loop)) with
  | true =>
    -- an offer at its own turn is one to the loop
    obtain ⟨k, who, first, awaited⟩ := first_of_isOffer offer
    have own : loopProducer = k := by
      injection who with who
      injection who with who
      exact (eq_of_handing who.symm).symm
    exact .inl (handedOver_of_first onDuty stands.reporting (own ▸ first) awaited)
  | false =>
    refine (handedOver_or_joined onDuty stands.reporting).imp_right fun ⟨reporting, line⟩ => ?_
    rw [Handoff.joinLine_of_mem stands.inLine] at line
    refine ⟨⟨reporting, line ▸ stands.inLine⟩, ?_⟩
    exact (congrArg (List.idxOf loopProducer) line).le

/-- **A loop in line gets its failure handed over.**  For that it takes one turn of the first in line,
    while a consumer waits, for everybody who is in front of the loop and one for itself. -/
theorem handsOver {events : List Event} (going : (s.run S events).listener.fired = false)
    (enough : s.ahead < countTurns S isOffer s events) :
    ∃ before, before <+: events ∧ (s.run S before).HandedOver pause := by
  refine reaches (fun s => OnDuty capacity s ∧ s.StandsInLine pause) (HandedOver pause) ahead ?_
    ⟨onDuty, stands⟩ going enough
  rintro s e ⟨onDuty, stands⟩ going
  have next := onDuty.apply e going
  by_cases own : e = .listener (.step .loop)
  · subst own
    exact (handedOver_or_stands onDuty stands).imp_right fun ⟨stands, fewer⟩ => ⟨⟨next, stands⟩, fewer⟩
  · obtain ⟨stands, fewer⟩ := closer_of_others onDuty stands own
    exact .inr ⟨⟨next, stands⟩, fewer⟩

end InLine

/-! ## The socket is polled again -/

/-- Is it the accept loop's turn? -/
def isLoopTurn : Event → Bool
  | .listener (.step .loop) => true
  | _ => false

/-- How many turns of the loop come before the one at which it polls the socket, if its pause is over
    and a token is there. -/
def turnsToPoll (s : Scene) : Nat :=
  match s.listener.loop with
  | .pausing _ => 3
  | .seeking | .queued => 2
  | .listening => if s.looked then 0 else 1
  | .reporting _ | .stopped => 0

/-- Nothing keeps the loop from the answer that the socket is going to give next. -/
structure Expects (capacity : Nat) (attempts : List (Except SystemError Nat))
    (answer : Except SystemError Arrival) (s : Scene) : Prop extends OnDuty capacity s where
  attempts : s.listener.attempts = attempts
  polled : ∃ socket, s.listener.socket.poll = (.ready answer, socket)
  room : s.listener.tasks.length < capacity
  quiet : s.listener.loop.isReporting = false
  rested : ∀ timer, s.listener.loop = .pausing timer → timer.due ≤ s.listener.now

namespace Expects

variable {attempts : List (Except SystemError Nat)} {answer : Except SystemError Arrival}
  (expects : Expects capacity attempts answer s)

include expects

/-- Every event keeps it so, but the one at which the answer is taken. -/
theorem apply (e : Event) (going : (s.apply S e).listener.fired = false) :
    (s.apply S e).listener.attempts = answer.map Arrival.stream :: attempts ∨
      Expects capacity attempts answer (s.apply S e) := by
  have onDuty := expects.toOnDuty.apply e going
  obtain ⟨turned, _⟩ := expects.toOnDuty.turned e going
  obtain ⟨socket, polled⟩ := expects.polled
  have next : ∀ {loop backoff acceptErrors dealings list returns},
      (s.apply S e).listener.round =
        ⟨loop, backoff, acceptErrors, dealings, list, returns, s.listener.connections⟩ →
      (∃ socket, (s.apply S e).listener.socket.poll = (.ready answer, socket)) →
      list = s.listener.attempts → loop.isReporting = false →
      (∀ timer, loop = .pausing timer → timer.due ≤ (s.apply S e).listener.now) →
      Expects capacity attempts answer (s.apply S e) := by
    intro loop backoff acceptErrors dealings list returns round polled same quiet rested
    have hloop : (s.apply S e).listener.loop = loop := congrArg Round.loop round
    refine ⟨onDuty, ?_, polled, ?_, ?_, ?_⟩
    · exact (congrArg Round.attempts round).trans (same.trans expects.attempts)
    · -- no connection has been taken, so there is no less room
      have fewer := tasks_le S expects.attentive (congrArg Round.connections round)
      exact fewer.trans_lt expects.room
    · rw [hloop]
      exact quiet
    · rw [hloop]
      exact rested
  generalize e.brought = brought at turned
  cases turned with
  | stays _ round socket' now =>
    refine .inr (next round ?_ rfl expects.quiet fun timer pausing => ?_)
    · -- what comes to the socket now stands behind the answer
      rw [socket']
      exact SocketSlot.poll_pushAll expects.isOpen polled _
    · exact (expects.rested timer pausing).trans now
  | looks phase _ after round same =>
    refine .inr (next round ⟨socket, same ▸ polled⟩ rfl ?_ fun timer pausing => ?_)
    · rcases after with rfl | rfl <;> rfl
    · rcases after with rfl | rfl <;> cases pausing
  | takes arrival _ polled' round =>
    cases polled.symm.trans polled'
    exact .inl ((congrArg Round.attempts round).trans (congrArg (_ :: ·) expects.attempts))
  | refuses error _ polled' round =>
    cases polled.symm.trans polled'
    exact .inl ((congrArg Round.attempts round).trans (congrArg (_ :: ·) expects.attempts))
  | delivers pause reporting =>
    have quiet := expects.quiet
    rw [reporting] at quiet
    cases quiet
  | resumes timer _ _ round same =>
    exact .inr (next round ⟨socket, same ▸ polled⟩ rfl rfl fun _ => LoopPhase.noConfusion)

/-- The loop gets a token by its next turn. -/
theorem turn_of_looking (looking : s.listener.loop = .seeking ∨ s.listener.loop = .queued) :
    s.stepLoop.turnsToPoll + 1 ≤ s.turnsToPoll := by
  obtain ⟨pool, hstep⟩ :=
    expects.inService.serviceable.stepLoop_of_room expects.going expects.room looking
  have own : s.stepLoop = s.closedBy .loop (s.listener.stepLoop.getD s.listener) := by
    rcases looking with loop | loop
    · exact stepLoop_of_elsewhere expects.attentive loop LoopPhase.noConfusion
    · exact stepLoop_of_elsewhere expects.attentive loop LoopPhase.noConfusion
  have before : s.turnsToPoll = 2 := by
    unfold turnsToPoll
    rcases looking with loop | loop <;> rw [loop]
  rw [before, own, hstep]
  show (if s.looked then 0 else 1) + 1 ≤ 2
  split <;> omega

/-- With a token it looks at the shutdown first, and then it takes the answer. -/
theorem turn_of_listening (listening : s.listener.loop = .listening) :
    s.stepLoop.listener.attempts = answer.map Arrival.stream :: attempts ∨
      s.stepLoop.turnsToPoll + 1 ≤ s.turnsToPoll := by
  have going := expects.going
  obtain ⟨socket, polled⟩ := expects.polled
  unfold turnsToPoll
  cases looked : s.looked with
  | false =>
    right
    unfold stepLoop
    simp [looked, listening, going]
  | true =>
    left
    unfold stepLoop pollSocket
    rw [if_pos looked, polled]
    cases answer with
    | ok arrival => exact congrArg (_ :: ·) expects.attempts
    | error error =>
      have fresh := expects.inService.fresh expects.quiet
      have round := round_reportRefusal (l := { s.listener with socket }) error fresh
      exact (congrArg Round.attempts round).trans (congrArg (_ :: ·) expects.attempts)

theorem turn_of_pausing {timer : Timer} (pausing : s.listener.loop = .pausing timer) :
    s.stepLoop.turnsToPoll + 1 ≤ s.turnsToPoll := by
  have going := expects.going
  have hstep : s.listener.stepLoop = some { s.listener with loop := .seeking } := by
    unfold Listener.stepLoop
    simp only [pausing, going, Bool.false_eq_true, if_false]
    exact if_pos (decide_eq_true (expects.rested timer pausing))
  have before : s.turnsToPoll = 3 := by
    unfold turnsToPoll
    rw [pausing]
  rw [before, stepLoop_of_elsewhere expects.attentive pausing LoopPhase.noConfusion, hstep]
  rfl

/-- Every turn of the loop brings it one turn closer. -/
theorem turn : s.stepLoop.listener.attempts = answer.map Arrival.stream :: attempts ∨
    s.stepLoop.turnsToPoll + 1 ≤ s.turnsToPoll := by
  cases loop : s.listener.loop with
  | seeking => exact .inr (expects.turn_of_looking (.inl loop))
  | queued => exact .inr (expects.turn_of_looking (.inr loop))
  | listening => exact expects.turn_of_listening loop
  | pausing timer => exact .inr (expects.turn_of_pausing loop)
  | reporting pause =>
    have quiet := expects.quiet
    rw [loop] at quiet
    cases quiet
  | stopped => exact absurd loop (expects.inService.serviceable.running expects.going)

end Expects

/-- **The loop goes on.**  By so many turns of its own it meets with what the socket answers next,
    whatever the others do in between. -/
theorem accepts {attempts : List (Except SystemError Nat)} {answer : Except SystemError Arrival}
    (expects : Expects capacity attempts answer s) {events : List Event}
    (going : (s.run S events).listener.fired = false)
    (enough : s.turnsToPoll < events.countP isLoopTurn) :
    ∃ before, before <+: events ∧
      (s.run S before).listener.attempts = answer.map Arrival.stream :: attempts := by
  rw [← countTurns_eq_countP S isLoopTurn s] at enough
  refine reaches (Expects capacity attempts answer)
    (fun s => s.listener.attempts = answer.map Arrival.stream :: attempts) turnsToPoll ?_ expects
    going enough
  intro s e expects going
  rcases expects.apply e going with done | next
  · exact .inl done
  · by_cases own : e = .listener (.step .loop)
    · subst own
      exact expects.turn.imp_right fun fewer => ⟨next, fewer⟩
    · have noTask := expects.inService.noTask
      obtain ⟨aside, looked⟩ := aside_of_others S noTask own
      have other : isLoopTurn e = false := by
        unfold isLoopTurn
        split
        · exact absurd rfl own
        · rfl
      have same : (s.apply S e).turnsToPoll = s.turnsToPoll := by
        unfold turnsToPoll
        rw [aside.loop, looked]
      refine .inr ⟨next, ?_⟩
      rw [other, same]
      exact Nat.le_refl _

end Scene

/-! ## Every run -/

/-- What has become of the answers that the socket was given. -/
structure RefusalsTold (capacity : Nat) (arrived : List (Except SystemError Arrival))
    (l : Listener) : Prop where
  inOrder : l.InOrder arrived
  /-- Nobody but the loop has submitted a failure to take a connection. -/
  foreign : l.front.Foreign
  sound : l.round.Sound l.now
  /-- However the next pause is drawn, there is one. -/
  unbroken : ∀ chance, (l.backoff.recordFailure chance).1.length ≠ none
  tokens : TokensKept capacity l
  /-- The loop has a token while it hands a failure over, -/
  reporting : ∀ pause, l.loop = .reporting pause → l.loopTokens = 1
  /-- and none in the pause. -/
  pausing : ∀ timer, l.loop = .pausing timer → l.loopTokens = 0

namespace Scene

variable {s : Scene} {arrived : List (Except SystemError Arrival)}

theorem Reports.told (reports : Reports capacity arrived s) :
    RefusalsTold capacity arrived s.listener := by
  have books := reports.inService.serviceable.kept.patient.books
  have tokens := loopTokens_of_sound books
  -- a loop that is busy with a failure has not asked for a token
  have none : s.listener.loop ≠ .queued → s.listener.pool.gotBy .loop = 0 :=
    fun h => TokenPool.gotBy_eq_zero (books.claimed.loop_absent h)
  refine ⟨reports.inOrder, reports.foreign, reports.sound, fun chance => ?_,
    reports.inService.serviceable.tokensKept, fun pause reporting => ?_, fun timer pausing => ?_⟩
  · exact (reports.sound.backoff.fails chance).1.fits (by decide)
  · rw [tokens, none (by rw [reporting]; exact LoopPhase.noConfusion), reporting]
    rfl
  · rw [tokens, none (by rw [pausing]; exact LoopPhase.noConfusion), pausing]
    rfl

/-- The loop does not get stuck with a failure. -/
structure GoesOn (S : Suite) (s : Scene) : Prop where
  /-- At its next turn it hands the failure over or stands in line, with nobody in front of it but
      those who were there. -/
  joins : ∀ pause, s.listener.loop = .reporting pause → s.stepLoop.HandedOver pause ∨
    s.stepLoop.StandsInLine pause ∧ s.stepLoop.ahead ≤ s.listener.handoff.line.length
  /-- In line it waits for one turn of the first in line, while a consumer waits, for everybody in
      front of it and one for itself. -/
  handsOver : ∀ pause, s.StandsInLine pause → ∀ events, (s.run S events).listener.fired = false →
    s.ahead < countTurns S isOffer s events →
      ∃ before, before <+: events ∧ (s.run S before).HandedOver pause
  /-- After the pause it meets with the answer that comes next, by four turns of its own. -/
  accepts : ∀ timer, s.listener.loop = .pausing timer → timer.due ≤ s.listener.now →
    ∀ answer socket, s.listener.socket.poll = (.ready answer, socket) → ∀ events,
      (s.run S events).listener.fired = false → 4 ≤ events.countP isLoopTurn →
        ∃ before, before <+: events ∧
          (s.run S before).listener.attempts = answer.map Arrival.stream :: s.listener.attempts

theorem OnDuty.goesOn (S : Suite) (onDuty : OnDuty capacity s) : GoesOn S s where
  joins := fun pause reporting => by
    refine (handedOver_or_joined onDuty reporting).imp_right fun ⟨loop, line⟩ => ?_
    obtain ⟨inLine, behind⟩ := Handoff.place_joinLine s.listener.handoff loopProducer
    rw [← line] at inLine behind
    exact ⟨⟨loop, inLine⟩, behind⟩
  handsOver := fun _ stands _ => handsOver onDuty stands
  accepts := by
    intro timer pausing elapsed answer socket polled events going enough
    have room : s.listener.tasks.ids.length < capacity :=
      onDuty.inService.room (congrArg LoopPhase.inRefusal pausing)
    rw [Roster.ids, List.length_map] at room
    have expects : Expects capacity s.listener.attempts answer s := by
      refine ⟨onDuty, rfl, ⟨socket, polled⟩, room, congrArg LoopPhase.isReporting pausing, ?_⟩
      intro other same
      cases pausing.symm.trans same
      exact elapsed
    refine accepts expects going ?_
    unfold turnsToPoll
    rw [pausing]
    exact enough

/-- **Failures to take a connection are reported, and the loop goes on.**  Whatever answers the
    socket is given, in whatever order, as long as nobody closes the listener: the loop meets with
    them one after the other; every failure is counted, submitted once with its own error, and
    handed over; no handshake starts for it, and the loop's token comes back when it has been handed
    over, before the pause.  The pause goes by the failures in a row, and when it is over the loop
    meets with the next answer. -/
theorem refusals_reported (S : Suite) {identity : Identity} {timeout : Nat}
    {address : Except SystemError SocketAddress} {l₀ : Listener}
    (opened : ofRaw identity capacity timeout address = .ok l₀) (events : List Event)
    (going : (Scene.run S { listener := l₀ } events).listener.fired = false) :
    let s := Scene.run S { listener := l₀ } events
    RefusalsTold capacity (Scene.arrived events) s.listener ∧
      (∀ e, (s.apply S e).listener.fired = false → Proceeds s.listener (s.apply S e).listener) ∧
      GoesOn S s := by
  intro s
  have reports : Reports capacity (Scene.arrived events) s := (Reports.opened opened).run events going
  refine ⟨reports.told, fun e going => ?_, reports.toOnDuty.goesOn S⟩
  exact (reports.toOnDuty.turned e going).1.proceeds

/-- Too many files are open, and nobody else is in line: the first call that comes gets the failure,
    and after the pause of five milliseconds the next connection is met. -/
theorem refusals_reported_sample :
    ∃ l₀, ofRaw ⟨Octets.replicate 32 2⟩ 2 1000 (.ok ⟨.v4 ⟨127, 0, 0, 1⟩, 9735, 0⟩) = .ok l₀ ∧
      let loop : Event := .listener (.step .loop)
      let events : List Event := [.listener (.arrive (.error (.errno 24))), loop, loop, loop, loop]
      let call : List Event := [.listener (.startCall 0), .listener (.step (.call 0)), loop]
      let arrive : List Event :=
        [.listener (.newStream 0), .listener (.arrive (.ok ⟨0, .v4 ⟨127, 0, 0, 1⟩, 40000, 0⟩)),
          .listener (.advance 5)]
      let s := Scene.run .standard { listener := l₀ } events
      let s' := Scene.run .standard { listener := l₀ } (events ++ call ++ arrive)
      RefusalsTold 2 [.error (.errno 24)] s.listener ∧ s.StandsInLine 5 ∧
        (∃ before, before <+: call ∧ (s.run .standard before).HandedOver 5) ∧
        ∃ before, before <+: loopSteps 4 ∧
          (s'.run .standard before).listener.attempts = [.ok 0, .error (.errno 24)] := by
  have opened : ofRaw ⟨Octets.replicate 32 2⟩ 2 1000 (.ok ⟨.v4 ⟨127, 0, 0, 1⟩, 9735, 0⟩) =
      .ok _ := rfl
  refine ⟨_, opened, ?_⟩
  intro loop events call arrive s s'
  obtain ⟨told, _, goesOn⟩ := refusals_reported .standard opened events (by decide +kernel)
  obtain ⟨_, _, goesOn'⟩ :=
    refusals_reported .standard opened (events ++ call ++ arrive) (by decide +kernel)
  have stands : s.StandsInLine 5 := ⟨by decide +kernel, by decide +kernel⟩
  have pausing : s'.listener.loop = .pausing ⟨5, 0⟩ := by decide +kernel
  have polled : s'.listener.socket.poll.1 = .ready (.ok ⟨0, .v4 ⟨127, 0, 0, 1⟩, 40000, 0⟩) := by
    decide +kernel
  have attempts : s'.listener.attempts = [.error (.errno 24)] := by decide +kernel
  refine ⟨told, stands, goesOn.handsOver 5 stands call ?_ ?_, ?_⟩
  · decide +kernel
  · decide +kernel
  · rw [← attempts]
    refine goesOn'.accepts ⟨5, 0⟩ pausing ?_ _ _ (Prod.ext polled rfl) (loopSteps 4) ?_ ?_
    · decide +kernel
    · decide +kernel
    · decide

end Scene

end Gatehouse.Listener
