import Gatehouse.Proofs.Listener.Closing
import Gatehouse.Proofs.Listener.Tokens

/-!
# Waiting for a listener to drain

A party that waits for a listener to drain asks for all of its tokens, but not before the accept
loop has returned.  When it has got them nobody else has any: the loop is gone, no handshake runs,
and none can begin (`drains_last`).  Where the loop and the waits stand (`Standing`) changes in a
few ways (`Standing.Wait`, `standing_stepLoop`); with the books on tokens that gives what holds
along every run (`Patient`), also where a close and the loop's turn come apart
(`Scene.listener_induction`).
-/

namespace Gatehouse.Listener

variable {S : Suite} {l l' : Listener} {id : Nat} {task : HandshakeTask}

/-! ## Where the loop and the waits stand -/

/-- The waits that are over, the latest first. -/
def drained (l : Listener) : List Nat :=
  l.log.filterMap fun
    | .drained id => some id
    | _ => none

/-- Where the accept loop and the waits stand. -/
structure Standing where
  loop : LoopPhase
  drains : Roster DrainPhase
  /-- The waits that are over, the latest first. -/
  drained : List Nat

/-- Where the accept loop and the waits of a listener stand. -/
def standing (l : Listener) : Standing where
  loop := l.loop
  drains := l.drains
  drained := l.drained

/-- What anybody but the accept loop can do about it, where these are the parties whose claims are
    met. -/
inductive Standing.Wait (Met : Nat → Prop) (s : Standing) : Standing → Prop
  /-- Nothing. -/
  | still : Wait Met s s
  /-- A party starts to wait. -/
  | starts (id : Nat) : Wait Met s { s with drains := s.drains.enter id .loopRuns }
  /-- The loop has returned, and a party asks for all tokens. -/
  | claims (id : Nat) (waiting : s.drains.find? id = some .loopRuns)
      (stopped : s.loop = .stopped) : Wait Met s { s with drains := s.drains.update id .claiming }
  /-- A party has got all tokens, and is done. -/
  | ends (id : Nat) (claiming : s.drains.find? id = some .claiming) (met : Met id) :
    Wait Met s { s with drains := s.drains.update id .done, drained := id :: s.drained }
  /-- A party gives up waiting. -/
  | leaves (id : Nat) : Wait Met s { s with drains := s.drains.erase id }

namespace Standing

variable {Met : Nat → Prop} {s s' : Standing}

theorem Wait.loop (wait : s.Wait Met s') : s'.loop = s.loop := by cases wait <;> rfl

/-- Whoever asks for tokens does so when the loop has returned. -/
theorem Wait.claiming (wait : s.Wait Met s')
    (before : ∀ id, s.drains.find? id = some .claiming → s.loop = .stopped) (id : Nat)
    (claiming : s'.drains.find? id = some .claiming) : s'.loop = .stopped := by
  rw [wait.loop]
  cases wait with
  | still => exact before id claiming
  | starts k =>
    rcases Roster.find?_enter_cases claiming with hold | ⟨_, hnew⟩
    · exact before id hold
    · cases hnew
  | claims k waiting stopped => exact stopped
  | ends k hk met => exact before k hk
  | leaves k =>
    have claiming : (s.drains.erase k).find? id = some .claiming := claiming
    rw [Roster.find?_erase] at claiming
    split at claiming
    · cases claiming
    · exact before id claiming

/-- Whoever is done is on record. -/
theorem Wait.done (wait : s.Wait Met s')
    (before : ∀ id, s.drains.find? id = some .done → id ∈ s.drained) (id : Nat)
    (done : s'.drains.find? id = some .done) : id ∈ s'.drained := by
  cases wait with
  | still => exact before id done
  | starts k =>
    rcases Roster.find?_enter_cases done with hold | ⟨_, hnew⟩
    · exact before id hold
    · cases hnew
  | claims k waiting stopped =>
    have done : (s.drains.update k .claiming).find? id = some .done := done
    rw [Roster.find?_update, waiting] at done
    split at done
    · cases done
    · exact before id done
  | ends k hk met =>
    have done : (s.drains.update k .done).find? id = some .done := done
    rw [Roster.find?_update] at done
    split at done
    · rename_i heq
      rw [heq]
      exact List.mem_cons_self
    · exact List.mem_cons_of_mem _ (before id done)
  | leaves k =>
    have done : (s.drains.erase k).find? id = some .done := done
    rw [Roster.find?_erase] at done
    split at done
    · cases done
    · exact before id done

end Standing

/-- Whose claim to all tokens is met. -/
def Met (l : Listener) (id : Nat) : Prop := l.pool.isMet (.drain id) = true

/-- Where the loop and the waits stand is a matter of the core. -/
theorem standing_of_core (h : l'.core = l.core) : l'.standing = l.standing := by
  have hdrained : ∀ l : Listener, l.drained = l.core.record.filterMap fun
      | .drained id => some id
      | _ => none := by
    intro l
    refine (filterMap_record (fun h passing => ?_) l).symm
    cases h <;> first | rfl | cases passing
  have hloop : l'.loop = l.loop := congrArg Core.loop h
  have hdrains : l'.drains = l.drains := congrArg Core.drains h
  rw [standing, hdrained, h, ← hdrained, hloop, hdrains]
  rfl

theorem standing_endTask (l : Listener) (id : Nat) : (l.endTask id).standing = l.standing := rfl

theorem standing_submitOutcome (l : Listener) (id : Nat) (task : HandshakeTask)
    (outcome : Outcome) : (l.submitOutcome id task outcome).standing = l.standing :=
  rfl

theorem standing_failActs {failure : Failure} (same : l'.core = l.core) :
    (l'.failActs id task failure).standing = l.standing := by
  have hrejected : (l'.rejectActs id task failure).standing = l.standing :=
    standing_of_core ((core_rejectActs l' id task failure).trans same)
  rcases failActs_cases l' id task failure with ⟨_, heq⟩ | ⟨_, heq⟩
  · rw [heq]
    exact (standing_endTask _ id).trans hrejected
  · rw [heq]
    exact (standing_submitOutcome _ id task _).trans hrejected

/-- A handshake has nothing to do with it. -/
theorem standing_stepTask {sight : Sight} (stepped : TaskStepped S l id task sight l') :
    l'.standing = l.standing := by
  cases stepped with
  | aborts spawned fired =>
    exact (standing_of_core (core_closeStream _ task.stream)).trans rfl
  | begins spawned going => rfl
  | shut inActs fired => exact standing_failActs rfl
  | breaks failure wires inActs going => exact standing_failActs rfl
  | readsOne => rfl
  | takesOne machine got bytes timer wire inward act _ _ _ _ _ =>
    rcases takeActOne_cases (l.withWire task.stream { wire with inward }) id task machine act with
      ⟨e, m, _, htake⟩ | ⟨m₁, _, ⟨e, m₂, _, htake⟩ | ⟨two, m₂, _, htake⟩⟩
    · rw [htake]
      exact standing_failActs rfl
    · rw [htake]
      exact standing_failActs rfl
    · rw [htake]
      rfl
  | writes => rfl
  | awaits => rfl
  | readsThree => rfl
  | takesThree machine got bytes timer wire inward act _ _ _ _ _ =>
    rcases takeActThree_cases (l.withWire task.stream { wire with inward }) id task machine act with
      ⟨e, m, _, htake⟩ | ⟨m, _, ⟨_, htake⟩ | ⟨remote, _, htake⟩⟩
    · rw [htake]
      exact standing_failActs rfl
    · rw [htake]
      exact standing_failActs rfl
    · rw [htake]
      rfl
  | holds handoff _ polled => rfl
  | delivers handoff _ polled => rfl
  | drops outcome handoff _ _ polled =>
    have hdropped : ({ l with handoff }.dropOutcome outcome).standing =
        { l with handoff : Listener }.standing :=
      standing_of_core (core_dropOutcome _ outcome)
    exact hdropped

theorem standing_stepCall {call : Nat} (stepped : CallStepped l call l') :
    l'.standing = l.standing := by
  cases stepped with
  | waits handoff polled => rfl
  | answers outcome handoff polled => rfl
  | closes handoff l₁ polled dropped =>
    have hdropped : l₁.standing = l.standing :=
      (standing_of_core (core_of_dropped dropped)).trans rfl
    exact hdropped

theorem standingWait_stepDrain (stepped : DrainStepped l id l') :
    l.standing.Wait l.Met l'.standing := by
  cases stepped with
  | asks waiting stopped => exact .claims id waiting stopped
  | drains claiming met => exact .ends id claiming met

/-- Whatever happens but the steps of the accept loop. -/
theorem standingWait_apply (S : Suite) (l : Listener) {e : Event} (other : e ≠ .step .loop) :
    l.standing.Wait l.Met (l.apply S e).standing := by
  have hsame : ∀ {l' : Listener}, l'.standing = l.standing → l.standing.Wait l.Met l'.standing := by
    intro l' h
    rw [h]
    exact .still
  cases e with
  | step party =>
    rcases apply_step S l party with ⟨_, same⟩ | ⟨l', happly, taken⟩
    · rw [same]
      exact .still
    · rw [happly]
      cases taken with
      | loop _ => exact absurd rfl other
      | task task held step => exact hsame (standing_stepTask (stepTask_spec held step))
      | call step => exact hsame (standing_stepCall (stepCall_spec step))
      | drain step => exact standingWait_stepDrain (stepDrain_spec step)
  | startDrain k => exact .starts k
  | abandonDrain k => exact .leaves k
  | abandonCall call =>
    have hcore := core_abandonCall l call
    exact hsame ((standing_of_core hcore).trans rfl)
  | closeSocket => exact hsame (standing_of_core (core_closeSocket l))
  | wire stream change => exact hsame (standing_of_core (core_onWire l stream _))
  | startCall _ | trigger | arrive _ | newStream _ | advance _ | chance _ => exact .still

/-- A loop that has returned takes no step, and the waits are nothing to the others. -/
theorem standing_stepLoop (stepped : LoopStepped l l') :
    l.loop ≠ .stopped ∧ l'.drains = l.drains ∧ l'.drained = l.drained := by
  have hne : ∀ {phase : LoopPhase}, l.loop = phase → phase ≠ .stopped → l.loop ≠ .stopped :=
    fun hphase hne => hphase ▸ hne
  have hstop : ∀ l : Listener, l.stopLoop.drains = l.drains ∧ l.stopLoop.drained = l.drained := by
    intro l
    have hsame : l.closeSocket.standing = l.standing := standing_of_core (core_closeSocket l)
    exact ⟨congrArg Standing.drains hsame, congrArg Standing.drained hsame⟩
  cases stepped with
  | stops idle fired =>
    refine ⟨?_, hstop l⟩
    rcases idle with hidle | ⟨timer, hidle⟩
    · exact hne hidle (by decide)
    · exact hne hidle (by simp)
  | queues seeking going unmet => exact ⟨hne seeking (by decide), rfl, rfl⟩
  | draws seeking going met => exact ⟨hne seeking (by decide), rfl, rfl⟩
  | withdraws queued fired => exact ⟨hne queued (by decide), hstop _⟩
  | picksUp queued going met => exact ⟨hne queued (by decide), rfl, rfl⟩
  | returns listening fired => exact ⟨hne listening (by decide), hstop _⟩
  | refuses error socket listening going polled =>
    obtain ⟨pause, l₁, hcore, heq⟩ := reportRefusal_eq { l with socket } error
    have hsame : l₁.standing = l.standing := standing_of_core hcore
    rw [heq]
    exact ⟨hne listening (by decide), congrArg Standing.drains hsame,
      congrArg Standing.drained hsame⟩
  | takes arrival socket listening going polled => exact ⟨hne listening (by decide), rfl, rfl⟩
  | holds pause handoff reporting polled => exact ⟨hne reporting (by simp), rfl, rfl⟩
  | pauses pause delivered handoff reporting polled => exact ⟨hne reporting (by simp), rfl, rfl⟩
  | resumes timer pausing going elapsed => exact ⟨hne pausing (by simp), rfl, rfl⟩

/-! ## Runs seen closely -/

/-- What can happen in a listener along its runs, however closely they are seen. -/
inductive Happens (S : Suite) (l : Listener) : Listener → Prop
  /-- An event of the listener. -/
  | event (e : Event) : Happens S l (l.apply S e)
  /-- The accept loop learns of a failure to take a connection. -/
  | refuses (error : SystemError) (socket : SocketSlot Arrival) (listening : l.loop = .listening)
      (polled : l.socket.poll = (.ready (.error error), socket)) :
    Happens S l ({ l with socket }.reportRefusal error)
  /-- The accept loop takes a connection. -/
  | takes (arrival : Arrival) (socket : SocketSlot Arrival) (listening : l.loop = .listening)
      (polled : l.socket.poll = (.ready (.ok arrival), socket)) :
    Happens S l ({ l with socket }.spawnTask arrival)

namespace Scene

variable {s : Scene}

/-- A loop that has looked at the shutdown is about to poll the socket. -/
def Attentive (s : Scene) : Prop := s.looked = true → s.listener.loop = .listening

theorem happens_pollSocket (S : Suite) (listening : s.listener.loop = .listening) :
    s.pollSocket.looked = false ∧
      (s.pollSocket.listener = s.listener ∨ Happens S s.listener s.pollSocket.listener) := by
  unfold pollSocket
  split
  · exact ⟨rfl, .inl rfl⟩
  · exact ⟨rfl, .inr (.refuses _ _ listening ‹_›)⟩
  · exact ⟨rfl, .inr (.takes _ _ listening ‹_›)⟩

theorem happens_stepLoop (S : Suite) (attentive : s.Attentive) :
    s.stepLoop.Attentive ∧
      (s.stepLoop.listener = s.listener ∨ Happens S s.listener s.stepLoop.listener) := by
  unfold stepLoop
  split
  · rename_i looked
    obtain ⟨hunseen, happens⟩ := happens_pollSocket S (attentive looked)
    exact ⟨fun h => absurd (hunseen.symm.trans h) Bool.false_ne_true, happens⟩
  · rename_i unseen
    split
    · rename_i listening
      exact ⟨fun _ => listening.1, .inl rfl⟩
    · exact ⟨fun h => absurd h unseen, .inr (.event (.step .loop))⟩

/-- Whatever happens in a scene, at most one thing happens in its listener. -/
theorem happens_apply (S : Suite) (attentive : s.Attentive) (e : Event) :
    (s.apply S e).Attentive ∧
      ((s.apply S e).listener = s.listener ∨ Happens S s.listener (s.apply S e).listener) := by
  have hother : ∀ {e : Listener.Event}, e ≠ .step .loop →
      ({ s with listener := s.listener.apply S e } : Scene).Attentive := by
    intro e other looked
    have hloop : (s.listener.apply S e).loop = s.listener.loop :=
      (standingWait_apply S s.listener other).loop
    exact hloop.trans (attentive looked)
  cases e with
  | startClose id => exact ⟨attentive, .inr (.event .trigger)⟩
  | finishClose id =>
    show (s.finishClose id).Attentive ∧ ((s.finishClose id).listener = s.listener ∨
      Happens S s.listener (s.finishClose id).listener)
    unfold finishClose
    split
    · exact ⟨hother (e := .closeSocket) Listener.Event.noConfusion, .inr (.event .closeSocket)⟩
    · exact ⟨attentive, .inl rfl⟩
  | listener e =>
    cases serving : e.isServing with
    | true =>
      rw [apply_of_serving s serving]
      have other : e ≠ .step .loop := by
        rintro rfl
        cases serving
      exact ⟨hother other, .inr (.event e)⟩
    | false =>
      cases e with
      | step party =>
        cases party with
        | loop => exact happens_stepLoop S attentive
        | _ => cases serving
      | trigger => exact ⟨attentive, .inl rfl⟩
      | closeSocket => exact ⟨attentive, .inl rfl⟩
      | arrive answer =>
        exact ⟨hother (e := .arrive answer) Listener.Event.noConfusion,
          .inr (.event (.arrive answer))⟩
      | _ => cases serving

/-- What holds of a listener whatever happens holds along every run of a scene. -/
theorem listener_induction {P : Listener → Prop} (step : ∀ l l', Happens S l l' → P l → P l')
    (attentive : s.Attentive) (start : P s.listener) (events : List Event) :
    (s.run S events).Attentive ∧ P (s.run S events).listener := by
  induction events generalizing s with
  | nil => exact ⟨attentive, start⟩
  | cons e events ih =>
    obtain ⟨attentive', happens⟩ := happens_apply S attentive e
    refine ih attentive' ?_
    rcases happens with hsame | happens
    · rw [hsame]
      exact start
    · exact step _ _ happens start

end Scene

/-! ### What happens to the books, at the front and to the waits -/

theorem move_happens (happens : Happens S l l') : Books.Move l.books l'.books := by
  cases happens with
  | event e => exact move_apply S l e
  | refuses error socket listening polled =>
    obtain ⟨pause, hbooks⟩ := books_reportRefusal { l with socket } error
    rw [hbooks]
    exact .refuses pause listening
  | takes arrival socket listening polled =>
    rw [books_spawnTask]
    exact .takes listening

theorem frontMove_happens (happens : Happens S l l') : l.front.Move l'.front := by
  cases happens with
  | event e => exact frontMove_apply S l e
  | refuses error socket listening polled =>
    rw [front_reportRefusal]
    exact .refuses error socket polled
  | takes arrival socket listening polled => exact .takes arrival socket polled

theorem settings_happens (happens : Happens S l l') : l'.settings = l.settings := by
  cases happens with
  | event e => exact settings_apply S l e
  | refuses error socket listening polled =>
    obtain ⟨pause, l₁, hcore, heq⟩ := reportRefusal_eq { l with socket } error
    rw [heq]
    exact congrArg Core.settings hcore
  | takes arrival socket listening polled => rfl

/-- Either something happens to the waits, or the loop takes a step and has not returned. -/
theorem standing_happens (happens : Happens S l l') :
    l.standing.Wait l.Met l'.standing ∨
      l.loop ≠ .stopped ∧ l'.drains = l.drains ∧ l'.drained = l.drained := by
  cases happens with
  | event e =>
    by_cases other : e = .step .loop
    · subst other
      rcases apply_step S l .loop with ⟨_, same⟩ | ⟨l', happly, ⟨step⟩⟩
      · rw [same]
        exact .inl .still
      · rw [happly]
        exact .inr (standing_stepLoop (stepLoop_spec step))
    · exact .inl (standingWait_apply S l other)
  | refuses error socket listening polled =>
    obtain ⟨pause, l₁, hcore, heq⟩ := reportRefusal_eq { l with socket } error
    have hsame : l₁.standing = l.standing := standing_of_core hcore
    rw [heq]
    refine .inr ⟨?_, congrArg Standing.drains hsame, congrArg Standing.drained hsame⟩
    rw [listening]
    decide
  | takes arrival socket listening polled =>
    refine .inr ⟨?_, rfl, rfl⟩
    rw [listening]
    decide

/-! ## The end of the accept loop -/

/-- A socket that is gone does not come back. -/
theorem Front.Move.gone {f f' : Front} (move : f.Move f') (gone : f.socket.raw = none) :
    f'.socket.raw = none := by
  have hpoll : ∀ {answer socket}, f.socket.poll = (answer, socket) → socket.raw = none := by
    intro answer socket polled
    rw [SocketSlot.poll, gone] at polled
    cases polled
    exact gone
  cases move with
  | serves serve =>
    rw [serve.socket]
    exact gone
  | arrives answer =>
    show f.socket.raw.map _ = none
    rw [gone]
    rfl
  | fires => exact gone
  | empties => rfl
  | takes arrival socket polled => exact hpoll polled
  | refuses error socket polled => exact hpoll polled

/-- A shutdown that has been fired stays so. -/
theorem Front.Move.fired {f f' : Front} (move : f.Move f') (fired : f.handoff.fired = true) :
    f'.handoff.fired = true := by
  rcases move.step with hsame | ⟨st, hst⟩
  · rw [hsame]
    exact fired
  · rw [hst]
    exact Handoff.fired_step_of_fired fired st

/-- A loop that returns has seen the shutdown, and has closed the socket. -/
theorem closed_of_stepLoop (stepped : LoopStepped l l') (stopped : l'.loop = .stopped) :
    l'.fired = true ∧ l'.socket.raw = none := by
  have hstop : ∀ l : Listener, l.fired = true →
      l.stopLoop.fired = true ∧ l.stopLoop.socket.raw = none := by
    intro l fired
    have hfront := front_stopLoop l
    have hhandoff : l.stopLoop.handoff = l.handoff := congrArg Front.handoff hfront
    have hsocket : l.stopLoop.socket = ⟨none⟩ := congrArg Front.socket hfront
    exact ⟨(congrArg Handoff.fired hhandoff).trans fired, congrArg SocketSlot.raw hsocket⟩
  cases stepped with
  | stops idle fired => exact hstop l fired
  | withdraws queued fired => exact hstop _ fired
  | returns listening fired => exact hstop _ fired
  | refuses error socket listening going polled =>
    obtain ⟨pause, l₁, hcore, heq⟩ := reportRefusal_eq { l with socket } error
    rw [heq] at stopped
    cases stopped
  | holds pause handoff reporting polled => cases reporting.symm.trans stopped
  | queues | draws | picksUp | takes | pauses | resumes => cases stopped

namespace Books

variable {b b' : Books} {capacity : Nat}

/-- When the loop has returned, it stays so, and no handshake begins. -/
theorem Move.idle (move : Move b b') (stopped : b.loop = .stopped) :
    b'.loop = .stopped ∧ b'.taken = b.taken ∧ (b.running = [] → b'.running = []) := by
  have hne : ∀ {phase : LoopPhase}, b.loop = phase → phase = .stopped :=
    fun hphase => hphase.symm.trans stopped
  cases move with
  | stops idle => exact ⟨rfl, rfl, id⟩
  | queues seeking => cases hne seeking
  | draws seeking met => cases hne seeking
  | withdraws queued => cases hne queued
  | picksUp queued met => cases hne queued
  | returns listening => cases hne listening
  | refuses pause listening => cases hne listening
  | pauses pause timer reporting => cases hne reporting
  | resumes timer pausing => cases hne pausing
  | takes listening => cases hne listening
  | ends k runs =>
    refine ⟨stopped, rfl, fun hnone => ?_⟩
    show b.running.filter (· != k) = []
    rw [hnone]
    rfl
  | still | waits | claims | drains | leaves => exact ⟨stopped, rfl, id⟩

/-- When a party has got all tokens, nobody else has any. -/
theorem Sound.idle_of_met (sound : Sound capacity b) (need : b.need = capacity) {id : Nat}
    (met : b.pool.isMet (.drain id) = true) : b.running = [] := by
  have hgot : b.pool.gotBy (.drain id) = b.need :=
    (sound.claimed.drain id _ (sound.claimed.orderly.gotBy_of_isMet met)).2
  have htotal := b.pool.total_collect (.drain id)
  have hbalanced : b.pool.total + b.loop.inHand + b.running.length = capacity := sound.balanced
  apply List.eq_nil_of_length_eq_zero
  omega

end Books

/-! ## Patience -/

/-- Whoever waits for a listener to drain asks for tokens only when the accept loop has returned,
    and is done only when no handshake runs. -/
structure Patient (capacity : Nat) (l : Listener) : Prop where
  books : Books.Sound capacity l.books
  need : l.drainNeed = capacity
  closed : l.loop = .stopped → l.fired = true ∧ l.socket.raw = none
  claiming : ∀ id, l.drains.find? id = some .claiming → l.loop = .stopped
  done : ∀ id, l.drains.find? id = some .done → id ∈ l.drained
  ended : l.drained ≠ [] → l.loop = .stopped ∧ l.tasks.ids = []

namespace Patient

variable {capacity : Nat}

theorem closed_happens (patient : Patient capacity l) (happens : Happens S l l')
    (stopped : l'.loop = .stopped) : l'.fired = true ∧ l'.socket.raw = none := by
  have hmove := frontMove_happens happens
  by_cases before : l.loop = .stopped
  · obtain ⟨fired, gone⟩ := patient.closed before
    exact ⟨hmove.fired fired, hmove.gone gone⟩
  -- it is this step by which the loop returns
  cases happens with
  | event e =>
    by_cases other : e = .step .loop
    · subst other
      rcases apply_step S l .loop with ⟨_, same⟩ | ⟨l', happly, ⟨step⟩⟩
      · rw [same] at stopped
        exact absurd stopped before
      · rw [happly] at stopped ⊢
        exact closed_of_stepLoop (stepLoop_spec step) stopped
    · have hloop : (l.apply S e).loop = l.loop := (standingWait_apply S l other).loop
      exact absurd (hloop.symm.trans stopped) before
  | refuses error socket listening polled =>
    obtain ⟨pause, l₁, hcore, heq⟩ := reportRefusal_eq { l with socket } error
    rw [heq] at stopped
    cases stopped
  | takes arrival socket listening polled => cases stopped

/-- A wait that ends does so when no handshake runs, and then none comes any more. -/
theorem ended_happens (patient : Patient capacity l) (happens : Happens S l l')
    (ended : l'.drained ≠ []) : l'.loop = .stopped ∧ l'.tasks.ids = [] := by
  have hkeeps : l'.drained = l.drained → l'.loop = .stopped ∧ l'.tasks.ids = [] := by
    intro same
    obtain ⟨stopped, hnone⟩ := patient.ended (same ▸ ended)
    obtain ⟨stopped', _, hkeeps⟩ := (move_happens happens).idle stopped
    exact ⟨stopped', hkeeps hnone⟩
  rcases standing_happens happens with wait | ⟨running, hdrains, hdrained⟩
  · generalize hafter : l'.standing = after at wait
    cases wait with
    | ends id claiming met =>
      have hnone := patient.books.idle_of_met patient.need met
      obtain ⟨stopped', _, hkeeps⟩ := (move_happens happens).idle (patient.claiming id claiming)
      exact ⟨stopped', hkeeps hnone⟩
    | still | starts | claims | leaves => exact hkeeps (congrArg Standing.drained hafter)
  · exact hkeeps hdrained

theorem happens (patient : Patient capacity l) (happens : Happens S l l') :
    Patient capacity l' := by
  have hmove := move_happens happens
  refine ⟨patient.books.move hmove, ?_, patient.closed_happens happens, ?_, ?_,
    patient.ended_happens happens⟩
  · rw [drainNeed, settings_happens happens]
    exact patient.need
  · intro id claiming
    rcases standing_happens happens with wait | ⟨running, hdrains, _⟩
    · exact wait.claiming patient.claiming id claiming
    · rw [hdrains] at claiming
      exact absurd (patient.claiming id claiming) running
  · intro id done
    rcases standing_happens happens with wait | ⟨running, hdrains, hdrained⟩
    · exact wait.done patient.done id done
    · rw [hdrains] at done
      rw [hdrained]
      exact patient.done id done

end Patient

/-- Of a capacity that is accepted one claim can ask for all. -/
theorem drainNeed_of_accepted (accepted : checkCapacity l.settings.capacity = .ok ()) :
    l.drainNeed = l.settings.capacity := by
  have hbound : l.settings.capacity ≤ maxCapacity := by
    unfold checkCapacity at accepted
    split at accepted
    · cases accepted
    · omega
  exact Nat.min_eq_left (hbound.trans (Nat.min_le_right _ _))

/-- A listener that has just been opened has nobody who waits for it. -/
theorem patient_opened {identity : Identity} {capacity timeout : Nat}
    {address : Except SystemError SocketAddress}
    (opened : ofRaw identity capacity timeout address = .ok l) : Patient capacity l := by
  obtain ⟨accepted, _, _, rfl⟩ := eq_of_opened opened
  exact ⟨sound_opened _ capacity _, drainNeed_of_accepted accepted, LoopPhase.noConfusion,
    (fun _ held => by cases held), (fun _ held => by cases held), fun ended => absurd rfl ended⟩

/-! ## A wait that is over -/

/-- Nothing goes on in a listener: the accept loop has returned, the socket is closed, the shutdown
    has been fired, and no handshake runs. -/
structure AtRest (taken : Nat) (l : Listener) : Prop where
  stopped : l.loop = .stopped
  gone : l.socket.raw = none
  fired : l.fired = true
  empty : l.tasks = []
  /-- So many connections have been taken. -/
  taken : l.connections = taken

namespace Patient

variable {capacity : Nat} {s : Scene}

theorem atRest_of_mem (patient : Patient capacity l) (ended : id ∈ l.drained) :
    l.AtRest l.connections := by
  obtain ⟨stopped, hnone⟩ := patient.ended (List.ne_nil_of_mem ended)
  obtain ⟨fired, gone⟩ := patient.closed stopped
  exact ⟨stopped, gone, fired, List.map_eq_nil_iff.1 hnone, rfl⟩

/-- Once nothing goes on, nothing begins. -/
theorem atRest_next (patient : Patient capacity l) {taken : Nat} (atRest : l.AtRest taken)
    (happens : Happens S l l') : l'.AtRest taken := by
  obtain ⟨stopped', htaken, hkeeps⟩ := (move_happens happens).idle atRest.stopped
  obtain ⟨fired', gone'⟩ := (patient.happens happens).closed stopped'
  have hnone : l'.tasks.ids = [] := hkeeps (congrArg Roster.ids atRest.empty)
  exact ⟨stopped', gone', fired', List.map_eq_nil_iff.1 hnone, htaken.trans atRest.taken⟩

theorem atRest_run (patient : Patient capacity s.listener) (attentive : s.Attentive) {taken : Nat}
    (atRest : s.listener.AtRest taken) (events : List Scene.Event) :
    (s.run S events).listener.AtRest taken :=
  (Scene.listener_induction (P := fun l => Patient capacity l ∧ l.AtRest taken)
    (fun _ _ happens hold => ⟨hold.1.happens happens, hold.1.atRest_next hold.2 happens⟩) attentive
    ⟨patient, atRest⟩ events).2.2

/-- Every claim of a party that waits is to all tokens. -/
theorem whole (patient : Patient capacity l) {c : Claim} (asked : c ∈ l.pool.claims)
    (claims : c.claimant = .drain id) : c.need = capacity := by
  have hmem := TokenPool.mem_demands asked
  rw [claims] at hmem
  exact (patient.books.claimed.drain id c.need hmem).2.trans patient.need

/-- When nothing goes on, all tokens are in the pool or with parties that wait. -/
theorem available_of_atRest (patient : Patient capacity l) {taken : Nat} (atRest : l.AtRest taken) :
    l.pool.available + l.drainTokens = capacity := by
  have kept := tokensKept_of_sound patient.books
  have hconserved := kept.conserved
  have hnone : l.pool.gotBy .loop = 0 := by
    refine TokenPool.gotBy_eq_zero (patient.books.claimed.loop_absent ?_)
    show l.loop ≠ .queued
    rw [atRest.stopped]
    decide
  have hloop : l.loopTokens = 0 := by
    rw [loopTokens_of_sound patient.books, hnone, atRest.stopped]
    rfl
  rw [hloop, atRest.empty] at hconserved
  exact hconserved

/-- Parties that do not ask for tokens have none. -/
theorem drainTokens_eq_zero (patient : Patient capacity l)
    (settled : ∀ id, l.drains.find? id ≠ some .claiming) : l.drainTokens = 0 := by
  have hnone : l.pool.claims.filter (·.claimant != .loop) = [] := by
    rw [List.filter_eq_nil_iff]
    intro c asked
    cases hclaimant : c.claimant with
    | loop => simp
    | drain id =>
      exact absurd ((tokensKept_of_sound patient.books).drainers c asked id hclaimant) (settled id)
  rw [drainTokens, hnone]
  rfl

end Patient

/-- What parties that wait for a listener of a capacity to drain can rely on. -/
structure DrainsLast (S : Suite) (capacity : Nat) (s : Scene) : Prop where
  /-- Whoever waits asks for all tokens, and no fewer. -/
  need : s.listener.drainNeed = capacity
  whole : ∀ c ∈ s.listener.pool.claims, ∀ id, c.claimant = .drain id → c.need = capacity
  /-- A wait that is over is on record, -/
  done : ∀ id, s.listener.drains.find? id = some .done → id ∈ s.listener.drained
  /-- and from then on nothing goes on in the listener, whatever happens. -/
  atRest : ∀ id ∈ s.listener.drained, ∀ events : List Scene.Event,
    (s.run S events).listener.AtRest s.listener.connections
  /-- All tokens are available or with other parties that wait, -/
  kept : ∀ id ∈ s.listener.drained,
    s.listener.pool.available + s.listener.drainTokens = capacity
  /-- and when none of those is left, all are available. -/
  available : ∀ id ∈ s.listener.drained,
    (∀ other, s.listener.drains.find? other ≠ some .claiming) →
      s.listener.pool.available = capacity

theorem drainsLast_of_patient {capacity : Nat} {s : Scene} (attentive : s.Attentive)
    (patient : Patient capacity s.listener) : DrainsLast S capacity s := by
  have hkept : ∀ id ∈ s.listener.drained,
      s.listener.pool.available + s.listener.drainTokens = capacity :=
    fun id ended => patient.available_of_atRest (patient.atRest_of_mem ended)
  refine ⟨patient.need, fun c asked id => patient.whole asked, patient.done, ?_, hkept, ?_⟩
  · intro id ended events
    exact patient.atRest_run attentive (patient.atRest_of_mem ended) events
  · intro id ended settled
    have hall := hkept id ended
    rw [patient.drainTokens_eq_zero settled] at hall
    exact hall

/-- **A listener is drained last.**  For every capacity that is accepted, however many parties wait
    for the listener to drain and however their steps and everything else are interleaved: a wait
    ends only when the accept loop has returned, the socket is closed, the shutdown has been fired
    and no handshake runs, and none runs later; it asks for all tokens, and they are there again
    once the other waits are over. -/
theorem drains_last (S : Suite) (identity : Identity) (capacity timeout : Nat)
    (address : SocketAddress) (accepted : checkCapacity capacity = .ok ()) :
    ∃ l₀, ofRaw identity capacity timeout (.ok address) = .ok l₀ ∧
      ∀ events : List Scene.Event,
        DrainsLast S capacity (Scene.run S { listener := l₀ } events) := by
  obtain ⟨l₀, opened⟩ : ∃ l₀, ofRaw identity capacity timeout (.ok address) = .ok l₀ := by
    rw [ofRaw, accepted]
    exact ⟨_, rfl⟩
  have unseen : ({ listener := l₀ } : Scene).Attentive :=
    fun looked => absurd looked Bool.false_ne_true
  refine ⟨l₀, opened, fun events => ?_⟩
  obtain ⟨attentive, patient⟩ := Scene.listener_induction (S := S) (P := Patient capacity)
    (fun _ _ happens patient => patient.happens happens) unseen (patient_opened opened) events
  exact drainsLast_of_patient attentive patient

/-- A connection is taken, then the listener is closed and two parties wait for it to drain: the
    first asks for both tokens while the handshake has one of them, the second asks behind it, and
    both end. -/
theorem drains_last_sample :
    checkCapacity 2 = .ok () ∧
      ∃ l₀, ofRaw ⟨Octets.replicate 32 2⟩ 2 1000 (.ok ⟨.v4 ⟨127, 0, 0, 1⟩, 9735, 0⟩) = .ok l₀ ∧
        let events : List Scene.Event :=
          [.listener (.newStream 0), .listener (.arrive (.ok ⟨0, .v4 ⟨127, 0, 0, 1⟩, 40000, 0⟩)),
            .listener (.step .loop), .listener (.step .loop), .listener (.step .loop),
            .startClose 0, .listener (.startDrain 0), .listener (.startDrain 1),
            .listener (.step .loop), .listener (.step (.drain 0)), .listener (.step (.drain 1)),
            .finishClose 0, .listener (.step (.task 1)), .listener (.step (.drain 0)),
            .listener (.step (.drain 1))]
        let s := Scene.run .standard { listener := l₀ } events
        DrainsLast .standard 2 s ∧ s.listener.drained = [1, 0] ∧ s.listener.connections = 1 ∧
          s.listener.pool.available = 2 := by
  refine ⟨rfl, ?_⟩
  obtain ⟨l₀, opened, drains⟩ := drains_last .standard ⟨Octets.replicate 32 2⟩ 2 1000
    ⟨.v4 ⟨127, 0, 0, 1⟩, 9735, 0⟩ rfl
  refine ⟨l₀, opened, drains _, ?_⟩
  cases opened
  exact ⟨rfl, rfl, rfl⟩

end Gatehouse.Listener
