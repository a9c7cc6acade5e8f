import Gatehouse.Proofs.Listener.Backing

/-!
# Outcomes that are dropped, and their streams

What is on record in a listener stays there, and a secured connection that the handoff drops is hung
up in the same step (`Later`).  It had been submitted, so its stream was there, and is shut from then
on (`HungUp`).  With what the shutdown does to the handoff this is what becomes of everybody once it
has been fired (`shutdown_dominates`).
-/

namespace Gatehouse.Listener

variable {S : Suite} {l l' : Listener} {id : Nat} {task : HandshakeTask}

/-! ## What stays, and what is hung up -/

/-- The log goes on, and a secured connection that is dropped in between is hung up. -/
structure Later (l l' : Listener) : Prop where
  log : l.log <:+ l'.log
  hungUp : ∀ connection, .spilled (.ok connection) ∈ l'.handoff.history →
    .spilled (.ok connection) ∈ l.handoff.history ∨ Closes l l' connection.stream

theorem Later.trans {l'' : Listener} (h : Later l l') (h' : Later l' l'') : Later l l'' where
  log := h.log.trans h'.log
  hungUp := by
    intro connection spilled
    rcases h'.hungUp connection spilled with hold | closes
    · exact (h.hungUp connection hold).imp_right fun closes => closes.after h'.log
    · exact .inr (closes.before h.log)

/-- As long as the handoff drops nothing, nothing has to be hung up. -/
theorem later_of_log (log : l.log <:+ l'.log) (handoff : l'.handoff = l.handoff) : Later l l' where
  log := log
  hungUp := fun _ spilled => .inl (handoff ▸ spilled)

theorem later_note (l : Listener) (h : Happening) : Later l (l.note h) :=
  later_of_log (List.suffix_cons _ _) rfl

theorem later_submit (l : Listener) (id : Nat) (outcome : Outcome) :
    Later l { l with handoff := l.handoff.submit id outcome } where
  log := List.suffix_rfl
  hungUp := by
    intro connection spilled
    rcases List.mem_cons.1 spilled with h | hold
    · cases h
    · exact .inl hold

theorem later_closeStream (l : Listener) (stream : Nat) : Later l (l.closeStream stream) := by
  refine later_of_log ?_ (congrArg Core.handoff (core_closeStream l stream))
  rw [closeStream_log]
  exact List.suffix_cons _ _

theorem later_dropOutcome (l : Listener) (outcome : Outcome) : Later l (l.dropOutcome outcome) := by
  cases outcome with
  | ok connection => exact later_closeStream l connection.stream
  | error _ => exact later_of_log List.suffix_rfl rfl

/-- The handoff drops an outcome, and so does the party that had it. -/
theorem later_dropped {handoff : Handoff Outcome} {outcome : Outcome}
    (dropped : ∀ connection, .spilled (.ok connection) ∈ handoff.history →
      .spilled (.ok connection) ∈ l.handoff.history ∨ outcome = .ok connection) :
    Later l ({ l with handoff : Listener }.dropOutcome outcome) := by
  have hsame : ({ l with handoff : Listener }.dropOutcome outcome).handoff = handoff :=
    congrArg Core.handoff (core_dropOutcome { l with handoff } outcome)
  refine ⟨(later_dropOutcome { l with handoff } outcome).log, fun connection spilled => ?_⟩
  rw [hsame] at spilled
  rcases dropped connection spilled with hold | rfl
  · exact .inl hold
  · exact .inr (closes_closeStream { l with handoff : Listener } connection.stream)

theorem later_foldl_closeStream (arrivals : List Arrival) (l : Listener) :
    Later l (arrivals.foldl (fun l arrival => l.closeStream arrival.stream) l) := by
  induction arrivals generalizing l with
  | nil => exact later_of_log List.suffix_rfl rfl
  | cons arrival arrivals ih => exact (later_closeStream l arrival.stream).trans (ih _)

theorem later_closeSocket (l : Listener) : Later l l.closeSocket := by
  unfold closeSocket
  split
  · exact later_of_log List.suffix_rfl rfl
  · exact (later_foldl_closeStream l.socket.waiting l).trans
      (later_of_log (List.suffix_cons _ _) rfl)

/-! ## The handshakes -/

theorem later_submitOutcome (l : Listener) (id : Nat) (task : HandshakeTask) (outcome : Outcome) :
    Later l (l.submitOutcome id task outcome) :=
  (later_submit l id outcome).trans (later_of_log (List.suffix_cons _ _) rfl)

theorem later_endTask (l : Listener) (id : Nat) : Later l (l.endTask id) :=
  later_of_log (List.suffix_cons _ _) rfl

theorem later_rejectActs (l : Listener) (id : Nat) (task : HandshakeTask) (failure : Failure) :
    Later l (l.rejectActs id task failure) :=
  (later_closeStream l task.stream).trans (later_of_log (List.suffix_cons _ _) rfl)

theorem later_failActs (l : Listener) (id : Nat) (task : HandshakeTask) (failure : Failure) :
    Later l (l.failActs id task failure) := by
  have hrejected := later_rejectActs l id task failure
  rcases failActs_cases l id task failure with ⟨_, heq⟩ | ⟨_, heq⟩
  · rw [heq]
    exact hrejected.trans (later_endTask _ id)
  · rw [heq]
    exact hrejected.trans (later_submitOutcome _ id task _)

theorem later_succeedActs (l : Listener) (id : Nat) (task : HandshakeTask) (machine : Machine)
    (remote : PublicKey) : Later l (l.succeedActs id task machine remote) := by
  have hsecured : Later l (l.secureActs id) := later_of_log (List.suffix_cons _ _) rfl
  rw [succeedActs_eq]
  exact hsecured.trans (later_submitOutcome _ id task _)

/-- A producer that is not told that nobody takes its outcome drops nothing. -/
theorem later_polled {answer : Poll Bool} {handoff : Handoff Outcome}
    (polled : l.handoff.pollProducer id = (answer, handoff))
    (kept : answer = .ready false → ∀ connection,
      l.handoff.producers.find? id ≠ some (.ok connection)) : Later l { l with handoff } where
  log := List.suffix_rfl
  hungUp := by
    intro connection spilled
    have hpolled := l.handoff.pollProducer_spec id
    rw [polled] at hpolled
    refine .inl ((Handoff.spilled_producerPolled hpolled spilled).resolve_right ?_)
    exact fun ⟨hfalse, held⟩ => kept hfalse connection held

theorem later_stepTask {sight : Sight} (stepped : TaskStepped S l id task sight l') :
    Later l l' := by
  have hwires : ∀ {l₁ : Listener}, l₁.log = l.log → l₁.handoff = l.handoff → Later l l₁ :=
    fun log handoff => later_of_log (log ▸ List.suffix_rfl) handoff
  cases stepped with
  | aborts spawned fired =>
    have hended : Later l (((l.enter id .init).enter id .rejected).endTask id) :=
      ((later_note l _).trans (later_note _ _)).trans (later_endTask _ id)
    exact hended.trans (later_closeStream _ task.stream)
  | begins spawned going => exact (later_note l _).trans (later_of_log (List.suffix_cons _ _) rfl)
  | shut inActs fired => exact later_failActs l id task .closed
  | breaks failure wires inActs going =>
    have hsame : Later l { l with wires } := hwires rfl rfl
    exact hsame.trans (later_failActs _ id task failure)
  | readsOne => exact hwires rfl rfl
  | takesOne machine got bytes timer wire inward act _ _ _ _ _ =>
    have hread : Later l (l.withWire task.stream { wire with inward }) := hwires rfl rfl
    rcases takeActOne_cases (l.withWire task.stream { wire with inward }) id task machine act with
      ⟨e, m, _, htake⟩ | ⟨m₁, _, ⟨e, m₂, _, htake⟩ | ⟨two, m₂, _, htake⟩⟩
    · rw [htake]
      exact hread.trans (later_failActs _ id task _)
    · rw [htake]
      have hdrawn : Later l { l.withWire task.stream { wire with inward } with
          chance := (l.withWire task.stream { wire with inward }).chance.takeSecret.2 } :=
        hwires rfl rfl
      exact hdrawn.trans (later_failActs _ id task _)
    · rw [htake]
      exact hwires rfl rfl
  | writes => exact hwires rfl rfl
  | awaits => exact later_of_log (List.suffix_cons _ _) rfl
  | readsThree => exact hwires rfl rfl
  | takesThree machine got bytes timer wire inward act _ _ _ _ _ =>
    have hread : Later l (l.withWire task.stream { wire with inward }) := hwires rfl rfl
    rcases takeActThree_cases (l.withWire task.stream { wire with inward }) id task machine act with
      ⟨e, m, _, htake⟩ | ⟨m, _, ⟨_, htake⟩ | ⟨remote, _, htake⟩⟩
    · rw [htake]
      exact hread.trans (later_failActs _ id task _)
    · rw [htake]
      exact hread.trans (later_failActs _ id task _)
    · rw [htake]
      exact hread.trans (later_succeedActs _ id task m remote)
  | holds handoff _ polled => exact later_polled polled (fun h => by cases h)
  | delivers handoff _ polled =>
    exact (later_polled polled (fun h => by cases h)).trans (later_endTask _ id)
  | drops outcome handoff _ held polled =>
    -- the outcome that is dropped is the one in hand
    have hpolled := l.handoff.pollProducer_spec id
    rw [polled] at hpolled
    have hdropped : Later l ({ l with handoff : Listener }.dropOutcome outcome) := by
      refine later_dropped fun connection spilled => ?_
      rcases Handoff.spilled_producerPolled hpolled spilled with hold | ⟨_, hheld⟩
      · exact .inl hold
      · exact .inr (Option.some.inj (held.symm.trans hheld))
    exact hdropped.trans (later_endTask _ id)

/-! ## The other parties -/

theorem later_stopLoop (l : Listener) : Later l l.stopLoop :=
  (later_closeSocket l).trans (later_of_log (List.suffix_cons _ _) rfl)

theorem later_reportRefusal (l : Listener) (error : SystemError) :
    Later l (l.reportRefusal error) := by
  rcases hpause : l.backoff.recordFailure l.chance with ⟨⟨range, length⟩, backoff, chance⟩
  let counted : Listener := { l with
    backoff, chance
    tally := { l.tally with acceptErrors := l.tally.acceptErrors + 1 }
    loop := .reporting (length.getD 0).toNat }
  have hcounted : Later l counted := later_of_log List.suffix_rfl rfl
  have hsubmitted : ∀ l₁ : Listener, Later l₁ ({ l₁ with
      handoff := l₁.handoff.submit loopProducer (.error (.accept error)) }.note (.refused error)) :=
    fun l₁ => (later_submit l₁ loopProducer _).trans (later_note _ _)
  unfold reportRefusal
  simp only [hpause]
  cases range with
  | none => exact hcounted.trans (hsubmitted counted)
  | some range =>
    exact (hcounted.trans (later_note counted (.jitter range))).trans (hsubmitted _)

/-- A step of the accept loop, which never holds a connection. -/
theorem later_stepLoop (loopOwn : ∀ connection,
      l.handoff.producers.find? loopProducer ≠ some (.ok connection))
    (stepped : LoopStepped l l') : Later l l' := by
  have hsame : ∀ {l₁ : Listener}, l₁.log = l.log → l₁.handoff = l.handoff → Later l l₁ :=
    fun log handoff => later_of_log (log ▸ List.suffix_rfl) handoff
  cases stepped with
  | stops idle fired => exact later_stopLoop l
  | queues seeking going unmet => exact hsame rfl rfl
  | draws seeking going met => exact hsame rfl rfl
  | withdraws queued fired =>
    have hleft : Later l { l with pool := l.pool.withdraw .loop } := hsame rfl rfl
    exact hleft.trans (later_stopLoop _)
  | picksUp queued going met => exact hsame rfl rfl
  | returns listening fired =>
    have hreleased : Later l l.releaseLoopToken := later_of_log (List.suffix_cons _ _) rfl
    exact hreleased.trans (later_stopLoop _)
  | refuses error socket listening going polled =>
    have hpolled : Later l { l with socket } := hsame rfl rfl
    exact hpolled.trans (later_reportRefusal _ error)
  | takes arrival socket listening going polled => exact later_of_log (List.suffix_cons _ _) rfl
  | holds pause handoff reporting polled => exact later_polled polled (fun _ => loopOwn)
  | pauses pause delivered handoff reporting polled =>
    exact (later_polled polled (fun _ => loopOwn)).trans
      (later_of_log (List.suffix_cons _ _) rfl)
  | resumes timer pausing going elapsed => exact hsame rfl rfl

theorem later_stepCall {call : Nat} (h : l.stepCall call = some l') : Later l l' := by
  have hpolled := l.handoff.pollConsumer_spec call
  unfold stepCall at h
  split at h
  · simp only at h
    split at h
    · rename_i handoff polled
      cases h
      rw [polled] at hpolled
      exact ⟨List.suffix_rfl, fun connection spilled =>
        .inl ((Handoff.spilled_consumerPolled hpolled spilled).resolve_right (fun h => by cases h.1))⟩
    · rename_i outcome handoff polled
      cases h
      rw [polled] at hpolled
      exact ⟨List.suffix_cons _ _, fun connection spilled =>
        .inl ((Handoff.spilled_consumerPolled hpolled spilled).resolve_right (fun h => by cases h.1))⟩
    · rename_i handoff polled
      rw [polled] at hpolled
      split at h
      · -- the outcome that is dropped is the one in the slot
        rename_i outcome held
        cases h
        have hdropped : Later l ({ l with handoff : Listener }.dropOutcome outcome) := by
          refine later_dropped fun connection spilled => ?_
          rcases Handoff.spilled_consumerPolled hpolled spilled with hold | ⟨_, hheld⟩
          · exact .inl hold
          · cases held.symm.trans hheld
            exact .inr rfl
        exact hdropped.trans (later_note _ _)
      · rename_i hempty
        cases h
        exact ⟨List.suffix_cons _ _, fun connection spilled =>
          .inl ((Handoff.spilled_consumerPolled hpolled spilled).resolve_right
            (fun h => hempty _ h.2))⟩
  · cases h

theorem later_abandonCall (l : Listener) (call : Nat) : Later l (l.abandonCall call) := by
  unfold abandonCall
  simp only
  split
  · rename_i outcome held
    refine later_dropped fun connection spilled => ?_
    rcases Handoff.spilled_abandonConsumer spilled with hold | hheld
    · exact .inl hold
    · cases held.symm.trans hheld
      exact .inr rfl
  · rename_i hempty
    exact ⟨List.suffix_rfl, fun connection spilled =>
      .inl ((Handoff.spilled_abandonConsumer spilled).resolve_right (hempty _))⟩

theorem later_stepDrain {drain : Nat} (stepped : DrainStepped l drain l') : Later l l' := by
  cases stepped with
  | asks _ _ => exact later_of_log List.suffix_rfl rfl
  | drains _ _ => exact later_of_log (List.suffix_cons _ _) rfl

theorem later_apply (S : Suite) (loopOwn : ∀ connection,
      l.handoff.producers.find? loopProducer ≠ some (.ok connection)) (e : Event) :
    Later l (l.apply S e) := by
  have hsame : ∀ {l₁ : Listener}, l₁.log = l.log → l₁.handoff = l.handoff → Later l l₁ :=
    fun log handoff => later_of_log (log ▸ List.suffix_rfl) handoff
  cases e with
  | step party =>
    rcases apply_step S l party with ⟨_, same⟩ | ⟨l', happly, taken⟩
    · rw [same]
      exact hsame rfl rfl
    · rw [happly]
      cases taken with
      | loop step => exact later_stepLoop loopOwn (stepLoop_spec step)
      | task task held step => exact later_stepTask (stepTask_spec held step)
      | call step => exact later_stepCall step
      | drain step => exact later_stepDrain (stepDrain_spec step)
  | startCall call => exact ⟨List.suffix_rfl, fun _ spilled => .inl spilled⟩
  | abandonCall call => exact later_abandonCall l call
  | trigger => exact ⟨List.suffix_rfl, fun _ spilled => .inl spilled⟩
  | closeSocket => exact later_closeSocket l
  | wire stream change =>
    exact hsame (log_onWire l stream _) (congrArg Core.handoff (core_onWire l stream _))
  | startDrain _ | abandonDrain _ | arrive _ | newStream _ | advance _ | chance _ =>
    exact hsame rfl rfl

/-! ## Along a run -/

/-- Every secured connection that the handoff has dropped has been hung up: that is on record, and
    its stream, which is there, is shut. -/
def HungUp (l : Listener) : Prop :=
  ∀ connection, .spilled (.ok connection) ∈ l.handoff.history →
    .streamClosed connection.stream ∈ l.log ∧ l.Shut connection.stream

/-- What is known along a run of what has been submitted, and of what has been dropped. -/
structure Kept (l : Listener) : Prop where
  sourced : l.front.Sourced
  backed : ∀ id, Backed id l
  hungUp : l.HungUp

theorem Kept.apply (S : Suite) (kept : Kept l) (e : Event) : Kept (l.apply S e) := by
  have move := frontMove_apply S l e
  have wired := wired_apply S l e
  have known := kept.sourced.known
  refine ⟨move.sourced kept.sourced, fun id => (kept.backed id).happens (.event e), ?_⟩
  have stays : ∀ connection, .spilled (.ok connection) ∈ l.handoff.history →
      .streamClosed connection.stream ∈ (l.apply S e).log ∧
        (l.apply S e).Shut connection.stream := by
    intro connection hold
    obtain ⟨noted, shut⟩ := kept.hungUp connection hold
    exact ⟨wired.log.subset noted, wired.shut shut⟩
  intro connection spilled
  rcases move.spilled known spilled with hold | ⟨id, submitted⟩
  · exact stays connection hold
  · have later : Later l (l.apply S e) := later_apply S (fun connection held =>
      (kept.backed loopProducer).loopOwn (known.held _ _ (Roster.mem_of_find? held))) e
    rcases later.hungUp connection spilled with hold | closes
    · exact stays connection hold
    · -- a connection that was submitted is on a stream that is there
      have hangsUp := wired.hangsUp closes
      exact ⟨hangsUp.noted, hangsUp.shut ((kept.backed id).secured connection submitted)⟩

theorem kept_opened {identity : Identity} {capacity timeout : Nat}
    {address : Except SystemError SocketAddress}
    (opened : ofRaw identity capacity timeout address = .ok l) : Kept l := by
  have hopened : l.handoff = {} := congrArg Front.handoff (front_opened opened)
  refine ⟨sourced_opened opened, backed_opened opened, fun connection spilled => ?_⟩
  rw [hopened] at spilled
  cases spilled

theorem hungUp_run (S : Suite) {identity : Identity} {capacity timeout : Nat}
    {address : Except SystemError SocketAddress} {l₀ : Listener}
    (opened : ofRaw identity capacity timeout address = .ok l₀) (events : List Event) :
    (l₀.run S events).HungUp :=
  (run_induction (kept_opened opened) (fun _ e kept => kept.apply S e) events).hungUp

/-! ## The shutdown -/

/-- **The shutdown comes before everything else.**  In every state of the handoff in which it has
    been fired, the next poll of whoever is unfinished, or comes now, is the last and hands nothing
    out.  From the firing on nothing is returned or delivered, and once everybody has been polled or
    given up, what had not been returned by then has been dropped.  In a listener every connection
    that the handoff drops is hung up, so that its stream is shut, and a call at its turn fails
    because the listener is closed. -/
theorem shutdown_dominates (S : Suite) {identity : Identity} {capacity timeout : Nat}
    {address : Except SystemError SocketAddress} {l₀ : Listener}
    (opened : ofRaw identity capacity timeout address = .ok l₀) (events : List Event) :
    (∀ {α : Type} (steps : List (Handoff.Step α)), (Handoff.after steps).fired = true →
      (Handoff.after steps).Shut ∧
        ∃ before since, steps = before ++ .shut :: since ∧ (Handoff.after before).fired = false) ∧
    (∀ {α : Type} (before since : List (Handoff.Step α)), Handoff.Overtaken before since) ∧
    (l₀.run S events).HungUp ∧
    ((l₀.run S events).fired = true → (l₀.run S events).handoff.Shut ∧
      ∀ call consumer, (l₀.run S events).handoff.consumers.find? call = some consumer →
        ∃ l, (l₀.run S events).stepCall call = some l ∧
          l.front.answers = (call, .error .closed) :: (l₀.run S events).front.answers) :=
  ⟨fun _ fired => ⟨Handoff.shut_of_fired fired, Handoff.exists_firing rfl fired⟩,
    Handoff.overtaken, hungUp_run S opened events,
    fun fired => ⟨Handoff.shut_of_fired fired, fun _ _ held => stepCall_of_fired fired held⟩⟩

/-- A slot that has been filled and a producer that waits in line when the shutdown is fired; and
    a listener that is closed while a call waits. -/
theorem shutdown_dominates_sample :
    ∃ l₀, ofRaw ⟨Octets.replicate 32 2⟩ 1 1000 (.ok ⟨.v4 ⟨127, 0, 0, 1⟩, 9735, 0⟩) = .ok l₀ ∧
      let before : List (Handoff.Step Nat) :=
        [.request 0, .pollConsumer 0, .submit 0 7, .pollProducer 0, .submit 1 8, .pollProducer 1]
      let since : List (Handoff.Step Nat) := [.pollConsumer 0, .pollProducer 1]
      let events : List Event := [.startCall 5, .step (.call 5), .trigger]
      (Handoff.after (before ++ .shut :: since)).fired = true ∧
      (Handoff.after (before ++ .shut :: since)).Shut ∧
      Handoff.Attended (Handoff.after (before ++ [.shut])) since ∧
      (Handoff.after (before ++ .shut :: since)).submissions =
        (Handoff.after before).returned + (Handoff.after (before ++ .shut :: since)).dropped ∧
      (l₀.run .standard events).HungUp ∧
      ∃ l, (l₀.run .standard events).stepCall 5 = some l ∧
        l.front.answers = [(5, .error .closed)] := by
  refine ⟨_, rfl, ?_⟩
  intro before since events
  have opened : ofRaw ⟨Octets.replicate 32 2⟩ 1 1000 (.ok ⟨.v4 ⟨127, 0, 0, 1⟩, 9735, 0⟩) =
      .ok _ := rfl
  have fired : (Handoff.after (before ++ .shut :: since)).fired = true := rfl
  have attended : Handoff.Attended (Handoff.after (before ++ [.shut])) since := by
    refine ⟨fun id hid => ?_, fun id hid => ?_, fun done id outcome rest heq _ => ?_⟩
    · obtain rfl : id = 1 := List.mem_singleton.1 hid
      exact ⟨.pollProducer 1, by simp [since], rfl⟩
    · obtain rfl : id = 0 := List.mem_singleton.1 hid
      exact ⟨.pollConsumer 0, by simp [since], rfl⟩
    · have hmem : Handoff.Step.submit id outcome ∈ since := by
        rw [heq]
        exact List.mem_append_right done List.mem_cons_self
      simp [since] at hmem
  obtain ⟨hstates, hruns, hungUp, hcalls⟩ := shutdown_dominates .standard opened events
  exact ⟨fired, (hstates _ fired).1, attended, (hruns before since).dropped attended, hungUp,
    (hcalls rfl).2 5 .waiting rfl⟩

end Gatehouse.Listener
