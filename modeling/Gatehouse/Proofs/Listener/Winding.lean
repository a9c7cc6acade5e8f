import Gatehouse.Proofs.Listener.Reporting
import Gatehouse.Proofs.Listener.Service

/-!
# Winding up

Once the shutdown has been fired, nobody in a listener waits for a peer or for a deadline any more:
wherever a handshake or the accept loop stands, it ends at its next turn (`ends_stepTask`,
`stops_turn`), shuts its streams and gives its token back.  Nothing is handed out on the way
(`Unwinds`).  So one turn of everybody, in whatever order, leaves a listener that is drained but for
the parties that wait for that, and these are ready (`winds_up`).
-/

namespace Gatehouse

namespace Handoff

variable {α : Type} {h h' h'' : Handoff α} {id : Nat}

/-- Nothing is submitted, and nothing is handed out. -/
structure Mute (h h' : Handoff α) : Prop where
  quiet : Quiet h h'
  returned : h'.returned = h.returned
  consumers : h'.consumers = h.consumers

theorem Mute.refl (h : Handoff α) : Mute h h := ⟨.refl h, rfl, rfl⟩

theorem Mute.trans (mute : Mute h h') (mute' : Mute h' h'') : Mute h h'' where
  quiet := ⟨fun k => (mute'.quiet.submitted k).trans (mute.quiet.submitted k),
    mute'.quiet.fired.trans mute.quiet.fired⟩
  returned := mute'.returned.trans mute.returned
  consumers := mute'.consumers.trans mute.consumers

/-- After the shutdown a producer that is polled gives nothing to anybody. -/
theorem mute_of_polled (fired : h.fired = true) {answer : Poll Bool}
    (polled : h.pollProducer id = (answer, h')) : Mute h h' := by
  have heq : (h.pollProducer id).2 = h' := congrArg (·.2) polled
  have hconsumers : (h.pollProducer id).2.consumers = h.consumers := by
    cases held : h.producers.find? id with
    | none => rw [pollProducer, held]
    | some outcome =>
      rw [pollProducer_of_fired fired held]
      rfl
  rw [← heq]
  exact ⟨quiet_pollProducer h id, returned_step_of_fired fired (.pollProducer id), hconsumers⟩

end Handoff

namespace Listener

variable {S : Suite} {l l' l'' : Listener} {id : Nat} {task : HandshakeTask} {T : Nat → Prop}

/-! ## What turns leave as it is, and what goes -/

/-- Handshakes end and hang up, the socket may be closed, and nothing else happens. -/
structure Unwinds (l l' : Listener) : Prop where
  handoff : Handoff.Mute l.handoff l'.handoff
  connections : l'.connections = l.connections
  drains : l'.drains = l.drains
  wired : Wired (fun _ => True) l l'
  /-- A handshake is as it was, or it is gone and has hung up. -/
  tasks : ∀ id task, l.tasks.find? id = some task →
    l'.tasks.find? id = some task ∨ HangsUp l l' task.stream
  /-- No handshake is new. -/
  ids : l'.tasks.ids ⊆ l.tasks.ids
  /-- A connection that waits in the socket does so, or has been hung up. -/
  waiting : ∀ arrival ∈ l.socket.waiting,
    arrival ∈ l'.socket.waiting ∨ HangsUp l l' arrival.stream
  stopped : l.loop = .stopped → l'.loop = .stopped

namespace Unwinds

theorem refl (l : Listener) : Unwinds l l where
  handoff := .refl _
  connections := rfl
  drains := rfl
  wired := wired_of_wires rfl rfl
  tasks := fun _ _ held => .inl held
  ids := List.Subset.refl _
  waiting := fun _ hwaits => .inl hwaits
  stopped := fun h => h

theorem trans (unwinds : Unwinds l l') (unwinds' : Unwinds l' l'') : Unwinds l l'' where
  handoff := unwinds.handoff.trans unwinds'.handoff
  connections := unwinds'.connections.trans unwinds.connections
  drains := unwinds'.drains.trans unwinds.drains
  wired := unwinds.wired.trans unwinds'.wired
  tasks := by
    intro id task held
    rcases unwinds.tasks id task held with held' | hangsUp
    · exact (unwinds'.tasks id task held').imp_right (·.before unwinds.wired)
    · exact .inr (hangsUp.after unwinds'.wired)
  ids := fun _ hid => unwinds.ids (unwinds'.ids hid)
  waiting := by
    intro arrival hwaits
    rcases unwinds.waiting arrival hwaits with hwaits' | hangsUp
    · exact (unwinds'.waiting arrival hwaits').imp_right (·.before unwinds.wired)
    · exact .inr (hangsUp.after unwinds'.wired)
  stopped := fun h => unwinds'.stopped (unwinds.stopped h)

theorem fired (unwinds : Unwinds l l') (fired : l.fired = true) : l'.fired = true :=
  unwinds.handoff.quiet.fired.trans fired

end Unwinds

/-! ## The handshakes -/

/-- A handshake that ends is missing in the core. -/
theorem core_endTask (l : Listener) (id : Nat) :
    (l.endTask id).core = { l.core with
      pool := l.core.pool.release 1
      tasks := l.core.tasks.erase id
      record := .tokenReturned id :: l.core.record } :=
  rfl

theorem core_endTask_congr (same : l'.core = l.core) (id : Nat) :
    (l'.endTask id).core = (l.endTask id).core := by
  rw [core_endTask, core_endTask, same]

/-- A handshake that ends and has hung up. -/
theorem unwinds_of_ended {handoff : Handoff Outcome} (held : l.tasks.find? id = some task)
    (mute : Handoff.Mute l.handoff handoff)
    (same : l'.core = ({ l with handoff : Listener }.endTask id).core)
    (socket : l'.socket = l.socket) (wired : Wired T l l') (hangsUp : HangsUp l l' task.stream) :
    Unwinds l l' ∧ l'.tasks.find? id = none := by
  have htasks : l'.tasks = l.tasks.erase id := congrArg Core.tasks same
  have hhandoff : l'.handoff = handoff := congrArg Core.handoff same
  have hloop : l'.loop = l.loop := congrArg Core.loop same
  have hfind : ∀ k, l'.tasks.find? k = if k = id then none else l.tasks.find? k := by
    intro k
    rw [htasks, Roster.find?_erase]
  refine ⟨⟨hhandoff ▸ mute, congrArg Core.connections same, congrArg Core.drains same,
    wired.mono fun _ _ => trivial, ?_, ?_, ?_, ?_⟩, ?_⟩
  · intro k other hother
    by_cases hk : k = id
    · subst hk
      cases held.symm.trans hother
      exact .inr hangsUp
    · rw [hfind, if_neg hk]
      exact .inl hother
  · rw [htasks, Roster.ids_erase]
    exact List.filter_subset_self _
  · rw [socket]
    exact fun _ hwaits => .inl hwaits
  · exact hloop.trans
  · rw [hfind, if_pos rfl]

/-- Once the shutdown has been fired a handshake has a step to take, wherever it stands. -/
theorem exists_stepTask (S : Suite) (reporting : Reporting l) (fired : l.fired = true)
    (held : l.tasks.find? id = some task) : ∃ l', l.stepTask S id = some l' := by
  unfold stepTask
  rw [held]
  obtain ⟨stream, peer, phase⟩ := task
  cases phase with
  | spawned => exact ⟨_, rfl⟩
  | readOne machine got timer => exact ⟨_, if_pos fired⟩
  | writeTwo machine left => exact ⟨_, if_pos fired⟩
  | wroteTwo machine => exact ⟨_, rfl⟩
  | readThree machine got timer => exact ⟨_, if_pos fired⟩
  | reporting =>
    obtain ⟨outcome, found, _⟩ := reporting.task id _ held rfl
    have hrunnable := Handoff.producerRunnable_of_fired fired found
    show ∃ l', l.reportOutcome id = some l'
    unfold reportOutcome
    simp only [hrunnable, if_true, Handoff.pollProducer_of_fired fired found]
    exact ⟨_, rfl⟩

/-- That step is its last. -/
theorem ends_stepTask (reporting : Reporting l) (backed : Backed id l) (known : l.handoff.Known)
    (fired : l.fired = true) (held : l.tasks.find? id = some task) {sight : Sight}
    (stepped : TaskStepped S l id task sight l') (wired : Wired T l l') :
    Unwinds l l' ∧ l'.tasks.find? id = none := by
  have hgoing : ∀ {P : Prop}, l.fired = false → P :=
    fun going => absurd (going.symm.trans fired) Bool.false_ne_true
  have hanswer : ∀ {answer : Poll Bool} {handoff : Handoff Outcome},
      task.phase = .reporting → l.handoff.pollProducer id = (answer, handoff) →
        answer = .ready false := by
    intro answer handoff done polled
    obtain ⟨outcome, found, _⟩ := reporting.task id task held done
    rw [Handoff.pollProducer_of_fired fired found] at polled
    exact (congrArg (·.1) polled).symm
  cases stepped with
  | aborts spawned _ =>
    let entered : Listener := (l.enter id .init).enter id .rejected
    have hcore : ((entered.endTask id).closeStream task.stream).core = (l.endTask id).core :=
      core_closeStream _ _
    have hlog : l.log <:+ (entered.endTask id).log :=
      ((List.suffix_cons _ _).trans (List.suffix_cons _ _)).trans (List.suffix_cons _ _)
    have closes := (closes_closeStream (entered.endTask id) task.stream).before hlog
    exact unwinds_of_ended held (.refl _) hcore (socket_closeStream _ _) wired
      (wired.hangsUp closes)
  | shut inActs _ =>
    have hended := core_endTask_congr (core_rejectActs l id task .closed) id
    have closes : Closes l (l.failActs id task .closed) task.stream :=
      (closes_rejectActs l id task .closed).after (List.suffix_cons _ _)
    exact unwinds_of_ended held (.refl _) hended (socket_closeStream l task.stream) wired
      (wired.hangsUp closes)
  | drops outcome handoff done found polled =>
    let dropped : Listener := { l with handoff }.dropOutcome outcome
    have hended := core_endTask_congr (core_dropOutcome { l with handoff } outcome) id
    have hangsUp : HangsUp l (dropped.endTask id) task.stream := by
      obtain ⟨own, hown, accounts⟩ := reporting.task id task held done
      cases found.symm.trans hown
      cases outcome with
      | ok connection =>
        rw [← show connection.stream = task.stream from accounts]
        have closes : Closes l dropped connection.stream :=
          closes_closeStream { l with handoff : Listener } connection.stream
        exact wired.hangsUp (closes.after (List.suffix_cons _ _))
      | error failure =>
        have submitted := known.held id _ (Roster.mem_of_find? found)
        have shut := backed.failed task failure held submitted
        exact ⟨wired.log.subset accounts, fun _ => wired.shut shut⟩
    exact unwinds_of_ended held (Handoff.mute_of_polled fired polled) hended
      (socket_dropOutcome _ outcome) wired hangsUp
  | holds handoff done polled => cases hanswer done polled
  | delivers handoff done polled => cases hanswer done polled
  | begins _ going => exact hgoing going
  | breaks _ _ _ going => exact hgoing going
  | readsOne _ _ _ _ _ _ _ going => exact hgoing going
  | takesOne _ _ _ _ _ _ _ _ going => exact hgoing going
  | writes _ _ _ _ _ _ going => exact hgoing going
  | awaits _ _ going => exact hgoing going
  | readsThree _ _ _ _ _ _ _ going => exact hgoing going
  | takesThree _ _ _ _ _ _ _ _ going => exact hgoing going

/-- So it ends at its turn. -/
theorem ends_turn (S : Suite) (reporting : Reporting l) (backed : Backed id l)
    (known : l.handoff.Known) (fired : l.fired = true) (fuel : Nat) :
    Unwinds l (l.turn S (fuel + 1) (.task id)) ∧
      (l.turn S (fuel + 1) (.task id)).tasks.find? id = none := by
  have hidle : ∀ {l : Listener}, l.tasks.find? id = none → l.stepParty S (.task id) = none := by
    intro l absent
    show l.stepTask S id = none
    rw [stepTask, absent]
  cases held : l.tasks.find? id with
  | none =>
    rw [turn_of_none _ (hidle held)]
    exact ⟨.refl l, held⟩
  | some task =>
    obtain ⟨l', hstep⟩ := exists_stepTask S reporting fired held
    obtain ⟨unwinds, absent⟩ := ends_stepTask reporting backed known fired held
      (stepTask_spec held hstep) (wired_stepTask held hstep)
    have hparty : l.stepParty S (.task id) = some l' := hstep
    rw [turn_of_some fuel hparty, turn_of_none fuel (hidle absent)]
    exact ⟨unwinds, absent⟩

/-! ## The accept loop -/

/-- A socket that is closed hangs up on the connections that wait in it. -/
theorem closes_closeSocket (l : Listener) :
    ∀ arrival ∈ l.socket.waiting, Closes l l.closeSocket arrival.stream := by
  have hstreams : ∀ (arrivals : List Arrival) (l : Listener), ∀ arrival ∈ arrivals,
      Closes l (arrivals.foldl (fun l arrival => l.closeStream arrival.stream) l)
        arrival.stream := by
    intro arrivals
    induction arrivals with
    | nil => exact fun _ _ hmem => absurd hmem List.not_mem_nil
    | cons first arrivals ih =>
      intro l arrival hmem
      rw [List.foldl_cons]
      rcases List.mem_cons.1 hmem with rfl | hmem
      · have hlater := later_foldl_closeStream arrivals (l.closeStream arrival.stream)
        exact (closes_closeStream l arrival.stream).after hlater.log
      · exact (ih _ arrival hmem).before (later_closeStream l first.stream).log
  intro arrival hwaits
  unfold closeSocket
  rw [SocketSlot.close]
  cases hraw : l.socket.raw with
  | none =>
    rw [SocketSlot.waiting, hraw] at hwaits
    cases hwaits
  | some _ =>
    exact (hstreams l.socket.waiting l arrival hwaits).after (List.suffix_cons _ _)

theorem unwinds_stopLoop (l : Listener) : Unwinds l l.stopLoop := by
  have hcore := core_closeSocket l
  have htasks : l.stopLoop.tasks = l.tasks := congrArg Core.tasks hcore
  have hhandoff : l.stopLoop.handoff = l.handoff := congrArg Core.handoff hcore
  have wired := wired_stopLoop l
  refine ⟨hhandoff ▸ .refl _, congrArg Core.connections hcore, congrArg Core.drains hcore,
    wired.mono fun _ _ => trivial, ?_, ?_, ?_, fun _ => rfl⟩
  · rw [htasks]
    exact fun _ _ held => .inl held
  · rw [htasks]
    exact List.Subset.refl _
  · intro arrival hwaits
    have closes : Closes l l.stopLoop arrival.stream :=
      (closes_closeSocket l arrival hwaits).after (List.suffix_cons _ _)
    exact .inr (wired.hangsUp closes)

/-- Tokens and claims are no concern of what unwinds. -/
theorem unwinds_of_pool {pool : TokenPool} {log : List Happening}
    (wired : Wired (fun _ => True) l { l with pool, log }) :
    Unwinds l { l with pool, log } where
  handoff := .refl _
  connections := rfl
  drains := rfl
  wired := wired
  tasks := fun _ _ held => .inl held
  ids := List.Subset.refl _
  waiting := fun _ hwaits => .inl hwaits
  stopped := fun h => h

/-- Once the shutdown has been fired the loop has a step to take, unless it has returned. -/
theorem exists_stepLoop (reporting : Reporting l) (fired : l.fired = true)
    (running : l.loop ≠ .stopped) : ∃ l', l.stepLoop = some l' := by
  unfold stepLoop
  cases hloop : l.loop with
  | seeking => exact ⟨_, if_pos fired⟩
  | queued => exact ⟨_, if_pos fired⟩
  | listening => exact ⟨_, if_pos fired⟩
  | pausing timer => exact ⟨_, if_pos fired⟩
  | stopped => exact absurd hloop running
  | reporting pause =>
    obtain ⟨failure, found⟩ := reporting.loop (by rw [hloop]; rfl)
    have hrunnable := Handoff.producerRunnable_of_fired fired found
    simp only [hrunnable, if_true, Handoff.pollProducer_of_fired fired found]
    exact ⟨_, rfl⟩

/-- That step takes it to its end, or from the failure that it hands over to the pause after it. -/
theorem stops_stepLoop (reporting : Reporting l) (fired : l.fired = true)
    (stepped : LoopStepped l l') :
    Unwinds l l' ∧ (l'.loop = .stopped ∨ ∃ timer, l'.loop = .pausing timer) := by
  have hgoing : ∀ {P : Prop}, l.fired = false → P :=
    fun going => absurd (going.symm.trans fired) Bool.false_ne_true
  cases stepped with
  | stops idle _ => exact ⟨unwinds_stopLoop l, .inl rfl⟩
  | withdraws queued _ =>
    have hleft : Unwinds l { l with pool := l.pool.withdraw .loop } :=
      unwinds_of_pool (wired_of_wires rfl rfl)
    exact ⟨hleft.trans (unwinds_stopLoop _), .inl rfl⟩
  | returns listening _ =>
    have hreleased : Unwinds l l.releaseLoopToken :=
      unwinds_of_pool (wired_of_noted rfl rfl fun _ => Happening.noConfusion)
    exact ⟨hreleased.trans (unwinds_stopLoop _), .inl rfl⟩
  | holds pause handoff hands polled =>
    obtain ⟨failure, found⟩ := reporting.loop (by rw [hands]; rfl)
    rw [Handoff.pollProducer_of_fired fired found] at polled
    cases polled
  | pauses pause delivered handoff hands polled =>
    have hmute := Handoff.mute_of_polled fired polled
    refine ⟨⟨hmute, rfl, rfl, wired_of_noted rfl rfl fun _ => Happening.noConfusion,
      fun _ _ held => .inl held, List.Subset.refl _, fun _ hwaits => .inl hwaits,
      fun stopped => ?_⟩, .inr ⟨_, rfl⟩⟩
    cases hands.symm.trans stopped
  | queues _ going => exact hgoing going
  | draws _ going => exact hgoing going
  | picksUp _ going => exact hgoing going
  | refuses _ _ _ going => exact hgoing going
  | takes _ _ _ going => exact hgoing going
  | resumes _ _ going => exact hgoing going

/-- So it returns at its turn. -/
theorem stops_turn (S : Suite) (reporting : Reporting l) (fired : l.fired = true) (fuel : Nat) :
    Unwinds l (l.turn S (fuel + 2) .loop) ∧ (l.turn S (fuel + 2) .loop).loop = .stopped := by
  have hidle : ∀ {l : Listener}, l.loop = .stopped → l.stepParty S .loop = none := by
    intro l stopped
    show l.stepLoop = none
    rw [stepLoop, stopped]
  by_cases stopped : l.loop = .stopped
  · rw [turn_of_none _ (hidle stopped)]
    exact ⟨.refl l, stopped⟩
  · obtain ⟨l₁, hstep⟩ := exists_stepLoop reporting fired stopped
    obtain ⟨unwinds, hends⟩ := stops_stepLoop reporting fired (stepLoop_spec hstep)
    have hparty : l.stepParty S .loop = some l₁ := hstep
    rw [turn_of_some (fuel + 1) hparty]
    rcases hends with stopped₁ | ⟨timer, pausing⟩
    · rw [turn_of_none _ (hidle stopped₁)]
      exact ⟨unwinds, stopped₁⟩
    · -- the pause is not waited for
      have hlast : l₁.stepParty S .loop = some l₁.stopLoop := by
        show l₁.stepLoop = some l₁.stopLoop
        rw [stepLoop, pausing]
        exact if_pos (unwinds.fired fired)
      have stopped₂ : l₁.stopLoop.loop = .stopped := rfl
      rw [turn_of_some fuel hlast, turn_of_none _ (hidle stopped₂)]
      exact ⟨unwinds.trans (unwinds_stopLoop l₁), stopped₂⟩

/-! ## Everybody's turn -/

/-- What holds of a listener along every run. -/
structure WellKept (capacity : Nat) (l : Listener) : Prop where
  patient : Patient capacity l
  served : l.books.Served
  reporting : Reporting l
  sourced : l.front.Sourced
  backed : ∀ id, Backed id l

theorem WellKept.happens {capacity : Nat} (kept : WellKept capacity l) (happens : Happens S l l') :
    WellKept capacity l' where
  patient := kept.patient.happens happens
  served := kept.served.move (move_happens happens)
  reporting := kept.reporting.happens kept.patient.books.once happens
  sourced := (frontMove_happens happens).sourced kept.sourced
  backed := fun id => (kept.backed id).happens happens

theorem wellKept_opened {identity : Identity} {capacity timeout : Nat}
    {address : Except SystemError SocketAddress}
    (opened : ofRaw identity capacity timeout address = .ok l) : WellKept capacity l := by
  have patient := patient_opened opened
  have sourced := sourced_opened opened
  have backed := backed_opened opened
  obtain ⟨_, _, _, rfl⟩ := eq_of_opened opened
  exact ⟨patient, ⟨⟨.nil, List.forall_mem_nil _⟩, fun _ held => by cases held⟩,
    reporting_of_empty rfl rfl rfl, sourced, backed⟩

/-- Whoever has had a turn has ended, and the rest is as it was. -/
theorem unwinds_turns (S : Suite) {capacity : Nat} (kept : WellKept capacity l)
    (fired : l.fired = true) {fuel : Nat} (enough : 2 ≤ fuel) {order : List Party}
    (serving : ∀ p ∈ order, p = .loop ∨ ∃ id, p = .task id) :
    let l' := order.foldl (fun l p => l.turn S fuel p) l
    WellKept capacity l' ∧ Unwinds l l' ∧ (.loop ∈ order → l'.loop = .stopped) ∧
      ∀ id, .task id ∈ order → id ∉ l'.tasks.ids := by
  induction order generalizing l with
  | nil =>
    exact ⟨kept, .refl l, fun h => absurd h List.not_mem_nil,
      fun _ h => absurd h List.not_mem_nil⟩
  | cons p order ih =>
    obtain ⟨more, rfl⟩ := Nat.exists_eq_add_of_le' enough
    have kept' : WellKept capacity (l.turn S (more + 2) p) :=
      turn_induction (fun _ _ happens kept => kept.happens happens) kept _ _
    have hturn : Unwinds l (l.turn S (more + 2) p) ∧
        (p = .loop → (l.turn S (more + 2) p).loop = .stopped) ∧
        ∀ id, p = .task id → id ∉ (l.turn S (more + 2) p).tasks.ids := by
      rcases serving p List.mem_cons_self with rfl | ⟨id, rfl⟩
      · obtain ⟨unwinds, stopped⟩ := stops_turn S kept.reporting fired more
        exact ⟨unwinds, fun _ => stopped, fun _ => Party.noConfusion⟩
      · obtain ⟨unwinds, absent⟩ := ends_turn S kept.reporting (kept.backed id)
          kept.sourced.known fired (more + 1)
        refine ⟨unwinds, Party.noConfusion, fun k hk => ?_⟩
        cases hk
        exact Roster.find?_eq_none_iff.1 absent
    obtain ⟨unwinds, stops, ends⟩ := hturn
    obtain ⟨hkept, hrest, hstops, hends⟩ := ih kept' (unwinds.fired fired)
      fun q hq => serving q (List.mem_cons_of_mem _ hq)
    refine ⟨hkept, unwinds.trans hrest, fun hloop => ?_, fun id hid hleft => ?_⟩
    · rcases List.mem_cons.1 hloop with heq | hloop
      · exact hrest.stopped (stops heq.symm)
      · exact hstops hloop
    · rcases List.mem_cons.1 hid with heq | hid
      · exact ends id heq.symm (hrest.ids hleft)
      · exact hends id hid hleft

/-- When everybody has had a turn the loop has returned and no handshake is left. -/
theorem emptied_of_turns (S : Suite) {capacity : Nat} (kept : WellKept capacity l)
    (fired : l.fired = true) {fuel : Nat} (enough : 2 ≤ fuel) {order : List Party}
    (everybody : order.Perm (.loop :: l.tasks.ids.map .task)) :
    let l' := order.foldl (fun l p => l.turn S fuel p) l
    WellKept capacity l' ∧ Unwinds l l' ∧ Emptied capacity l.connections l' := by
  have serving : ∀ p ∈ order, p = .loop ∨ ∃ id, p = .task id := by
    intro p hp
    rcases List.mem_cons.1 (everybody.mem_iff.1 hp) with hloop | htask
    · exact .inl hloop
    · obtain ⟨id, _, heq⟩ := List.mem_map.1 htask
      exact .inr ⟨id, heq.symm⟩
  obtain ⟨kept', unwinds, stops, ends⟩ := unwinds_turns S kept fired enough serving
  refine ⟨kept', unwinds, kept'.patient, kept'.served, ?_⟩
  have stopped := stops (everybody.mem_iff.2 List.mem_cons_self)
  have hnone : ∀ id, id ∉ (order.foldl (fun l p => l.turn S fuel p) l).tasks.ids := by
    intro id hleft
    refine ends id (everybody.mem_iff.2 (List.mem_cons_of_mem _ ?_)) hleft
    exact List.mem_map_of_mem (unwinds.ids hleft)
  obtain ⟨fired', gone⟩ := kept'.patient.closed stopped
  have empty : (order.foldl (fun l p => l.turn S fuel p) l).tasks = [] :=
    List.map_eq_nil_iff.1 (List.eq_nil_iff_forall_not_mem.2 hnone)
  exact ⟨stopped, gone, fired', empty, unwinds.connections⟩

/-- When the loop has returned and no handshake runs, nobody has anything to hand over. -/
theorem Reporting.producers_eq_nil (reporting : Reporting l) (stopped : l.loop = .stopped)
    (empty : l.tasks = []) : l.handoff.producers = [] := by
  have hnone : ∀ id, l.handoff.producers.find? id = none := by
    intro id
    rw [Option.eq_none_iff_forall_ne_some]
    intro outcome found
    rcases reporting.owner id outcome found with ⟨_, hloop⟩ | ⟨task, held, _⟩
    · rw [stopped] at hloop
      cases hloop
    · rw [empty] at held
      cases held
  have hids : l.handoff.producers.ids = [] :=
    List.eq_nil_iff_forall_not_mem.2 fun id => Roster.find?_eq_none_iff.1 (hnone id)
  exact List.map_eq_nil_iff.1 hids

namespace Scene

variable {s : Scene} {capacity fuel : Nat}

/-- The turns of some parties, one after the other: each takes so many steps, as far as it has
    any. -/
def turns (fuel : Nat) (order : List Party) : List Event :=
  order.flatMap fun p => List.replicate fuel (.listener (.step p))

/-- After the shutdown a step in a scene is the listener's. -/
theorem apply_step (S : Suite) (fired : s.listener.fired = true) (between : s.looked = false)
    (p : Party) :
    (s.apply S (.listener (.step p))).listener = s.listener.apply S (.step p) ∧
      (s.apply S (.listener (.step p))).looked = false := by
  cases p with
  | loop =>
    have hcloses : s.stepLoop = s.closedBy .loop (s.listener.stepLoop.getD s.listener) := by
      have hgoing : ¬ (s.listener.loop = .listening ∧ s.listener.fired = false) :=
        fun h => absurd (h.2.symm.trans fired) Bool.false_ne_true
      rw [stepLoop, if_neg (by rw [between]; decide), if_neg hgoing]
    show s.stepLoop.listener = _ ∧ s.stepLoop.looked = false
    rw [hcloses]
    exact ⟨rfl, between⟩
  | task id => exact ⟨rfl, between⟩
  | call id => exact ⟨rfl, between⟩
  | drain id => exact ⟨rfl, between⟩

theorem run_replicate (S : Suite) (fired : s.listener.fired = true) (between : s.looked = false)
    (fuel : Nat) (p : Party) :
    (s.run S (List.replicate fuel (.listener (.step p)))).listener = s.listener.turn S fuel p ∧
      (s.run S (List.replicate fuel (.listener (.step p)))).looked = false := by
  induction fuel generalizing s with
  | zero => exact ⟨rfl, between⟩
  | succ fuel ih =>
    obtain ⟨hlistener, between'⟩ := apply_step S fired between p
    have hrun : s.run S (List.replicate (fuel + 1) (.listener (.step p))) =
        (s.apply S (.listener (.step p))).run S
          (List.replicate fuel (.listener (.step p))) := rfl
    have happens : Happens S s.listener (s.listener.apply S (.step p)) := .event (.step p)
    have fired' : (s.apply S (.listener (.step p))).listener.fired = true := by
      rw [hlistener]
      exact (frontMove_happens happens).fired fired
    obtain ⟨hturn, hbetween⟩ := ih fired' between'
    rw [hrun]
    refine ⟨?_, hbetween⟩
    rw [hturn, hlistener, Listener.apply]
    cases hstep : s.listener.stepParty S p with
    | none => rw [Option.getD_none, turn_of_none _ hstep, turn_of_none _ hstep]
    | some l' => rw [Option.getD_some, turn_of_some fuel hstep]

/-- After the shutdown turns in a scene are the listener's. -/
theorem run_turns (S : Suite) (fired : s.listener.fired = true) (between : s.looked = false)
    (fuel : Nat) (order : List Party) :
    (s.run S (turns fuel order)).listener =
        order.foldl (fun l p => l.turn S fuel p) s.listener ∧
      (s.run S (turns fuel order)).looked = false := by
  induction order generalizing s with
  | nil => exact ⟨rfl, between⟩
  | cons p order ih =>
    obtain ⟨hlistener, between'⟩ := run_replicate S fired between fuel p
    have hrun : s.run S (turns fuel (p :: order)) =
        (s.run S (List.replicate fuel (.listener (.step p)))).run S (turns fuel order) := by
      rw [turns, List.flatMap_cons, run, List.foldl_append]
      rfl
    have fired' : (s.run S (List.replicate fuel (.listener (.step p)))).listener.fired = true := by
      rw [hlistener]
      exact turn_induction (P := fun l => l.fired = true)
        (fun _ _ happens fired => (frontMove_happens happens).fired fired) fired fuel p
    obtain ⟨hrest, hbetween⟩ := ih fired' between'
    rw [hrun]
    refine ⟨?_, hbetween⟩
    rw [hrest, hlistener, List.foldl_cons]

/-- Whoever waits for the listener to drain is done at the next turn, if those who have asked for
    tokens come first, in the order in which they did.  Then all tokens are available. -/
structure Drainable (S : Suite) (capacity fuel : Nat) (s : Scene) : Prop where
  asked : ∀ id, s.listener.drains.find? id = some .claiming → id ∈ s.listener.pool.askers
  served : ∀ waiting : List Nat, waiting.Nodup →
    (∀ id ∈ waiting, s.listener.drains.find? id = some .loopRuns) →
    let order := s.listener.pool.askers ++ waiting
    let s' := s.run S (turns fuel (order.map .drain))
    (∀ id ∈ order, s'.listener.drains.find? id = some .done) ∧
      s'.listener.pool.available = capacity

theorem drainable_of_emptied (S : Suite) {taken : Nat}
    (emptied : Emptied capacity taken s.listener) (attentive : s.Attentive) (enough : 2 ≤ fuel) :
    Drainable S capacity fuel s where
  asked := fun id claiming => TokenPool.mem_askers.2 (emptied.served.asked id claiming)
  served := by
    intro waiting distinct waits
    have between : s.looked = false := by
      rw [Bool.eq_false_iff]
      intro looked
      cases emptied.atRest.stopped.symm.trans (attentive looked)
    obtain ⟨hlistener, _⟩ := run_turns S emptied.atRest.fired between fuel
      ((s.listener.pool.askers ++ waiting).map .drain)
    simp only [hlistener, List.foldl_map]
    exact emptied.all_served S distinct waits enough

/-- What becomes of a scene in which everybody has had a turn. -/
structure WoundUp (S : Suite) (capacity fuel : Nat) (s s' : Scene) : Prop where
  /-- The accept loop has returned, the socket is closed, and no handshake runs. -/
  atRest : s'.listener.AtRest s.listener.connections
  /-- Every stream of a handshake has been hung up, -/
  hungUp : ∀ id task, s.listener.tasks.find? id = some task →
    HangsUp s.listener s'.listener task.stream
  /-- and so has every connection that waited in the socket. -/
  waiting : ∀ arrival ∈ s.listener.socket.waiting,
    HangsUp s.listener s'.listener arrival.stream
  /-- No outcome has been submitted, or handed out, or is still to be handed over. -/
  mute : Handoff.Mute s.listener.handoff s'.listener.handoff
  settled : s'.listener.handoff.producers = []
  /-- All tokens are in the pool, -/
  tokens : s'.listener.pool.total = capacity
  /-- and available if nobody has asked for them, -/
  available : (∀ id, s.listener.drains.find? id ≠ some .claiming) →
    s'.listener.pool.available = capacity
  /-- and whoever waits for the listener to drain, then or later, is ready. -/
  ready : ∀ more : List Event, Drainable S capacity fuel (s'.run S more)

/-- **Draining takes neither peers nor deadlines.**  Wherever the accept loop and the handshakes of
    a listener stand when the shutdown has been fired: one turn of the loop and of every handshake,
    in any order and with nothing else happening, ends them all and hangs up on their streams.  No
    outcome is handed out by that, the socket is closed, all tokens are back in the pool, and
    whoever waits for the listener to drain is ready. -/
theorem winds_up (S : Suite) {identity : Identity} {timeout : Nat}
    {address : Except SystemError SocketAddress} {l₀ : Listener}
    (opened : ofRaw identity capacity timeout address = .ok l₀) (events : List Event) :
    let s := Scene.run S { listener := l₀ } events
    s.listener.fired = true → s.looked = false → ∀ (order : List Party) (fuel : Nat),
      order.Perm (.loop :: s.listener.tasks.ids.map .task) → 2 ≤ fuel →
        WoundUp S capacity fuel s (s.run S (turns fuel order)) := by
  intro s fired between order fuel everybody enough
  have unseen : ({ listener := l₀ } : Scene).Attentive :=
    fun looked => absurd looked Bool.false_ne_true
  obtain ⟨attentive, kept⟩ := listener_induction (S := S) (P := WellKept capacity)
    (fun _ _ happens kept => kept.happens happens) unseen (wellKept_opened opened) events
  obtain ⟨hlistener, between'⟩ := run_turns S fired between fuel order
  obtain ⟨kept', unwinds, emptied⟩ := emptied_of_turns S kept fired enough everybody
  rw [← hlistener] at kept' unwinds emptied
  have empty := emptied.atRest.empty
  refine ⟨emptied.atRest, ?_, ?_, unwinds.handoff,
    kept'.reporting.producers_eq_nil emptied.atRest.stopped empty, emptied.total, ?_, ?_⟩
  · intro id task held
    rcases unwinds.tasks id task held with hleft | hangsUp
    · rw [empty] at hleft
      cases hleft
    · exact hangsUp
  · intro arrival hwaits
    rcases unwinds.waiting arrival hwaits with hleft | hangsUp
    · rw [SocketSlot.waiting, emptied.atRest.gone] at hleft
      cases hleft
    · exact hangsUp
  · intro settled
    refine emptied.available (List.eq_nil_iff_forall_not_mem.2 fun id asked => settled id ?_)
    rw [← unwinds.drains]
    exact emptied.claiming asked
  · intro more
    have attentive' : (s.run S (turns fuel order)).Attentive :=
      fun looked => absurd (between'.symm.trans looked) Bool.false_ne_true
    obtain ⟨hattentive, hemptied⟩ := listener_induction (S := S)
      (P := Emptied capacity s.listener.connections)
      (fun _ _ happens emptied => emptied.happens happens) attentive' emptied more
    exact drainable_of_emptied S hemptied hattentive enough

/-- Two connections are taken, of which one has begun on its acts; the loop waits for another token,
    and a party for the listener to drain.  Then the listener is closed, and both streams are
    shut. -/
theorem winds_up_sample :
    ∃ l₀, ofRaw ⟨Octets.replicate 32 2⟩ 2 1000 (.ok ⟨.v4 ⟨127, 0, 0, 1⟩, 9735, 0⟩) = .ok l₀ ∧
      let loop : Event := .listener (.step .loop)
      let events : List Event :=
        [.listener (.newStream 0), .listener (.arrive (.ok ⟨0, .v4 ⟨127, 0, 0, 1⟩, 40000, 0⟩)),
          .listener (.newStream 1), .listener (.arrive (.ok ⟨1, .v4 ⟨127, 0, 0, 1⟩, 40001, 0⟩)),
          loop, loop, loop, loop, loop, loop, loop, .listener (.step (.task 1)),
          .listener (.startDrain 0), .startClose 0]
      let s := Scene.run .standard { listener := l₀ } events
      let order : List Party := [.task 2, .loop, .task 1]
      s.listener.fired = true ∧ s.looked = false ∧ s.listener.loop = .queued ∧
        order.Perm (.loop :: s.listener.tasks.ids.map .task) ∧
        WoundUp .standard 2 2 s (s.run .standard (turns 2 order)) ∧
        (s.run .standard (turns 2 order)).listener.Shut 0 ∧
        (s.run .standard (turns 2 order)).listener.Shut 1 := by
  let l₀ : Listener :=
    { settings := ⟨⟨Octets.replicate 32 2⟩, 2, 1000, ⟨.v4 ⟨127, 0, 0, 1⟩, 9735, 0⟩⟩
      pool := { available := 2 }
      socket := ⟨some []⟩ }
  have opened : ofRaw ⟨Octets.replicate 32 2⟩ 2 1000 (.ok ⟨.v4 ⟨127, 0, 0, 1⟩, 9735, 0⟩) =
      .ok l₀ := rfl
  refine ⟨l₀, opened, ?_⟩
  intro loop events s order
  have fired : s.listener.fired = true := by decide +kernel
  have between : s.looked = false := by decide +kernel
  have queued : s.listener.loop = .queued := by decide +kernel
  have everybody : order.Perm (.loop :: s.listener.tasks.ids.map .task) := by decide +kernel
  have wound := winds_up .standard opened events fired between order 2 everybody (Nat.le_refl 2)
  have shut : ∀ id stream, (s.listener.tasks.find? id).map HandshakeTask.stream = some stream →
      (s.listener.wires.find? stream).isSome = true →
        (s.run .standard (turns 2 order)).listener.Shut stream := by
    intro id stream named there
    obtain ⟨task, held, rfl⟩ := Option.map_eq_some_iff.1 named
    exact (wound.hungUp id task held).shut there
  exact ⟨fired, between, queued, everybody, wound, shut 1 0 (by decide +kernel) (by decide +kernel),
    shut 2 1 (by decide +kernel) (by decide +kernel)⟩

end Scene

end Listener

end Gatehouse
