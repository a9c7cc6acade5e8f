import Gatehouse.Proofs.Listener.Draining
import Gatehouse.Proofs.Listener.Hangups

/-!
# Who hands over what

A handshake whose acts are over hands its outcome over, and the accept loop hands over a failure to
take a connection; nobody else has an outcome with the handoff (`Reporting`).  A handshake's outcome
accounts for its stream: either it is a connection on that stream, or the stream has been hung up.
-/

namespace Gatehouse

namespace Handoff

variable {α : Type} {h h' : Handoff α} {id : Nat}

/-- A producer that is polled stays as long as it waits, and goes with its answer. -/
theorem producers_producerPolled {answer : Poll Bool} (polled : h.ProducerPolled id answer h') :
    answer = .pending ∧ h'.producers = h.producers ∨
      ∃ delivered, answer = .ready delivered ∧ h'.producers = h.producers.erase id := by
  have hjoin : (h.joinLine id).producers = h.producers := by rw [joinLine_eq]
  have hstrike : (h.joinLine id).producers.erase id = h.producers.erase id := by rw [hjoin]
  cases polled with
  | unknown absent => exact .inl ⟨rfl, rfl⟩
  | queued | idle => exact .inl ⟨rfl, hjoin⟩
  | shut => exact .inr ⟨false, rfl, rfl⟩
  | closed => exact .inr ⟨false, rfl, hstrike⟩
  | delivers => exact .inr ⟨true, rfl, hstrike⟩

end Handoff

namespace Listener

variable {S : Suite} {l l' : Listener} {id : Nat} {task : HandshakeTask}

/-- An outcome accounts for a stream: it is a connection on the stream, or the stream has been hung
    up. -/
def Accounts (l : Listener) (stream : Nat) : Outcome → Prop
  | .ok connection => connection.stream = stream
  | .error _ => .streamClosed stream ∈ l.log

/-- The handshakes whose acts are over, and the accept loop after a failure, are those who have an
    outcome to hand over. -/
structure Reporting (l : Listener) : Prop where
  task : ∀ id task, l.tasks.find? id = some task → task.phase = .reporting →
    ∃ outcome, l.handoff.producers.find? id = some outcome ∧ l.Accounts task.stream outcome
  loop : l.loop.isReporting = true →
    ∃ failure, l.handoff.producers.find? loopProducer = some (.error failure)
  owner : ∀ id outcome, l.handoff.producers.find? id = some outcome →
    id = loopProducer ∧ l.loop.isReporting = true ∨
      ∃ task, l.tasks.find? id = some task ∧ task.phase = .reporting

/-- With nobody there, nobody has an outcome to hand over. -/
theorem reporting_of_empty (tasks : l.tasks = []) (outcomes : l.handoff.producers = [])
    (quiet : l.loop.isReporting = false) : Reporting l where
  task := by
    intro id task held
    rw [tasks] at held
    cases held
  loop := fun hloop => absurd (quiet.symm.trans hloop) Bool.false_ne_true
  owner := by
    intro id outcome found
    rw [outcomes] at found
    cases found

/-- Nothing that concerns outcomes changes, and what is on record stays. -/
structure Steady (l l' : Listener) : Prop where
  tasks : l'.tasks = l.tasks
  outcomes : l'.handoff.producers = l.handoff.producers
  reporting : l'.loop.isReporting = l.loop.isReporting
  log : l.log <:+ l'.log

theorem steady_of_core (same : l'.core = l.core) (log : l.log <:+ l'.log) : Steady l l' where
  tasks := congrArg Core.tasks same
  outcomes := congrArg (fun c : Core => c.handoff.producers) same
  reporting := congrArg (fun c : Core => c.loop.isReporting) same
  log := log

theorem Accounts.mono {stream : Nat} {outcome : Outcome} (accounts : l.Accounts stream outcome)
    (log : l.log <:+ l'.log) : l'.Accounts stream outcome := by
  cases outcome with
  | ok connection => exact accounts
  | error failure => exact log.subset accounts

namespace Reporting

theorem steady (reporting : Reporting l) (steady : Steady l l') : Reporting l' where
  task := by
    rw [steady.tasks, steady.outcomes]
    intro id task held phase
    obtain ⟨outcome, found, accounts⟩ := reporting.task id task held phase
    exact ⟨outcome, found, accounts.mono steady.log⟩
  loop := by
    rw [steady.reporting, steady.outcomes]
    exact reporting.loop
  owner := by
    rw [steady.reporting, steady.outcomes, steady.tasks]
    exact reporting.owner

/-! ## The handshakes -/

/-- A handshake whose acts are not over has nothing to hand over. -/
theorem absent (reporting : Reporting l) (held : l.tasks.find? id = some task)
    (acting : task.phase ≠ .reporting) (other : id ≠ loopProducer) :
    l.handoff.producers.find? id = none := by
  rw [Option.eq_none_iff_forall_ne_some]
  intro outcome found
  rcases reporting.owner id outcome found with ⟨hid, _⟩ | ⟨task', held', phase⟩
  · exact other hid
  · cases held.symm.trans held'
    exact acting phase

theorem setPhase (reporting : Reporting l) (held : l.tasks.find? id = some task)
    (acting : task.phase ≠ .reporting) {phase : Phase} (acts : phase ≠ .reporting) :
    Reporting (l.setPhase id task phase) where
  task := by
    intro k other hother done
    have hother : (l.tasks.update id { task with phase }).find? k = some other := hother
    rw [Roster.find?_update, held] at hother
    split at hother
    · cases hother
      exact absurd done acts
    · exact reporting.task k other hother done
  loop := reporting.loop
  owner := by
    intro k outcome found
    rcases reporting.owner k outcome found with hloop | ⟨other, hother, done⟩
    · exact .inl hloop
    · refine .inr ⟨other, ?_, done⟩
      show (l.tasks.update id { task with phase }).find? k = some other
      rw [Roster.find?_update, if_neg]
      · exact hother
      · rintro rfl
        cases held.symm.trans hother
        exact acting done

/-- The acts are over: from now on there is an outcome. -/
theorem submitOutcome (reporting : Reporting l) (held : l.tasks.find? id = some task)
    (acting : task.phase ≠ .reporting) (other : id ≠ loopProducer) {outcome : Outcome}
    (accounts : l.Accounts task.stream outcome) :
    Reporting (l.submitOutcome id task outcome) := by
  have htasks : ∀ k, (l.submitOutcome id task outcome).tasks.find? k =
      if k = id then some { task with phase := .reporting } else l.tasks.find? k := by
    intro k
    show (l.tasks.update id { task with phase := .reporting }).find? k = _
    rw [Roster.find?_update, held]
    rfl
  have hfind : ∀ k, (l.submitOutcome id task outcome).handoff.producers.find? k =
      if k = id then some outcome else l.handoff.producers.find? k :=
    fun k => Roster.find?_enter _ _ k _ (reporting.absent held acting other)
  have hlog : l.log <:+ (l.submitOutcome id task outcome).log := List.suffix_cons _ _
  refine ⟨fun k task' held' done => ?_, fun hloop => ?_, fun k outcome' found => ?_⟩
  · rw [htasks] at held'
    rw [hfind]
    by_cases hk : k = id
    · rw [if_pos hk] at held' ⊢
      cases held'
      exact ⟨outcome, rfl, accounts.mono hlog⟩
    · rw [if_neg hk] at held' ⊢
      obtain ⟨outcome', found, accounts'⟩ := reporting.task k task' held' done
      exact ⟨outcome', found, accounts'.mono hlog⟩
  · rw [hfind, if_neg (Ne.symm other)]
    exact reporting.loop hloop
  · rw [hfind] at found
    rw [htasks]
    by_cases hk : k = id
    · rw [if_pos hk]
      exact .inr ⟨_, rfl, rfl⟩
    · rw [if_neg hk] at found ⊢
      exact reporting.owner k outcome' found

/-- A handshake ends, and what it had to hand over goes with it. -/
theorem ends (reporting : Reporting l) (other : id ≠ loopProducer)
    (tasks : l'.tasks = l.tasks.erase id)
    (outcomes : l'.handoff.producers = l.handoff.producers.erase id)
    (loop : l'.loop.isReporting = l.loop.isReporting) (log : l.log <:+ l'.log) :
    Reporting l' := by
  refine ⟨fun k task held done => ?_, fun hloop => ?_, fun k outcome found => ?_⟩
  · rw [tasks, Roster.find?_erase] at held
    rw [outcomes, Roster.find?_erase]
    by_cases hk : k = id
    · rw [if_pos hk] at held
      cases held
    · rw [if_neg hk] at held ⊢
      obtain ⟨outcome, found, accounts⟩ := reporting.task k task held done
      exact ⟨outcome, found, accounts.mono log⟩
  · rw [outcomes, Roster.find?_erase, if_neg (Ne.symm other)]
    exact reporting.loop (loop ▸ hloop)
  · rw [outcomes, Roster.find?_erase] at found
    rw [loop, tasks, Roster.find?_erase]
    by_cases hk : k = id
    · rw [if_pos hk] at found
      cases found
    · rw [if_neg hk] at found ⊢
      exact reporting.owner k outcome found

/-- So a handshake that ends before its acts are over takes no outcome with it. -/
theorem endTask (reporting : Reporting l) (held : l.tasks.find? id = some task)
    (acting : task.phase ≠ .reporting) (other : id ≠ loopProducer) : Reporting (l.endTask id) := by
  have hnone := Roster.find?_eq_none_iff.1 (reporting.absent held acting other)
  exact reporting.ends other rfl (Roster.erase_eq_self hnone).symm rfl (List.suffix_cons _ _)

theorem failActs (reporting : Reporting l) (held : l.tasks.find? id = some task)
    (acting : task.phase ≠ .reporting) (other : id ≠ loopProducer) {failure : Failure}
    (same : l'.core = l.core) (log : l.log <:+ l'.log) :
    Reporting (l'.failActs id task failure) := by
  have hcore := (core_rejectActs l' id task failure).trans same
  have hrejected : Reporting (l'.rejectActs id task failure) :=
    reporting.steady (steady_of_core hcore (log.trans (later_rejectActs l' id task failure).log))
  have htasks : (l'.rejectActs id task failure).tasks = l.tasks := congrArg Core.tasks hcore
  rw [← htasks] at held
  rcases failActs_cases l' id task failure with ⟨_, heq⟩ | ⟨_, heq⟩
  · rw [heq]
    exact hrejected.endTask held acting other
  · have hclosed : .streamClosed task.stream ∈ (l'.rejectActs id task failure).log := by
      rw [rejectActs_log]
      exact List.mem_cons_of_mem _ List.mem_cons_self
    rw [heq]
    exact hrejected.submitOutcome held acting other hclosed

theorem succeedActs (reporting : Reporting l) (held : l.tasks.find? id = some task)
    (acting : task.phase ≠ .reporting) (other : id ≠ loopProducer) {machine : Machine}
    {remote : PublicKey} (same : l'.core = l.core) (log : l.log <:+ l'.log) :
    Reporting (l'.succeedActs id task machine remote) := by
  have hcore := (core_secureActs l' id).trans same
  have hsecured : Reporting (l'.secureActs id) :=
    reporting.steady (steady_of_core hcore (log.trans (List.suffix_cons _ _)))
  have htasks : (l'.secureActs id).tasks = l.tasks := congrArg Core.tasks hcore
  rw [← htasks] at held
  rw [succeedActs_eq]
  exact hsecured.submitOutcome held acting other rfl

/-- A producer that waits on is nothing to what is reported. -/
theorem holds (reporting : Reporting l) {handoff : Handoff Outcome}
    (polled : l.handoff.pollProducer id = (.pending, handoff)) :
    Reporting { l with handoff := handoff } := by
  have hpolled := l.handoff.pollProducer_spec id
  rw [polled] at hpolled
  rcases Handoff.producers_producerPolled hpolled with ⟨_, hsame⟩ | ⟨_, hready, _⟩
  · exact reporting.steady ⟨rfl, hsame, rfl, List.suffix_rfl⟩
  · cases hready

theorem producers_of_ready {delivered : Bool} {handoff : Handoff Outcome}
    (polled : l.handoff.pollProducer id = (.ready delivered, handoff)) :
    handoff.producers = l.handoff.producers.erase id := by
  have hpolled := l.handoff.pollProducer_spec id
  rw [polled] at hpolled
  rcases Handoff.producers_producerPolled hpolled with ⟨hpending, _⟩ | ⟨_, _, hstruck⟩
  · cases hpending
  · exact hstruck

theorem stepTask {sight : Sight} (reporting : Reporting l) (held : l.tasks.find? id = some task)
    (other : id ≠ loopProducer) (stepped : TaskStepped S l id task sight l') : Reporting l' := by
  have hacting : ∀ {phase : Phase}, task.phase = phase → phase ≠ .reporting →
      task.phase ≠ .reporting := fun heq hne => heq ▸ hne
  have hinActs : task.phase.inActs = true → task.phase ≠ .reporting := by
    intro inActs heq
    rw [heq] at inActs
    cases inActs
  have hsteady : ∀ {l₁ : Listener}, l₁.core = l.core → l.log <:+ l₁.log → Reporting l₁ :=
    fun same log => reporting.steady (steady_of_core same log)
  cases stepped with
  | aborts spawned fired =>
    have hentered : Reporting ((l.enter id .init).enter id .rejected) :=
      hsteady rfl ((List.suffix_cons _ _).trans (List.suffix_cons _ _))
    have hended := hentered.endTask held (hacting spawned Phase.noConfusion) other
    exact hended.steady (steady_of_core (core_closeStream _ _) (later_closeStream _ _).log)
  | begins spawned going =>
    have hentered : Reporting
        (({ l.enter id .init with tally := l.tally.start }.enter id .awaitActOne).arm
          l.settings.timeout).2 :=
      hsteady rfl ((List.suffix_cons _ _).trans (List.suffix_cons _ _))
    exact hentered.setPhase held (hacting spawned Phase.noConfusion) Phase.noConfusion
  | shut inActs fired => exact reporting.failActs held (hinActs inActs) other rfl List.suffix_rfl
  | breaks failure wires inActs going =>
    exact reporting.failActs held (hinActs inActs) other rfl List.suffix_rfl
  | readsOne machine got bytes timer wire inward phase_eq _ _ _ _ =>
    have hread : Reporting (l.withWire task.stream { wire with inward }) :=
      hsteady rfl List.suffix_rfl
    exact hread.setPhase held (hacting phase_eq Phase.noConfusion) Phase.noConfusion
  | takesOne machine got bytes timer wire inward act phase_eq _ _ _ _ =>
    have acting := hacting phase_eq Phase.noConfusion
    rcases takeActOne_cases (l.withWire task.stream { wire with inward }) id task machine act with
      ⟨e, m, _, htake⟩ | ⟨m₁, _, ⟨e, m₂, _, htake⟩ | ⟨two, m₂, _, htake⟩⟩
    · rw [htake]
      exact reporting.failActs held acting other rfl List.suffix_rfl
    · rw [htake]
      exact reporting.failActs held acting other rfl List.suffix_rfl
    · rw [htake]
      have hdrawn : Reporting { l.withWire task.stream { wire with inward } with
          chance := (l.withWire task.stream { wire with inward }).chance.takeSecret.2 } :=
        hsteady rfl List.suffix_rfl
      exact hdrawn.setPhase held acting Phase.noConfusion
  | writes machine left rest wire outward phase_eq _ _ _ =>
    have hwritten : Reporting (l.withWire task.stream { wire with outward }) :=
      hsteady rfl List.suffix_rfl
    refine hwritten.setPhase held (hacting phase_eq Phase.noConfusion) ?_
    split <;> exact Phase.noConfusion
  | awaits machine phase_eq going =>
    have hentered : Reporting ((l.enter id .awaitActThree).arm l.settings.timeout).2 :=
      hsteady rfl (List.suffix_cons _ _)
    exact hentered.setPhase held (hacting phase_eq Phase.noConfusion) Phase.noConfusion
  | readsThree machine got bytes timer wire inward phase_eq _ _ _ _ =>
    have hread : Reporting (l.withWire task.stream { wire with inward }) :=
      hsteady rfl List.suffix_rfl
    exact hread.setPhase held (hacting phase_eq Phase.noConfusion) Phase.noConfusion
  | takesThree machine got bytes timer wire inward act phase_eq _ _ _ _ =>
    have acting := hacting phase_eq Phase.noConfusion
    rcases takeActThree_cases (l.withWire task.stream { wire with inward }) id task machine act with
      ⟨e, m, _, htake⟩ | ⟨m, _, ⟨_, htake⟩ | ⟨remote, _, htake⟩⟩
    · rw [htake]
      exact reporting.failActs held acting other rfl List.suffix_rfl
    · rw [htake]
      exact reporting.failActs held acting other rfl List.suffix_rfl
    · rw [htake]
      exact reporting.succeedActs held acting other rfl List.suffix_rfl
  | holds handoff _ polled => exact reporting.holds polled
  | delivers handoff _ polled =>
    exact reporting.ends other rfl (producers_of_ready polled) rfl (List.suffix_cons _ _)
  | drops outcome handoff _ _ polled =>
    have hcore : ({ l with handoff }.dropOutcome outcome).core = { l with handoff }.core :=
      core_dropOutcome _ outcome
    have htasks : ({ l with handoff }.dropOutcome outcome).tasks = l.tasks :=
      congrArg Core.tasks hcore
    have hhandoff : ({ l with handoff }.dropOutcome outcome).handoff = handoff :=
      congrArg Core.handoff hcore
    have hloop : ({ l with handoff }.dropOutcome outcome).loop = l.loop :=
      congrArg Core.loop hcore
    have hlog : l.log <:+ ({ l with handoff }.dropOutcome outcome).log :=
      (later_dropOutcome { l with handoff } outcome).log
    refine reporting.ends other ?_ ?_ (congrArg LoopPhase.isReporting hloop)
      (hlog.trans (List.suffix_cons _ _))
    · show ({ l with handoff }.dropOutcome outcome).tasks.erase id = _
      rw [htasks]
    · show ({ l with handoff }.dropOutcome outcome).handoff.producers = _
      rw [hhandoff]
      exact producers_of_ready polled

/-! ## The accept loop -/

/-- The loop has a failure to hand over. -/
theorem reportRefusal (reporting : Reporting l) (quiet : l.loop.isReporting = false)
    (noTask : l.tasks.find? loopProducer = none) (error : SystemError) :
    Reporting (l.reportRefusal error) := by
  obtain ⟨pause, l₁, hcore, heq⟩ := reportRefusal_eq l error
  have hlog : l.log <:+ (l.reportRefusal error).log := (later_reportRefusal l error).log
  have htasks : l₁.tasks = l.tasks := congrArg Core.tasks hcore
  have houtcomes : l₁.handoff.producers = l.handoff.producers :=
    congrArg (fun c : Core => c.handoff.producers) hcore
  have fresh : l₁.handoff.producers.find? loopProducer = none := by
    rw [houtcomes, Option.eq_none_iff_forall_ne_some]
    intro outcome found
    rcases reporting.owner _ outcome found with ⟨_, hloop⟩ | ⟨task, held, _⟩
    · exact absurd (quiet.symm.trans hloop) Bool.false_ne_true
    · cases noTask.symm.trans held
  rw [heq] at hlog ⊢
  have hfind : ∀ k,
      (l₁.handoff.submit loopProducer (.error (.accept error))).producers.find? k =
        if k = loopProducer then some (.error (.accept error))
        else l.handoff.producers.find? k := by
    intro k
    rw [← houtcomes]
    exact Roster.find?_enter _ _ k _ fresh
  refine ⟨fun k task held done => ?_, fun _ => ⟨.accept error, ?_⟩, fun k outcome found => ?_⟩
  · have held : l.tasks.find? k = some task := htasks ▸ held
    obtain ⟨outcome, found, accounts⟩ := reporting.task k task held done
    refine ⟨outcome, (hfind k).trans ?_, accounts.mono hlog⟩
    rw [if_neg]
    · exact found
    · rintro rfl
      cases noTask.symm.trans held
  · exact (hfind loopProducer).trans (if_pos rfl)
  · have found := (hfind k).symm.trans found
    split at found
    · exact .inl ⟨‹_›, rfl⟩
    · rcases reporting.owner k outcome found with ⟨hk, _⟩ | ⟨task, held, done⟩
      · exact absurd hk ‹_›
      · refine .inr ⟨task, ?_, done⟩
        show l₁.tasks.find? k = some task
        rw [htasks]
        exact held

/-- The handshake of a new connection has nothing to hand over. -/
theorem spawnTask (reporting : Reporting l) (quiet : l.loop.isReporting = false)
    (fresh : l.tasks.find? (l.connections + 1) = none) (arrival : Arrival) :
    Reporting (l.spawnTask arrival) where
  task := by
    intro k task held done
    have held : (l.tasks.enter (l.connections + 1)
      ⟨arrival.stream, arrival.peer, .spawned⟩).find? k = some task := held
    rw [Roster.find?_enter _ _ _ _ fresh] at held
    split at held
    · cases held
      cases done
    · obtain ⟨outcome, found, accounts⟩ := reporting.task k task held done
      exact ⟨outcome, found, accounts.mono (List.suffix_cons _ _)⟩
  loop := fun hloop => by cases hloop
  owner := by
    intro k outcome found
    rcases reporting.owner k outcome found with ⟨_, hloop⟩ | ⟨task, held, done⟩
    · exact absurd (quiet.symm.trans hloop) Bool.false_ne_true
    · exact .inr ⟨task, Roster.find?_enter_of_some held _ _, done⟩

/-- The loop's failure is no longer to be handed over. -/
theorem settles (reporting : Reporting l) (noTask : l.tasks.find? loopProducer = none)
    (tasks : l'.tasks = l.tasks)
    (outcomes : l'.handoff.producers = l.handoff.producers.erase loopProducer)
    (loop : l'.loop.isReporting = false) (log : l.log <:+ l'.log) : Reporting l' := by
  refine ⟨fun k task held done => ?_, fun hloop => ?_, fun k outcome found => ?_⟩
  · rw [tasks] at held
    obtain ⟨outcome, found, accounts⟩ := reporting.task k task held done
    refine ⟨outcome, ?_, accounts.mono log⟩
    rw [outcomes, Roster.find?_erase, if_neg]
    · exact found
    · rintro rfl
      cases noTask.symm.trans held
  · exact absurd (loop.symm.trans hloop) Bool.false_ne_true
  · rw [outcomes, Roster.find?_erase] at found
    rw [tasks]
    split at found
    · cases found
    · rename_i hne
      exact .inr ((reporting.owner k outcome found).resolve_left fun hloop => hne hloop.1)

theorem stopLoop (reporting : Reporting l) (quiet : l.loop.isReporting = false) :
    Reporting l.stopLoop := by
  have hclosed : Reporting l.closeSocket :=
    reporting.steady (steady_of_core (core_closeSocket l) (later_closeSocket l).log)
  have hloop : l.closeSocket.loop = l.loop := congrArg Core.loop (core_closeSocket l)
  refine hclosed.steady ⟨rfl, rfl, ?_, List.suffix_cons _ _⟩
  show false = l.closeSocket.loop.isReporting
  rw [hloop, quiet]

theorem stepLoop (reporting : Reporting l) (noTask : l.tasks.find? loopProducer = none)
    (fresh : l.tasks.find? (l.connections + 1) = none) (stepped : LoopStepped l l') :
    Reporting l' := by
  have hquiet : ∀ {phase : LoopPhase}, l.loop = phase → phase.isReporting = false →
      l.loop.isReporting = false := fun heq hquiet => heq ▸ hquiet
  have hmoves : ∀ {phase : LoopPhase}, l.loop = phase → phase.isReporting = false →
      ∀ {l₁ : Listener}, l₁.tasks = l.tasks → l₁.handoff = l.handoff → l.log <:+ l₁.log →
        l₁.loop.isReporting = false → Reporting l₁ := by
    intro phase heq quiet l₁ tasks handoff log loop
    exact reporting.steady ⟨tasks, congrArg Handoff.producers handoff,
      loop.trans (hquiet heq quiet).symm, log⟩
  cases stepped with
  | stops idle fired =>
    refine reporting.stopLoop ?_
    rcases idle with hidle | ⟨timer, hidle⟩
    · exact hquiet hidle rfl
    · exact hquiet hidle rfl
  | queues seeking going unmet => exact hmoves seeking rfl rfl rfl List.suffix_rfl rfl
  | draws seeking going met => exact hmoves seeking rfl rfl rfl List.suffix_rfl rfl
  | withdraws queued fired =>
    have hleft : Reporting { l with pool := l.pool.withdraw .loop } :=
      hmoves queued rfl rfl rfl List.suffix_rfl (hquiet queued rfl)
    exact hleft.stopLoop (hquiet queued rfl)
  | picksUp queued going met => exact hmoves queued rfl rfl rfl List.suffix_rfl rfl
  | returns listening fired =>
    have hreleased : Reporting l.releaseLoopToken :=
      hmoves listening rfl rfl rfl (List.suffix_cons _ _) (hquiet listening rfl)
    exact hreleased.stopLoop (hquiet listening rfl)
  | refuses error socket listening going polled =>
    have hpolled : Reporting { l with socket } :=
      hmoves listening rfl rfl rfl List.suffix_rfl (hquiet listening rfl)
    exact hpolled.reportRefusal (hquiet listening rfl) noTask error
  | takes arrival socket listening going polled =>
    have hpolled : Reporting { l with socket } :=
      hmoves listening rfl rfl rfl List.suffix_rfl (hquiet listening rfl)
    exact hpolled.spawnTask (hquiet listening rfl) fresh arrival
  | holds pause handoff _ polled => exact reporting.holds polled
  | pauses pause delivered handoff _ polled =>
    exact reporting.settles noTask rfl (producers_of_ready polled) rfl (List.suffix_cons _ _)
  | resumes timer pausing going elapsed => exact hmoves pausing rfl rfl rfl List.suffix_rfl rfl

/-! ## Whatever happens -/

theorem stepCall {call : Nat} (reporting : Reporting l) (stepped : CallStepped l call l') :
    Reporting l' := by
  have hpolled : ∀ {answer : Poll (Option Outcome)} {handoff : Handoff Outcome},
      l.handoff.pollConsumer call = (answer, handoff) → Reporting { l with handoff } := by
    intro answer handoff polled
    have hspec := l.handoff.pollConsumer_spec call
    rw [polled] at hspec
    exact reporting.steady ⟨rfl, Handoff.producers_consumerPolled hspec, rfl, List.suffix_rfl⟩
  have hnoted : ∀ {l₁ : Listener} (h : Happening), Reporting l₁ → Reporting (l₁.note h) :=
    fun h hl => hl.steady ⟨rfl, rfl, rfl, List.suffix_cons _ _⟩
  cases stepped with
  | waits handoff polled => exact hpolled polled
  | answers outcome handoff polled => exact hnoted _ (hpolled polled)
  | closes handoff l₁ polled dropped =>
    refine hnoted _ ((hpolled polled).steady (steady_of_core (core_of_dropped dropped) ?_))
    rcases dropped with rfl | ⟨outcome, _, rfl⟩
    · exact List.suffix_rfl
    · exact (later_dropOutcome _ outcome).log

theorem abandonCall (reporting : Reporting l) (call : Nat) : Reporting (l.abandonCall call) := by
  have habandoned : Reporting { l with handoff := l.handoff.abandonConsumer call } :=
    reporting.steady
      ⟨rfl, Handoff.producers_abandonConsumer l.handoff call, rfl, List.suffix_rfl⟩
  exact habandoned.steady
    (steady_of_core (core_abandonCall l call) (later_abandonCall l call).log)

end Reporting

/-- No handshake has the number of the loop, and the next connection's is not in use. -/
theorem Books.Once.unused (once : l.books.Once) :
    l.tasks.find? loopProducer = none ∧ l.tasks.find? (l.connections + 1) = none := by
  have hnone : ∀ id, ¬ (1 ≤ id ∧ id ≤ l.connections) → l.tasks.find? id = none := by
    intro id hid
    have hcount : l.books.returned.count id + l.tasks.ids.count id =
        if 1 ≤ id ∧ id ≤ l.connections then 1 else 0 := once id
    rw [if_neg hid] at hcount
    have hids : l.tasks.ids.count id = 0 := Nat.eq_zero_of_add_eq_zero_left hcount
    exact Roster.find?_eq_none_iff.2 (List.count_eq_zero.1 hids)
  exact ⟨hnone 0 (by omega), hnone _ (by omega)⟩

theorem Reporting.apply (S : Suite) (reporting : Reporting l) (once : l.books.Once) (e : Event) :
    Reporting (l.apply S e) := by
  obtain ⟨noTask, fresh⟩ := once.unused
  cases e with
  | step party =>
    rcases apply_step S l party with ⟨_, same⟩ | ⟨l', happly, taken⟩
    · rw [same]
      exact reporting
    · rw [happly]
      cases taken with
      | loop step => exact reporting.stepLoop noTask fresh (stepLoop_spec step)
      | @task k _ task held step =>
        have other : k ≠ loopProducer := by
          rintro rfl
          cases noTask.symm.trans held
        exact reporting.stepTask held other (stepTask_spec held step)
      | call step => exact reporting.stepCall (stepCall_spec step)
      | drain step =>
        cases stepDrain_spec step with
        | asks _ _ => exact reporting.steady ⟨rfl, rfl, rfl, List.suffix_rfl⟩
        | drains _ _ => exact reporting.steady ⟨rfl, rfl, rfl, List.suffix_cons _ _⟩
  | abandonCall call => exact reporting.abandonCall call
  | closeSocket =>
    exact reporting.steady (steady_of_core (core_closeSocket l) (later_closeSocket l).log)
  | wire stream change =>
    have hlog : (l.onWire stream (·.change change)).log = l.log := log_onWire l stream _
    exact reporting.steady (steady_of_core (core_onWire l stream _) (hlog ▸ List.suffix_rfl))
  | startCall _ | startDrain _ | abandonDrain _ | trigger | arrive _ | newStream _ | advance _
  | chance _ => exact reporting.steady ⟨rfl, rfl, rfl, List.suffix_rfl⟩

theorem Reporting.happens (reporting : Reporting l) (once : l.books.Once)
    (happens : Happens S l l') : Reporting l' := by
  obtain ⟨noTask, fresh⟩ := once.unused
  have hpolled : ∀ socket, Reporting { l with socket := socket } :=
    fun socket => reporting.steady ⟨rfl, rfl, rfl, List.suffix_rfl⟩
  cases happens with
  | event e => exact reporting.apply S once e
  | refuses error socket listening polled =>
    exact (hpolled socket).reportRefusal (by rw [listening]; rfl) noTask error
  | takes arrival socket listening polled =>
    exact (hpolled socket).spawnTask (by rw [listening]; rfl) fresh arrival

end Listener

end Gatehouse
