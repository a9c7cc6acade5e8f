import Gatehouse.Proofs.Handoff.Submissions
import Gatehouse.Proofs.Listener.Steps
import Gatehouse.Proofs.Roster

/-!
# What is nothing to a connection

Most of what happens in a listener is nothing to a given connection: its number, its handshake, what
it has submitted and what is on record of it stay as they are (`Apart`).  That is so of the steps of
every other handshake, of the calls and waits, and of whatever leaves the core alone.  What is left
are the connection's own steps and those of the accept loop that take a new one.
-/

namespace Gatehouse.Listener

variable {S : Suite} {l l' : Listener} {id : Nat}

/-- Has the connection with this number been taken? -/
def Taken (l : Listener) (id : Nat) : Prop := 1 ≤ id ∧ id ≤ l.connections

/-- Nothing has happened to this connection, but that the shutdown may have been fired. -/
structure Apart (id : Nat) (l l' : Listener) : Prop where
  settings : l'.settings = l.settings
  taken : l'.Taken id ↔ l.Taken id
  held : l'.tasks.find? id = l.tasks.find? id
  submitted : l'.handoff.submittedBy id = l.handoff.submittedBy id
  fired : l.fired = true → l'.fired = true
  noted : ∀ stream, .taken id stream ∈ l.log → .taken id stream ∈ l'.log

theorem Apart.trans {l'' : Listener} (h : Apart id l l') (h' : Apart id l' l'') : Apart id l l'' where
  settings := h'.settings.trans h.settings
  taken := h'.taken.trans h.taken
  held := h'.held.trans h.held
  submitted := h'.submitted.trans h.submitted
  fired := fun hf => h'.fired (h.fired hf)
  noted := fun stream hn => h'.noted stream (h.noted stream hn)

theorem mem_record {h : Happening} (lasting : h.isPassing = false) :
    h ∈ l.core.record ↔ h ∈ l.log := by
  show h ∈ l.log.filter (!·.isPassing) ↔ h ∈ l.log
  rw [List.mem_filter, lasting]
  exact ⟨fun hm => hm.1, fun hm => ⟨hm, rfl⟩⟩

/-- All that is known of a connection is a matter of the core. -/
theorem apart_of_core (h : l'.core = l.core) : Apart id l l' := by
  have hrecord : l'.core.record = l.core.record := congrArg Core.record h
  have hhandoff : l'.handoff = l.handoff := congrArg Core.handoff h
  have hconnections : l'.connections = l.connections := congrArg Core.connections h
  have htasks : l'.tasks = l.tasks := congrArg Core.tasks h
  refine ⟨congrArg Core.settings h, ?_, by rw [htasks], by rw [hhandoff], ?_, ?_⟩
  · rw [Taken, Taken, hconnections]
  · intro hfired
    rw [fired, hhandoff]
    exact hfired
  · intro stream hmem
    rw [← mem_record rfl] at hmem ⊢
    rw [hrecord]
    exact hmem

/-- The handoff may change, as long as nothing new is submitted to it, and so may whatever else is
    not in sight. -/
theorem apart_of_quiet (quiet : Handoff.Quiet l.handoff l'.handoff)
    (settings : l'.settings = l.settings) (connections : l'.connections = l.connections)
    (tasks : l'.tasks = l.tasks) (log : l.log <:+ l'.log) : Apart id l l' where
  settings := settings
  taken := by rw [Taken, Taken, connections]
  held := by rw [tasks]
  submitted := quiet.submitted id
  fired := fun hfired => quiet.fired.trans hfired
  noted := fun _ hmem => log.subset hmem

/-! ## The steps of the others -/

theorem quiet_of_polled {answer : Poll Bool} {handoff : Handoff Outcome}
    (polled : l.handoff.pollProducer id = (answer, handoff)) : Handoff.Quiet l.handoff handoff := by
  have quiet := Handoff.quiet_pollProducer l.handoff id
  rw [polled] at quiet
  exact quiet

/-- A poll of a producer is nothing to a connection. -/
theorem apart_of_polled {k : Nat} {answer : Poll Bool} {handoff : Handoff Outcome}
    (polled : l.handoff.pollProducer k = (answer, handoff)) : Apart id l { l with handoff } :=
  apart_of_quiet (quiet_of_polled polled) rfl rfl rfl List.suffix_rfl

section Others

variable {k : Nat} {task : HandshakeTask}

theorem apart_setPhase {phase : Phase} (hk : id ≠ k) (same : l'.core = l.core) :
    Apart id l (l'.setPhase k task phase) := by
  have apart : Apart id l l' := apart_of_core same
  refine ⟨apart.settings, apart.taken, ?_, apart.submitted, apart.fired, apart.noted⟩
  show (l'.tasks.update k { task with phase }).find? id = _
  rw [Roster.find?_update, if_neg hk]
  exact apart.held

theorem apart_endTask (hk : id ≠ k) (apart : Apart id l l') : Apart id l (l'.endTask k) := by
  refine ⟨apart.settings, apart.taken, ?_, apart.submitted, apart.fired, ?_⟩
  · show (l'.tasks.erase k).find? id = _
    rw [Roster.find?_erase, if_neg hk]
    exact apart.held
  · exact fun stream hmem => List.mem_cons_of_mem _ (apart.noted stream hmem)

theorem apart_submitOutcome {outcome : Outcome} (hk : id ≠ k) (apart : Apart id l l') :
    Apart id l (l'.submitOutcome k task outcome) := by
  refine ⟨apart.settings, apart.taken, ?_, ?_, apart.fired, ?_⟩
  · show (l'.tasks.update k { task with phase := .reporting }).find? id = _
    rw [Roster.find?_update, if_neg hk]
    exact apart.held
  · show (l'.handoff.submit k outcome).submittedBy id = _
    rw [Handoff.submittedBy_submit, if_neg (Ne.symm hk)]
    exact apart.submitted
  · exact fun stream hmem => List.mem_cons_of_mem _ (apart.noted stream hmem)

theorem apart_failActs {failure : Failure} (hk : id ≠ k) (same : l'.core = l.core) :
    Apart id l (l'.failActs k task failure) := by
  have apart : Apart id l (l'.rejectActs k task failure) :=
    apart_of_core ((core_rejectActs l' k task failure).trans same)
  rcases failActs_cases l' k task failure with ⟨_, heq⟩ | ⟨_, heq⟩
  · rw [heq]
    exact apart_endTask hk apart
  · rw [heq]
    exact apart_submitOutcome hk apart

theorem apart_succeedActs {machine : Machine} {remote : PublicKey} (hk : id ≠ k)
    (same : l'.core = l.core) : Apart id l (l'.succeedActs k task machine remote) := by
  have apart : Apart id l (l'.secureActs k) := apart_of_core ((core_secureActs l' k).trans same)
  rw [succeedActs_eq]
  exact apart_submitOutcome hk apart

/-- A step of another connection's handshake is nothing to this one. -/
theorem apart_stepTask {sight : Sight} (hk : id ≠ k) (stepped : TaskStepped S l k task sight l') :
    Apart id l l' := by
  cases stepped with
  | aborts spawned fired =>
    have entered : Apart id l ((l.enter k .init).enter k .rejected) := apart_of_core rfl
    exact (apart_endTask hk entered).trans (apart_of_core (core_closeStream _ _))
  | begins spawned going => exact apart_setPhase hk rfl
  | shut inActs fired => exact apart_failActs hk rfl
  | breaks failure wires inActs going => exact apart_failActs hk rfl
  | readsOne => exact apart_setPhase hk rfl
  | takesOne machine got bytes timer wire inward act _ _ _ _ _ =>
    rcases takeActOne_cases (l.withWire task.stream { wire with inward }) k task machine act with
      ⟨e, m, _, htake⟩ | ⟨m₁, _, ⟨e, m₂, _, htake⟩ | ⟨two, m₂, _, htake⟩⟩
    · rw [htake]
      exact apart_failActs hk rfl
    · rw [htake]
      exact apart_failActs hk rfl
    · rw [htake]
      exact apart_setPhase hk rfl
  | writes => exact apart_setPhase hk rfl
  | awaits => exact apart_setPhase hk rfl
  | readsThree => exact apart_setPhase hk rfl
  | takesThree machine got bytes timer wire inward act _ _ _ _ _ =>
    rcases takeActThree_cases (l.withWire task.stream { wire with inward }) k task machine act with
      ⟨e, m, _, htake⟩ | ⟨m, _, ⟨_, htake⟩ | ⟨remote, _, htake⟩⟩
    · rw [htake]
      exact apart_failActs hk rfl
    · rw [htake]
      exact apart_failActs hk rfl
    · rw [htake]
      exact apart_succeedActs hk rfl
  | holds handoff _ polled => exact apart_of_polled polled
  | delivers handoff _ polled => exact apart_endTask hk (apart_of_polled polled)
  | drops outcome handoff _ _ polled =>
    exact apart_endTask hk ((apart_of_polled polled).trans (apart_of_core (core_dropOutcome _ _)))

theorem apart_note (h : Happening) : Apart id l (l.note h) :=
  apart_of_quiet (.refl _) rfl rfl rfl (List.suffix_cons _ _)

theorem apart_stopLoop : Apart id l l.stopLoop := by
  have apart : Apart id l l.closeSocket := apart_of_core (core_closeSocket l)
  have stopped : Apart id l.closeSocket l.stopLoop :=
    apart_of_quiet (.refl _) rfl rfl rfl (List.suffix_cons _ _)
  exact apart.trans stopped

/-- A call is nothing to a connection. -/
theorem apart_stepCall {call : Nat} (stepped : CallStepped l call l') : Apart id l l' := by
  have hquiet : ∀ {answer : Poll (Option Outcome)} {handoff : Handoff Outcome},
      l.handoff.pollConsumer call = (answer, handoff) → Apart id l { l with handoff } := by
    intro answer handoff polled
    have quiet := Handoff.quiet_pollConsumer l.handoff call
    rw [polled] at quiet
    exact apart_of_quiet quiet rfl rfl rfl List.suffix_rfl
  cases stepped with
  | waits handoff polled => exact hquiet polled
  | answers outcome handoff polled => exact (hquiet polled).trans (apart_note _)
  | closes handoff l₁ polled dropped =>
    exact ((hquiet polled).trans (apart_of_core (core_of_dropped dropped))).trans (apart_note _)

theorem apart_abandonCall (call : Nat) : Apart id l (l.abandonCall call) := by
  have apart : Apart id l { l with handoff := l.handoff.abandonConsumer call } :=
    apart_of_quiet (Handoff.quiet_abandonConsumer _ call) rfl rfl rfl List.suffix_rfl
  exact apart.trans (apart_of_core (core_abandonCall l call))

theorem apart_stepDrain {drain : Nat} (stepped : DrainStepped l drain l') : Apart id l l' := by
  cases stepped with
  | asks _ _ => exact apart_of_quiet (.refl _) rfl rfl rfl List.suffix_rfl
  | drains _ _ => exact apart_of_quiet (.refl _) rfl rfl rfl (List.suffix_cons _ _)

end Others

/-! ## All events but the connection's own steps -/

/-- A failure to take a connection is nothing to one that has been taken. -/
theorem apart_reportRefusal (taken : l.Taken id) (error : SystemError) :
    Apart id l (l.reportRefusal error) := by
  obtain ⟨pause, l₁, hcore, heq⟩ := reportRefusal_eq l error
  have other : loopProducer ≠ id := fun h => absurd (h ▸ taken.1) (by decide)
  rw [heq]
  refine (apart_of_core hcore).trans
    ⟨rfl, Iff.rfl, rfl, ?_, fun h => h, fun _ h => List.mem_cons_of_mem _ h⟩
  show (l₁.handoff.submit loopProducer (.error (.accept error))).submittedBy id = _
  rw [Handoff.submittedBy_submit, if_neg other]

/-- So is another one that is taken. -/
theorem apart_spawnTask (taken : l.Taken id) (arrival : Arrival) :
    Apart id l (l.spawnTask arrival) := by
  have hne : id ≠ l.connections + 1 := fun h => absurd taken.2 (by omega)
  refine ⟨rfl, ?_, ?_, rfl, fun h => h, fun _ h => List.mem_cons_of_mem _ h⟩
  · have hle := taken.2
    show 1 ≤ id ∧ id ≤ l.connections + 1 ↔ 1 ≤ id ∧ id ≤ l.connections
    omega
  · exact Roster.find?_enter_of_ne l.tasks hne _

/-- A step of the accept loop is nothing to a connection, unless the socket answers it. -/
theorem apart_stepLoop_or (id : Nat) (stepped : LoopStepped l l') :
    Apart id l l' ∨ (∃ error socket, l' = { l with socket }.reportRefusal error) ∨
      ∃ arrival socket, l' = { l with socket }.spawnTask arrival := by
  have same : ∀ {l₁ : Listener}, l₁.handoff = l.handoff → l₁.settings = l.settings →
      l₁.connections = l.connections → l₁.tasks = l.tasks → l.log <:+ l₁.log → Apart id l l₁ :=
    fun handoff => apart_of_quiet (handoff ▸ .refl _)
  cases stepped with
  | stops _ _ => exact .inl apart_stopLoop
  | withdraws _ _ =>
    have left : Apart id l { l with pool := l.pool.withdraw .loop } :=
      same rfl rfl rfl rfl List.suffix_rfl
    exact .inl (left.trans apart_stopLoop)
  | returns _ _ =>
    have released : Apart id l l.releaseLoopToken := same rfl rfl rfl rfl (List.suffix_cons _ _)
    exact .inl (released.trans apart_stopLoop)
  | refuses error socket _ _ _ => exact .inr (.inl ⟨error, socket, rfl⟩)
  | takes arrival socket _ _ _ => exact .inr (.inr ⟨arrival, socket, rfl⟩)
  | holds pause handoff _ polled => exact .inl (apart_of_polled polled)
  | pauses pause delivered handoff _ polled =>
    have paused : Apart id { l with handoff } ({ l with handoff }.startPause pause) :=
      apart_of_quiet (.refl _) rfl rfl rfl (List.suffix_cons _ _)
    exact .inl ((apart_of_polled polled).trans paused)
  | queues | draws | picksUp | resumes => exact .inl (same rfl rfl rfl rfl List.suffix_rfl)

theorem apart_stepLoop (taken : l.Taken id) (stepped : LoopStepped l l') : Apart id l l' := by
  have answered : ∀ socket, Apart id l { l with socket } := fun _ => apart_of_core rfl
  rcases apart_stepLoop_or id stepped with apart | ⟨error, socket, rfl⟩ | ⟨arrival, socket, rfl⟩
  · exact apart
  · exact (answered socket).trans (apart_reportRefusal ((answered socket).taken.2 taken) error)
  · exact (answered socket).trans (apart_spawnTask ((answered socket).taken.2 taken) arrival)

/-- Whatever happens, but for its own steps and those of the accept loop, is nothing to a
    connection. -/
theorem apart_of_others (S : Suite) (l : Listener) {e : Event} (notLoop : e ≠ .step .loop)
    (other : e ≠ .step (.task id)) : Apart id l (l.apply S e) := by
  cases e with
  | step party =>
    rcases apply_step S l party with ⟨_, same⟩ | ⟨l', happly, taken⟩
    · rw [same]
      exact apart_of_core rfl
    · rw [happly]
      cases taken with
      | loop _ => exact absurd rfl notLoop
      | task task held step =>
        exact apart_stepTask (fun h => other (h ▸ rfl)) (stepTask_spec held step)
      | call step => exact apart_stepCall (stepCall_spec step)
      | drain step => exact apart_stepDrain (stepDrain_spec step)
  | startCall call => exact apart_of_quiet ⟨fun _ => rfl, rfl⟩ rfl rfl rfl List.suffix_rfl
  | abandonCall call => exact apart_abandonCall call
  | trigger => exact ⟨rfl, Iff.rfl, rfl, rfl, fun _ => rfl, fun _ h => h⟩
  | closeSocket => exact apart_of_core (core_closeSocket l)
  | wire stream change => exact apart_of_core (core_onWire l stream _)
  | startDrain _ | abandonDrain _ | arrive _ | newStream _ | advance _ | chance _ =>
    exact apart_of_quiet (.refl _) rfl rfl rfl List.suffix_rfl

/-- To one that has been taken the accept loop's steps are nothing either. -/
theorem apart_apply (S : Suite) (taken : l.Taken id) {e : Event} (other : e ≠ .step (.task id)) :
    Apart id l (l.apply S e) := by
  by_cases loop : e = .step .loop
  · subst loop
    rcases apply_step S l .loop with ⟨_, same⟩ | ⟨l', happly, ⟨step⟩⟩
    · rw [same]
      exact apart_of_core rfl
    · rw [happly]
      exact apart_stepLoop taken (stepLoop_spec step)
  · exact apart_of_others S l loop other

/-! ## What a listener was set up with -/

theorem settings_stepLoop (stepped : LoopStepped l l') : l'.settings = l.settings := by
  -- what the loop does as it stops is nothing to a connection
  have stops : ∀ {l₁ : Listener}, l₁.settings = l.settings → l₁.stopLoop.settings = l.settings := by
    intro l₁ same
    have apart : Apart 0 l₁ l₁.stopLoop := apart_stopLoop
    exact apart.settings.trans same
  cases stepped with
  | stops _ _ | withdraws _ _ | returns _ _ => exact stops rfl
  | refuses error socket _ _ _ =>
    obtain ⟨pause, l₁, hcore, heq⟩ := reportRefusal_eq { l with socket } error
    rw [heq]
    exact congrArg Core.settings hcore
  | _ => rfl

/-- No event changes what a listener was set up with. -/
theorem settings_apply (S : Suite) (l : Listener) (e : Event) :
    (l.apply S e).settings = l.settings := by
  by_cases loop : e = .step .loop
  · subst loop
    rcases apply_step S l .loop with ⟨_, same⟩ | ⟨l', happly, ⟨step⟩⟩
    · rw [same]
    · rw [happly]
      exact settings_stepLoop (stepLoop_spec step)
  · -- some connection has nothing to do with the event
    have apart : ∃ id, Apart id l (l.apply S e) := by
      by_cases other : e = .step (.task 0)
      · exact ⟨1, apart_of_others S l loop (by rw [other]; exact fun h => by cases h)⟩
      · exact ⟨0, apart_of_others S l loop other⟩
    obtain ⟨id, apart⟩ := apart
    exact apart.settings

theorem settings_run (S : Suite) (l : Listener) (events : List Event) :
    (l.run S events).settings = l.settings :=
  run_induction (P := fun l' => l'.settings = l.settings) rfl
    (fun l' e hold => (settings_apply S l' e).trans hold) events

end Gatehouse.Listener
