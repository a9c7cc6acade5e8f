import Gatehouse.Proofs.Listener.Draining
import Gatehouse.Proofs.Listener.Streams

/-!
# What outcomes say of their streams

A handshake comes to an outcome only in a step that has found its stream.  So a connection that has
been submitted is on a stream that is there, and a handshake that has submitted a failure has its
stream shut (`Backed`).  What can be new in a step is said once, for every connection
(`Stepping`).
-/

namespace Gatehouse.Listener

variable {S : Suite} {l l' : Listener} {id : Nat} {task : HandshakeTask} {T : Nat → Prop}

/-! ## A handshake's own steps -/

/-- An outcome that a step brings bears on a stream: it is a connection on the stream, or a failure
    that hangs up on it. -/
def Bears (l l' : Listener) (stream : Nat) : Outcome → Prop
  | .ok connection => connection.stream = stream
  | .error _ => Closes l l' stream

/-- What a handshake's own step can do: the handshake keeps its stream, and what it submits bears on
    the stream, which is there. -/
structure Bearing (l : Listener) (id : Nat) (task : HandshakeTask) (l' : Listener) : Prop where
  stream : ∀ task', l'.tasks.find? id = some task' → task'.stream = task.stream
  submitted : ∀ outcome ∈ l'.handoff.submittedBy id, outcome ∈ l.handoff.submittedBy id ∨
    (l.wires.find? task.stream).isSome = true ∧ Bears l l' task.stream outcome

theorem stream_setPhase {phase : Phase} {task' : HandshakeTask}
    (held : l.tasks.find? id = some task)
    (held' : (l.setPhase id task phase).tasks.find? id = some task') :
    task'.stream = task.stream := by
  rw [find?_setPhase held] at held'
  cases held'
  rfl

theorem bearing_setPhase {phase : Phase} (held : l.tasks.find? id = some task)
    (same : l'.core = l.core) : Bearing l id task (l'.setPhase id task phase) where
  stream := by
    have tasks : l'.tasks = l.tasks := congrArg Core.tasks same
    exact fun _ held' => stream_setPhase (tasks ▸ held) held'
  submitted := by
    have handoff : l'.handoff = l.handoff := congrArg Core.handoff same
    intro outcome submitted
    exact .inl (handoff ▸ submitted)

/-- A handshake that ends submits nothing more. -/
theorem bearing_of_ended (absent : l'.tasks.find? id = none)
    (submitted : l'.handoff.submittedBy id = l.handoff.submittedBy id) : Bearing l id task l' where
  stream := by
    intro task' held'
    cases absent.symm.trans held'
  submitted := by
    rw [submitted]
    exact fun _ submitted => .inl submitted

theorem bearing_submitOutcome {outcome : Outcome} (held : l.tasks.find? id = some task)
    (same : l'.core = l.core) (there : (l.wires.find? task.stream).isSome = true)
    (bears : Bears l (l'.submitOutcome id task outcome) task.stream outcome) :
    Bearing l id task (l'.submitOutcome id task outcome) where
  stream := by
    have tasks : l'.tasks = l.tasks := congrArg Core.tasks same
    exact fun _ held' => stream_setPhase (tasks ▸ held) held'
  submitted := by
    have handoff : l'.handoff = l.handoff := congrArg Core.handoff same
    intro other submitted
    have submitted : other ∈ (l'.handoff.submit id outcome).submittedBy id := submitted
    rw [Handoff.submittedBy_submit, if_pos rfl, handoff] at submitted
    rcases List.mem_cons.1 submitted with rfl | old
    · exact .inr ⟨there, bears⟩
    · exact .inl old

/-- Acts that fail hang up on the stream before anything is submitted. -/
theorem bearing_failActs {failure : Failure} (held : l.tasks.find? id = some task)
    (same : l'.core = l.core) (log : l'.log = l.log)
    (there : failure ≠ .closed → (l.wires.find? task.stream).isSome = true) :
    Bearing l id task (l'.failActs id task failure) := by
  have rejected : (l'.rejectActs id task failure).core = l.core :=
    (core_rejectActs l' id task failure).trans same
  have handoff : (l'.rejectActs id task failure).handoff = l.handoff :=
    congrArg Core.handoff rejected
  have closes : Closes l (l'.rejectActs id task failure) task.stream :=
    (closes_rejectActs l' id task failure).before (log ▸ List.suffix_rfl)
  rcases failActs_cases l' id task failure with ⟨_, heq⟩ | ⟨hne, heq⟩
  · rw [heq]
    exact bearing_of_ended (find?_endTask _ id) (congrArg (·.submittedBy id) handoff)
  · rw [heq]
    exact bearing_submitOutcome held rejected (there hne) (closes.after (List.suffix_cons _ _))

/-- Nothing breaks for a handshake that does not find its stream. -/
theorem there_of_broken {failure : Failure} (broken : l.sight task = .broken failure) :
    (l.wires.find? task.stream).isSome = true := by
  by_contra gone
  have absent := Option.not_isSome_iff_eq_none.1 gone
  have reading : ∀ act count timer, l.readingSight task.stream act count timer = .nothing := by
    intro act count timer
    rw [readingSight, absent]
  have writing : ∀ left, l.writingSight task.stream left = .nothing := by
    intro left
    rw [writingSight, absent]
  have dark : l.sight task = .shut ∨ l.sight task = .nothing := by
    simp only [sight, reading, writing]
    cases task.phase with
    | reporting => exact .inr rfl
    | spawned | readOne | writeTwo | wroteTwo | readThree => exact ite_eq_or_eq _ _ _
  rcases dark with dark | dark <;> cases dark.symm.trans broken

theorem bearing_stepTask (held : l.tasks.find? id = some task)
    (stepped : TaskStepped S l id task (l.sight task) l') : Bearing l id task l' := by
  generalize hsight : l.sight task = sight at stepped
  have ended : ∀ {answer : Poll Bool} {handoff : Handoff Outcome},
      l.handoff.pollProducer id = (answer, handoff) →
        handoff.submittedBy id = l.handoff.submittedBy id :=
    fun polled => (quiet_of_polled polled).submitted id
  have read : ∀ {wire : Wire}, l.wires.find? task.stream = some wire →
      (l.wires.find? task.stream).isSome = true :=
    fun found => Option.isSome_iff_exists.2 ⟨_, found⟩
  cases stepped with
  | aborts spawned fired =>
    have same := core_closeStream (((l.enter id .init).enter id .rejected).endTask id) task.stream
    refine bearing_of_ended ?_ (congrArg (fun c : Core => c.handoff.submittedBy id) same)
    exact (congrArg (fun c : Core => c.tasks.find? id) same).trans (find?_endTask _ id)
  | shut inActs fired => exact bearing_failActs held rfl rfl fun other => absurd rfl other
  | breaks failure wires inActs going =>
    exact bearing_failActs held rfl rfl fun _ => there_of_broken hsight
  | takesOne machine got bytes timer wire inward act _ _ found _ _ =>
    rcases takeActOne_cases (l.withWire task.stream { wire with inward }) id task machine act with
      ⟨e, m, _, htake⟩ | ⟨m₁, _, ⟨e, m₂, _, htake⟩ | ⟨two, m₂, _, htake⟩⟩
    · rw [htake]
      exact bearing_failActs held rfl rfl fun _ => read found
    · rw [htake]
      exact bearing_failActs held rfl rfl fun _ => read found
    · rw [htake]
      exact bearing_setPhase held rfl
  | takesThree machine got bytes timer wire inward act _ _ found _ _ =>
    rcases takeActThree_cases (l.withWire task.stream { wire with inward }) id task machine act with
      ⟨e, m, _, htake⟩ | ⟨m, _, ⟨_, htake⟩ | ⟨remote, _, htake⟩⟩
    · rw [htake]
      exact bearing_failActs held rfl rfl fun _ => read found
    · rw [htake]
      exact bearing_failActs held rfl rfl fun _ => read found
    · rw [htake, succeedActs_eq]
      exact bearing_submitOutcome held rfl (read found) rfl
  | begins | readsOne | writes | awaits | readsThree => exact bearing_setPhase held rfl
  | holds handoff reporting polled =>
    refine ⟨fun task' held' => ?_, fun outcome submitted => .inl ?_⟩
    · cases held.symm.trans held'
      rfl
    · exact ended polled ▸ submitted
  | delivers handoff reporting polled => exact bearing_of_ended (find?_endTask _ id) (ended polled)
  | drops outcome handoff reporting _ polled =>
    refine bearing_of_ended (find?_endTask _ id) (Eq.trans ?_ (ended polled))
    have same : ({ l with handoff : Listener }.dropOutcome outcome).handoff = handoff :=
      congrArg Core.handoff (core_dropOutcome { l with handoff } outcome)
    exact congrArg (·.submittedBy id) same

/-! ## Whatever happens -/

/-- What can be new about a connection when something happens in a listener. -/
structure Stepping (id : Nat) (l l' : Listener) : Prop where
  taken : l.Taken id → l'.Taken id
  /-- A handshake was there and keeps its stream, or it is new and has nothing submitted. -/
  held : ∀ task', l'.tasks.find? id = some task' →
    (∃ task, l.tasks.find? id = some task ∧ task'.stream = task.stream) ∨
      l'.Taken id ∧ ¬ l.Taken id ∧ l'.handoff.submittedBy id = l.handoff.submittedBy id
  /-- The accept loop reports a failure to take a connection, or a handshake submits an outcome that
      bears on its stream, which is there. -/
  submitted : ∀ outcome ∈ l'.handoff.submittedBy id, outcome ∈ l.handoff.submittedBy id ∨
    (id = loopProducer ∧ ∃ e, outcome = .error (.accept e)) ∨
      ∃ task, l.tasks.find? id = some task ∧ (l.wires.find? task.stream).isSome = true ∧
        Bears l l' task.stream outcome

theorem stepping_of_apart (apart : Apart id l l') : Stepping id l l' where
  taken := apart.taken.2
  held := by
    rw [apart.held]
    exact fun task' held => .inl ⟨task', held, rfl⟩
  submitted := by
    rw [apart.submitted]
    exact fun _ submitted => .inl submitted

theorem stepping_stepTask (held : l.tasks.find? id = some task)
    (stepped : TaskStepped S l id task (l.sight task) l') : Stepping id l l' := by
  have bearing := bearing_stepTask held stepped
  have connections : l'.connections = l.connections := (frontServe_stepTask stepped).connections
  refine ⟨?_, fun task' held' => .inl ⟨task, held, bearing.stream task' held'⟩, ?_⟩
  · rw [Taken, Taken, connections]
    exact fun taken => taken
  · intro outcome submitted
    rcases bearing.submitted outcome submitted with old | ⟨there, bears⟩
    · exact .inl old
    · exact .inr (.inr ⟨task, held, there, bears⟩)

theorem stepping_reportRefusal (id : Nat) (l : Listener) (socket : SocketSlot Arrival)
    (error : SystemError) : Stepping id l ({ l with socket }.reportRefusal error) := by
  obtain ⟨pause, l₁, hcore, heq⟩ := reportRefusal_eq { l with socket } error
  have tasks : l₁.tasks = l.tasks := congrArg Core.tasks hcore
  have handoff : l₁.handoff = l.handoff := congrArg Core.handoff hcore
  have connections : l₁.connections = l.connections := congrArg Core.connections hcore
  rw [heq]
  refine ⟨fun taken => ?_, fun task' held' => .inl ⟨task', ?_, rfl⟩, fun outcome submitted => ?_⟩
  · show 1 ≤ id ∧ id ≤ l₁.connections
    rw [connections]
    exact taken
  · exact tasks ▸ held'
  · have submitted : outcome ∈
        (l₁.handoff.submit loopProducer (.error (.accept error))).submittedBy id := submitted
    rw [Handoff.submittedBy_submit, handoff] at submitted
    split at submitted
    · rename_i hid
      rcases List.mem_cons.1 submitted with rfl | old
      · exact .inr (.inl ⟨hid.symm, error, rfl⟩)
      · exact .inl old
    · exact .inl submitted

theorem stepping_spawnTask (id : Nat) (l : Listener) (socket : SocketSlot Arrival)
    (arrival : Arrival) : Stepping id l ({ l with socket }.spawnTask arrival) := by
  refine ⟨fun taken => ⟨taken.1, Nat.le_succ_of_le taken.2⟩, fun task' held' => ?_,
    fun _ submitted => .inl submitted⟩
  by_cases new : id = l.connections + 1
  · subst new
    exact .inr ⟨⟨Nat.le_add_left 1 _, Nat.le_refl _⟩,
      fun taken => absurd taken.2 (Nat.not_succ_le_self _), rfl⟩
  · have held' : (l.tasks.enter (l.connections + 1) ⟨arrival.stream, arrival.peer, .spawned⟩).find?
        id = some task' := held'
    rw [Roster.find?_enter_of_ne l.tasks new] at held'
    exact .inl ⟨task', held', rfl⟩

theorem stepping_happens (happens : Happens S l l') (id : Nat) : Stepping id l l' := by
  cases happens with
  | event e =>
    by_cases own : e = .step (.task id)
    · subst own
      rcases apply_step S l (.task id) with ⟨_, same⟩ | ⟨l', happly, taken⟩
      · rw [same]
        exact stepping_of_apart (apart_of_core rfl)
      · rw [happly]
        cases taken with
        | task task held step => exact stepping_stepTask held (stepTask_spec held step)
    by_cases loop : e = .step .loop
    · subst loop
      rcases apply_step S l .loop with ⟨_, same⟩ | ⟨l', happly, ⟨step⟩⟩
      · rw [same]
        exact stepping_of_apart (apart_of_core rfl)
      · rw [happly]
        rcases apart_stepLoop_or id (stepLoop_spec step) with
          apart | ⟨error, socket, rfl⟩ | ⟨arrival, socket, rfl⟩
        · exact stepping_of_apart apart
        · exact stepping_reportRefusal id l socket error
        · exact stepping_spawnTask id l socket arrival
    · exact stepping_of_apart (apart_of_others S l loop own)
  | refuses error socket listening polled => exact stepping_reportRefusal id l socket error
  | takes arrival socket listening polled => exact stepping_spawnTask id l socket arrival

theorem wired_happens (happens : Happens S l l') : Wired (fun _ => True) l l' := by
  have polled : ∀ socket, Wired (fun _ => True) l { l with socket } :=
    fun _ => wired_of_wires rfl rfl
  cases happens with
  | event e => exact (wired_apply S l e).mono fun _ _ => trivial
  | refuses error socket listening _ => exact (polled socket).trans (wired_reportRefusal _ error)
  | takes arrival socket listening _ =>
    exact wired_of_noted rfl rfl fun _ => Happening.noConfusion

/-! ## What has been submitted -/

/-- What has been submitted for a connection is borne out by the streams. -/
structure Backed (id : Nat) (l : Listener) : Prop where
  taken : ∀ task, l.tasks.find? id = some task → l.Taken id
  /-- Besides handshakes the accept loop submits its failures. -/
  source : ∀ outcome ∈ l.handoff.submittedBy id,
    l.Taken id ∨ id = loopProducer ∧ ∃ e, outcome = .error (.accept e)
  /-- The stream of a connection that has been submitted is there. -/
  secured : ∀ connection, .ok connection ∈ l.handoff.submittedBy id →
    (l.wires.find? connection.stream).isSome = true
  /-- The stream of a handshake that has submitted a failure is shut. -/
  failed : ∀ task failure, l.tasks.find? id = some task →
    .error failure ∈ l.handoff.submittedBy id → l.Shut task.stream

namespace Backed

/-- A connection that has been submitted by the next moment is on a stream that is there now. -/
theorem there (backed : Backed id l) (stepping : Stepping id l l') {connection : SecuredConnection}
    (submitted : .ok connection ∈ l'.handoff.submittedBy id) :
    (l.wires.find? connection.stream).isSome = true := by
  rcases stepping.submitted _ submitted with old | ⟨_, _, heq⟩ | ⟨task, _, there, bears⟩
  · exact backed.secured connection old
  · cases heq
  · rw [show connection.stream = task.stream from bears]
    exact there

theorem step (backed : Backed id l) (stepping : Stepping id l l') (wired : Wired T l l') :
    Backed id l' where
  taken := by
    intro task' held'
    rcases stepping.held task' held' with ⟨task, held, _⟩ | ⟨taken, _⟩
    · exact stepping.taken (backed.taken task held)
    · exact taken
  source := by
    intro outcome submitted
    rcases stepping.submitted outcome submitted with old | refusal | ⟨task, held, _⟩
    · exact (backed.source outcome old).imp_left stepping.taken
    · exact .inr refusal
    · exact .inl (stepping.taken (backed.taken task held))
  secured := fun connection submitted => wired.present (backed.there stepping submitted)
  failed := by
    intro task' failure held' submitted
    rcases stepping.held task' held' with ⟨task, held, hstream⟩ | ⟨taken, new, same⟩
    · rw [hstream]
      rcases stepping.submitted _ submitted with old | ⟨rfl, _⟩ | ⟨other, own, there, closes⟩
      · exact wired.shut (backed.failed task failure held old)
      · exact absurd (backed.taken task held).1 (Nat.not_succ_le_self 0)
      · cases held.symm.trans own
        exact (wired.hangsUp closes).shut there
    · -- a connection that is new has submitted nothing, and the loop has no number of that kind
      rw [same] at submitted
      rcases backed.source _ submitted with old | ⟨rfl, _⟩
      · exact absurd old new
      · exact absurd taken.1 (Nat.not_succ_le_self 0)

theorem happens (backed : Backed id l) (happens : Happens S l l') : Backed id l' :=
  backed.step (stepping_happens happens id) (wired_happens happens)

/-- What the accept loop submits is no connection. -/
theorem loopOwn (backed : Backed loopProducer l) {connection : SecuredConnection}
    (submitted : .ok connection ∈ l.handoff.submittedBy loopProducer) : False := by
  rcases backed.source _ submitted with taken | ⟨_, _, heq⟩
  · exact Nat.not_succ_le_self 0 taken.1
  · cases heq

end Backed

theorem backed_opened {identity : Identity} {capacity timeout : Nat}
    {address : Except SystemError SocketAddress}
    (opened : ofRaw identity capacity timeout address = .ok l) (id : Nat) : Backed id l := by
  obtain ⟨_, _, _, rfl⟩ := eq_of_opened opened
  exact ⟨(fun _ held => by cases held), (fun _ submitted => by cases submitted),
    (fun _ submitted => by cases submitted), (fun _ _ held => by cases held)⟩

end Gatehouse.Listener
