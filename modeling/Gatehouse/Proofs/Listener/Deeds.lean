import Gatehouse.Proofs.Listener.Outcomes
import Gatehouse.Proofs.Listener.Streams

/-!
# What a handshake does, in order

A handshake closes its stream, submits an outcome and gives its token back, or does some of that.
What it does is read off the lines that its own steps put on record (`deeds`), and how far it has
come says what that is (`Stage`).  The proof follows one connection: its own steps take it along
(`Stage.stepTask`), and whatever else happens is nothing to it (`Apart`).

A failure is submitted behind a stream that is closed.  A connection that is secured is submitted
open, since it is what the outcome is made of, and if nobody takes it, it is closed then.  The token
comes last either way, so there is no token to be had for a connection that was not handed over and
is still open (`closed_before_token`).
-/

namespace Gatehouse

/-- What a handshake does about its acts, its connection, its outcome and its token. -/
inductive Deed
  /-- It begins on the acts. -/
  | begins
  /-- It closes a stream. -/
  | closes (stream : Nat)
  /-- It submits an outcome. -/
  | submits (outcome : Outcome)
  /-- It gives its token back. -/
  | returns

/-- The place that a deed would have if the stream were always closed first, before the outcome and
    that before the token. -/
def Deed.place : Deed → Nat
  | .begins | .closes _ => 0
  | .submits _ => 1
  | .returns => 2

/-- The deed of a connection's handshake that is on record here. -/
def Happening.deed? (id : Nat) : Happening → Option Deed
  | .entered k .awaitActOne => if k = id then some .begins else none
  | .streamClosed stream => some (.closes stream)
  | .submitted k outcome => if k = id then some (.submits outcome) else none
  | .tokenReturned k => if k = id then some .returns else none
  | _ => none

namespace Listener

variable {S : Suite} {l l' : Listener} {id stream : Nat} {task : HandshakeTask} {ds : List Deed}

/-- The deeds that came on record between two moments, the earliest first. -/
def doneIn (id : Nat) (l l' : Listener) : List Deed :=
  (l'.log.take (l'.log.length - l.log.length)).reverse.filterMap (Happening.deed? id)

/-- What a connection's handshake does in an event: something at its own turns only. -/
def did (S : Suite) (id : Nat) (l : Listener) : Event → List Deed
  | .step (.task k) => if k = id then doneIn id l (l.apply S (.step (.task k))) else []
  | _ => []

/-- What a connection's handshake does along a run, in order. -/
def deeds (S : Suite) (id : Nat) : Listener → List Event → List Deed
  | _, [] => []
  | l, e :: events => l.did S id e ++ deeds S id (l.apply S e) events

theorem deeds_append (S : Suite) (id : Nat) (l : Listener) (events more : List Event) :
    deeds S id l (events ++ more) =
      deeds S id l events ++ deeds S id (l.run S events) more := by
  induction events generalizing l with
  | nil => rfl
  | cons e events ih =>
    show l.did S id e ++ deeds S id (l.apply S e) (events ++ more) = _
    rw [ih, ← List.append_assoc]
    rfl

theorem doneIn_eq (news : List Happening) (log : l'.log = news ++ l.log) :
    doneIn id l l' = news.reverse.filterMap (Happening.deed? id) := by
  rw [doneIn, log, List.length_append, Nat.add_sub_cancel, List.take_left]

/-! ## Ways to the end -/

/-- What a handshake has done when its outcome waits to be handed over: a failure comes behind a
    stream that is closed, a connection is handed over as it is. -/
inductive Submits (stream : Nat) : Outcome → List Deed → Prop
  | failure (failure : Failure) (other : failure ≠ .closed) :
    Submits stream (.error failure) [.begins, .closes stream, .submits (.error failure)]
  | connection (connection : SecuredConnection) (own : connection.stream = stream) :
    Submits stream (.ok connection) [.begins, .submits (.ok connection)]

/-- What a handshake has done when it has ended and its connection was not handed over. -/
inductive Undelivered (l : Listener) (id stream : Nat) : List Deed → Prop
  /-- The shutdown has cut its acts short. -/
  | cutShort (fired : l.fired = true) :
    Undelivered l id stream [.begins, .closes stream, .returns]
  /-- Its acts have failed. -/
  | rejected (failure : Failure) (other : failure ≠ .closed) :
    Undelivered l id stream [.begins, .closes stream, .submits (.error failure), .returns]
  /-- Its acts have come to a good end, and then it was told that nobody takes the connection. -/
  | refused (connection : SecuredConnection) (own : connection.stream = stream)
      (told : .told id false ∈ l.handoff.history) :
    Undelivered l id stream [.begins, .submits (.ok connection), .closes stream, .returns]

/-- What a handshake has done when it has ended and its connection was handed over. -/
structure HandedOver (l : Listener) (id stream : Nat) (ds : List Deed) : Prop where
  told : .told id true ∈ l.handoff.history
  deeds : ∃ connection, connection.stream = stream ∧
    ds = [.begins, .submits (.ok connection), .returns]

theorem Undelivered.closes (undelivered : Undelivered l id stream ds) : .closes stream ∈ ds := by
  cases undelivered <;> simp

/-- How far a handshake has come, and what it has done by then. -/
inductive Stage (id : Nat) (l : Listener) : List Deed → Prop
  /-- Its connection has not been taken. -/
  | untaken (notTaken : ¬ l.Taken id) (absent : l.tasks.find? id = none) : Stage id l []
  /-- It has not taken a step. -/
  | spawned (task : HandshakeTask) (unsettled : l.Unsettled id task)
      (spawned : task.phase = .spawned) : Stage id l []
  /-- It is at the acts. -/
  | acting (task : HandshakeTask) (unsettled : l.Unsettled id task)
      (inActs : task.phase.inActs = true) : Stage id l [.begins]
  /-- Its outcome waits to be handed over. -/
  | reporting (task : HandshakeTask) (outcome : Outcome) {ds : List Deed} (taken : l.Taken id)
      (held : l.tasks.find? id = some task) (phase_eq : task.phase = .reporting)
      (noted : .taken id task.stream ∈ l.log)
      (submitted : l.handoff.submittedBy id = [outcome]) (submits : Submits task.stream outcome ds) :
    Stage id l ds
  /-- It has found the shutdown at its first step: the acts were never begun. -/
  | unbegun (stream : Nat) (taken : l.Taken id) (absent : l.tasks.find? id = none) :
    Stage id l [.returns, .closes stream]
  /-- It has ended. -/
  | ended (stream : Nat) {ds : List Deed} (taken : l.Taken id)
      (absent : l.tasks.find? id = none) (noted : .taken id stream ∈ l.log)
      (ways : Undelivered l id stream ds ∨ HandedOver l id stream ds) : Stage id l ds

/-- What somebody else does changes nothing about how far a handshake has come. -/
theorem Stage.apart (stage : Stage id l ds) (apart : Apart id l l')
    (history : l.handoff.history <:+ l'.handoff.history) : Stage id l' ds := by
  cases stage with
  | untaken notTaken absent =>
    exact .untaken (fun h => notTaken (apart.taken.1 h)) (apart.held.trans absent)
  | spawned task unsettled spawned => exact .spawned task (unsettled.apart apart) spawned
  | acting task unsettled inActs => exact .acting task (unsettled.apart apart) inActs
  | reporting task outcome taken held phase_eq noted submitted submits =>
    exact .reporting task outcome (apart.taken.2 taken) (apart.held.trans held) phase_eq
      (apart.noted _ noted) (apart.submitted.trans submitted) submits
  | unbegun stream taken absent =>
    exact .unbegun stream (apart.taken.2 taken) (apart.held.trans absent)
  | ended stream taken absent noted ways =>
    refine .ended stream (apart.taken.2 taken) (apart.held.trans absent) (apart.noted _ noted) ?_
    rcases ways with undelivered | handedOver
    · refine .inl ?_
      cases undelivered with
      | cutShort fired => exact .cutShort (apart.fired fired)
      | rejected failure other => exact .rejected failure other
      | refused connection own told => exact .refused connection own (history.subset told)
    · exact .inr ⟨history.subset handedOver.told, handedOver.deeds⟩

/-! ## A handshake's own steps -/

/-- An outcome is submitted by a handshake that has not submitted any. -/
theorem Unsettled.reporting {outcome : Outcome} (unsettled : l.Unsettled id task)
    (submits : Submits task.stream outcome ds) : Stage id (l.submitOutcome id task outcome) ds := by
  have held := find?_setPhase unsettled.held .reporting
  have submitted := submittedBy_submitOutcome unsettled.silent task outcome
  exact .reporting { task with phase := .reporting } outcome unsettled.taken held rfl
    (List.mem_cons_of_mem _ unsettled.noted) submitted submits

/-- Acts that fail: the stream is closed, and then either the shutdown is all there is to it or the
    failure is submitted. -/
theorem Unsettled.stage_failActs {failure : Failure} (unsettled : l.Unsettled id task)
    (same : l'.core = l.core) (log : l'.log = l.log) (shut : failure = .closed → l.fired = true) :
    Stage id (l'.failActs id task failure)
      ([.begins] ++ doneIn id l (l'.failActs id task failure)) := by
  have apart : Apart id l (l'.rejectActs id task failure) :=
    apart_of_core ((core_rejectActs l' id task failure).trans same)
  have unsettled' := unsettled.apart apart
  have hlog : (l'.rejectActs id task failure).log =
      .entered id .rejected :: .streamClosed task.stream :: l.log := by
    rw [rejectActs_log, log]
  rcases failActs_cases l' id task failure with ⟨rfl, heq⟩ | ⟨hne, heq⟩
  · have hdone : doneIn id l ((l'.rejectActs id task .closed).endTask id) =
        [.closes task.stream, .returns] := by
      rw [doneIn_eq [.tokenReturned id, .entered id .rejected,
        .streamClosed task.stream] (congrArg _ hlog)]
      simp [List.filterMap_cons, Happening.deed?]
    rw [heq, hdone]
    exact .ended task.stream unsettled'.taken (find?_endTask _ id)
      (List.mem_cons_of_mem _ unsettled'.noted) (.inl (.cutShort (apart.fired (shut rfl))))
  · have hdone : doneIn id l
        ((l'.rejectActs id task failure).submitOutcome id task (.error failure)) =
          [.closes task.stream, .submits (.error failure)] := by
      rw [doneIn_eq [.submitted id (.error failure), .entered id .rejected,
        .streamClosed task.stream] (congrArg _ hlog)]
      simp [List.filterMap_cons, Happening.deed?]
    rw [heq, hdone]
    exact unsettled'.reporting (.failure failure hne)

/-- Acts that come to a good end: the connection is submitted as it is. -/
theorem Unsettled.stage_succeedActs {machine : Machine} {remote : PublicKey}
    (unsettled : l.Unsettled id task) (same : l'.core = l.core) (log : l'.log = l.log) :
    Stage id (l'.succeedActs id task machine remote)
      ([.begins] ++ doneIn id l (l'.succeedActs id task machine remote)) := by
  have apart : Apart id l (l'.secureActs id) :=
    apart_of_core ((core_secureActs l' id).trans same)
  let connection : SecuredConnection := ⟨id, task.stream, task.peer, remote, machine⟩
  have hdone : doneIn id l ((l'.secureActs id).submitOutcome id task (.ok connection)) =
      [.submits (.ok connection)] := by
    have hlog : (l'.secureActs id).log = .entered id .secured :: l.log := congrArg _ log
    rw [doneIn_eq [.submitted id (.ok connection), .entered id .secured]
      (congrArg _ hlog)]
    simp [List.filterMap_cons, Happening.deed?]
  rw [succeedActs_eq, hdone]
  exact (unsettled.apart apart).reporting (.connection connection rfl)

/-- Acts that go on. -/
theorem Unsettled.stage_setPhase {phase : Phase} (unsettled : l.Unsettled id task)
    (news : List Happening) (same : l'.core = l.core)
    (log : l'.log = news ++ l.log) (inActs : phase.inActs = true)
    (done : ds ++ news.reverse.filterMap (Happening.deed? id) = [.begins]) :
    Stage id (l'.setPhase id task phase) (ds ++ doneIn id l (l'.setPhase id task phase)) := by
  have unsettled' : l'.Unsettled id task := unsettled.apart (apart_of_core same)
  have held := find?_setPhase unsettled'.held phase
  have hdone : doneIn id l (l'.setPhase id task phase) =
      news.reverse.filterMap (Happening.deed? id) := doneIn_eq _ log
  rw [hdone, done]
  exact .acting { task with phase } ⟨unsettled'.taken, held, unsettled'.noted, unsettled'.silent⟩
    inActs

/-- The first step: the acts begin, unless the shutdown has been fired. -/
theorem Unsettled.stage_begin {sight : Sight} (unsettled : l.Unsettled id task)
    (spawned : task.phase = .spawned) (stepped : TaskStepped S l id task sight l') :
    Stage id l' ([] ++ doneIn id l l') := by
  have hphase : ∀ {phase : Phase}, task.phase = phase → phase = .spawned :=
    fun h => h.symm.trans spawned
  have hnot : task.phase.inActs ≠ true := by
    rw [spawned]
    decide
  cases stepped with
  | aborts _ fired =>
    have hdone : doneIn id l
        ((((l.enter id .init).enter id .rejected).endTask id).closeStream task.stream) =
          [.returns, .closes task.stream] := by
      rw [doneIn_eq [.streamClosed task.stream, .tokenReturned id,
        .entered id .rejected, .entered id .init] (closeStream_log _ _)]
      simp [List.filterMap_cons, Happening.deed?]
    have same := core_closeStream (((l.enter id .init).enter id .rejected).endTask id) task.stream
    have apart : Apart id (((l.enter id .init).enter id .rejected).endTask id) _ :=
      apart_of_core same
    rw [hdone]
    exact .unbegun task.stream (apart.taken.2 unsettled.taken)
      (apart.held.trans (find?_endTask _ id))
  | begins _ going =>
    exact unsettled.stage_setPhase [.entered id .awaitActOne, .entered id .init] rfl rfl
      rfl (by simp [List.filterMap_cons, Happening.deed?])
  | shut inActs _ => exact absurd inActs hnot
  | breaks _ _ inActs _ => exact absurd inActs hnot
  | readsOne _ _ _ _ _ _ phase_eq => cases hphase phase_eq
  | takesOne _ _ _ _ _ _ _ phase_eq => cases hphase phase_eq
  | writes _ _ _ _ _ phase_eq => cases hphase phase_eq
  | awaits _ phase_eq => cases hphase phase_eq
  | readsThree _ _ _ _ _ _ phase_eq => cases hphase phase_eq
  | takesThree _ _ _ _ _ _ _ phase_eq => cases hphase phase_eq
  | holds _ phase_eq => cases hphase phase_eq
  | delivers _ phase_eq => cases hphase phase_eq
  | drops _ _ phase_eq => cases hphase phase_eq

/-- A step of the acts. -/
theorem Unsettled.stage_act (unsettled : l.Unsettled id task)
    (inActs : task.phase.inActs = true) (stepped : TaskStepped S l id task (l.sight task) l') :
    Stage id l' ([.begins] ++ doneIn id l l') := by
  have hphase : ∀ {phase : Phase}, task.phase = phase → phase.inActs = true :=
    fun h => h ▸ inActs
  generalize hsight : l.sight task = sight at stepped
  cases stepped with
  | shut _ fired => exact unsettled.stage_failActs rfl rfl fun _ => fired
  | breaks failure wires _ _ =>
    refine unsettled.stage_failActs rfl rfl ?_
    rintro rfl
    cases isFault_of_sight hsight
  | readsOne => exact unsettled.stage_setPhase [] rfl rfl rfl rfl
  | takesOne machine got bytes timer wire inward act _ _ _ _ _ =>
    rcases takeActOne_cases (l.withWire task.stream { wire with inward }) id task machine act with
      ⟨e, m, _, htake⟩ | ⟨m₁, _, ⟨e, m₂, _, htake⟩ | ⟨two, m₂, _, htake⟩⟩
    · rw [htake]
      exact unsettled.stage_failActs rfl rfl Failure.noConfusion
    · rw [htake]
      exact unsettled.stage_failActs rfl rfl Failure.noConfusion
    · rw [htake]
      exact unsettled.stage_setPhase [] rfl rfl rfl rfl
  | writes machine left rest wire outward _ _ _ _ =>
    refine unsettled.stage_setPhase [] rfl rfl ?_ rfl
    split <;> rfl
  | awaits machine _ _ =>
    exact unsettled.stage_setPhase [.entered id .awaitActThree] rfl rfl rfl rfl
  | readsThree => exact unsettled.stage_setPhase [] rfl rfl rfl rfl
  | takesThree machine got bytes timer wire inward act _ _ _ _ _ =>
    rcases takeActThree_cases (l.withWire task.stream { wire with inward }) id task machine act with
      ⟨e, m, _, htake⟩ | ⟨m, _, ⟨_, htake⟩ | ⟨remote, _, htake⟩⟩
    · rw [htake]
      exact unsettled.stage_failActs rfl rfl Failure.noConfusion
    · rw [htake]
      exact unsettled.stage_failActs rfl rfl Failure.noConfusion
    · rw [htake]
      exact unsettled.stage_succeedActs rfl rfl
  | aborts phase_eq => cases hphase phase_eq
  | begins phase_eq => cases hphase phase_eq
  | holds _ phase_eq => cases hphase phase_eq
  | delivers _ phase_eq => cases hphase phase_eq
  | drops _ _ phase_eq => cases hphase phase_eq

/-- A producer that is told something is told it for good. -/
theorem told_of_polled {delivered : Bool} {handoff : Handoff Outcome}
    (polled : l.handoff.pollProducer id = (.ready delivered, handoff)) :
    .told id delivered ∈ handoff.history := by
  have spec := l.handoff.pollProducer_spec id
  rw [polled] at spec
  cases spec with
  | shut | closed | delivers => exact List.mem_cons_self

/-- The outcome is handed over, or it turns out that nobody will take it. -/
theorem stage_report {sight : Sight} {outcome : Outcome} (known : l.handoff.Known)
    (taken : l.Taken id) (held : l.tasks.find? id = some task) (reporting : task.phase = .reporting)
    (noted : .taken id task.stream ∈ l.log) (submitted : l.handoff.submittedBy id = [outcome])
    (submits : Submits task.stream outcome ds) (stepped : TaskStepped S l id task sight l') :
    Stage id l' (ds ++ doneIn id l l') := by
  have hphase : ∀ {phase : Phase}, task.phase = phase → phase = .reporting :=
    fun h => h.symm.trans reporting
  have hnot : task.phase.inActs ≠ true := by
    rw [reporting]
    decide
  cases stepped with
  | holds handoff _ polled =>
    have hdone : doneIn id l { l with handoff } = [] := doneIn_eq [] rfl
    have apart : Apart id l { l with handoff } := apart_of_polled polled
    rw [hdone, List.append_nil]
    exact .reporting task outcome (apart.taken.2 taken) held reporting noted
      (apart.submitted.trans submitted) submits
  | delivers handoff _ polled =>
    have hdone : doneIn id l ({ l with handoff }.endTask id) = [.returns] := by
      rw [doneIn_eq [.tokenReturned id] rfl]
      simp [Happening.deed?]
    rw [hdone]
    refine .ended task.stream taken (find?_endTask _ id) (List.mem_cons_of_mem _ noted) ?_
    cases submits with
    | failure failure other => exact .inl (.rejected failure other)
    | connection connection own => exact .inr ⟨told_of_polled polled, connection, own, rfl⟩
  | drops outcome' handoff _ found polled =>
    -- what is dropped is what was submitted
    obtain rfl : outcome' = outcome := by
      have hmem := known.held id outcome' (Roster.mem_of_find? found)
      rw [submitted] at hmem
      exact List.mem_singleton.1 hmem
    have dropped : Apart id l ({ l with handoff }.dropOutcome outcome') :=
      (apart_of_polled polled).trans (apart_of_core (core_dropOutcome _ _))
    refine .ended task.stream ((dropped.taken).2 taken) (find?_endTask _ id)
      (List.mem_cons_of_mem _ (dropped.noted _ noted)) (.inl ?_)
    cases submits with
    | failure failure other =>
      have hdone : doneIn id l (({ l with handoff }.dropOutcome (.error failure)).endTask id) =
          [.returns] := by
        rw [doneIn_eq [.tokenReturned id] rfl]
        simp [Happening.deed?]
      rw [hdone]
      exact .rejected failure other
    | connection connection own =>
      have hdone : doneIn id l (({ l with handoff }.dropOutcome (.ok connection)).endTask id) =
          [.closes task.stream, .returns] := by
        rw [doneIn_eq [.tokenReturned id, .streamClosed connection.stream]
          (congrArg _ (closeStream_log { l with handoff } connection.stream)), own]
        simp [Happening.deed?]
      rw [hdone]
      refine .refused connection own ?_
      have same : ({ l with handoff }.dropOutcome (.ok connection)).handoff = handoff :=
        congrArg Core.handoff (core_dropOutcome { l with handoff } (.ok connection))
      show .told id false ∈ ({ l with handoff }.dropOutcome (.ok connection)).handoff.history
      rw [same]
      exact told_of_polled polled
  | shut inActs _ => exact absurd inActs hnot
  | breaks _ _ inActs _ => exact absurd inActs hnot
  | aborts phase_eq => cases hphase phase_eq
  | begins phase_eq => cases hphase phase_eq
  | readsOne _ _ _ _ _ _ phase_eq => cases hphase phase_eq
  | takesOne _ _ _ _ _ _ _ phase_eq => cases hphase phase_eq
  | writes _ _ _ _ _ phase_eq => cases hphase phase_eq
  | awaits _ phase_eq => cases hphase phase_eq
  | readsThree _ _ _ _ _ _ phase_eq => cases hphase phase_eq
  | takesThree _ _ _ _ _ _ _ phase_eq => cases hphase phase_eq

/-- What a handshake's own step makes of it. -/
theorem Stage.stepTask (stage : Stage id l ds) (known : l.handoff.Known)
    (held : l.tasks.find? id = some task)
    (stepped : TaskStepped S l id task (l.sight task) l') : Stage id l' (ds ++ doneIn id l l') := by
  have present : l.tasks.find? id ≠ none := by
    rw [held]
    exact Option.some_ne_none task
  cases stage with
  | spawned task' unsettled spawned =>
    obtain rfl : task' = task := Option.some.inj (unsettled.held.symm.trans held)
    exact unsettled.stage_begin spawned stepped
  | acting task' unsettled inActs =>
    obtain rfl : task' = task := Option.some.inj (unsettled.held.symm.trans held)
    exact unsettled.stage_act inActs stepped
  | reporting task' outcome taken held' phase_eq noted submitted submits =>
    obtain rfl : task' = task := Option.some.inj (held'.symm.trans held)
    exact stage_report known taken held phase_eq noted submitted submits stepped
  | untaken _ absent => exact absurd absent present
  | unbegun _ _ absent => exact absurd absent present
  | ended _ _ absent _ _ => exact absurd absent present

/-! ## Along a run -/

/-- What has happened in the handoff stays on record. -/
theorem history_apply (S : Suite) (l : Listener) (e : Event) :
    l.handoff.history <:+ (l.apply S e).handoff.history := by
  rcases (frontMove_apply S l e).step with same | ⟨st, step⟩
  · have hsame : (l.apply S e).handoff = l.handoff := same
    rw [hsame]
  · have hstep : (l.apply S e).handoff = l.handoff.step st := step
    rw [hstep]
    exact Handoff.suffix_step l.handoff st

/-- A connection that has not been taken is not taken by a step of the accept loop, or its handshake
    has done nothing yet. -/
theorem stage_stepLoop {t : Transcript} (told : Told S id l t) (notTaken : ¬ l.Taken id)
    (stepped : LoopStepped l l') (history : l.handoff.history <:+ l'.handoff.history) :
    Stage id l' [] := by
  obtain ⟨_, absent, failures⟩ := told.of_not_taken notTaken
  rcases apart_stepLoop_or id stepped with apart | ⟨error, socket, rfl⟩ | ⟨arrival, socket, rfl⟩
  · exact (Stage.untaken notTaken absent).apart apart history
  · obtain ⟨pause, l₁, hcore, heq⟩ := reportRefusal_eq { l with socket } error
    have apart : Apart id l l₁ := apart_of_core hcore
    rw [heq]
    exact .untaken (fun h => notTaken (apart.taken.1 h)) (apart.held.trans absent)
  · have hfind : ∀ k, k ≠ l.connections + 1 →
        (l.tasks.enter (l.connections + 1) ⟨arrival.stream, arrival.peer, .spawned⟩).find? k =
          l.tasks.find? k := fun k hk => Roster.find?_enter_of_ne l.tasks hk _
    by_cases hid : id = l.connections + 1
    · subst hid
      have silent : l.handoff.submittedBy (l.connections + 1) = [] := by
        rw [List.eq_nil_iff_forall_not_mem]
        exact fun o ho => absurd (failures o ho).1 (by omega)
      have held := Roster.find?_enter l.tasks (l.connections + 1) (l.connections + 1)
        (⟨arrival.stream, arrival.peer, .spawned⟩ : HandshakeTask) absent
      rw [if_pos rfl] at held
      exact .spawned ⟨arrival.stream, arrival.peer, .spawned⟩
        ⟨⟨by omega, Nat.le_refl _⟩, held, List.mem_cons_self, silent⟩ rfl
    · refine .untaken ?_ ((hfind id hid).trans absent)
      intro taken
      have htaken : 1 ≤ id ∧ id ≤ l.connections + 1 := taken
      exact notTaken ⟨htaken.1, by omega⟩

/-- What an event makes of a handshake, whoever's it is. -/
theorem Stage.apply (stage : Stage id l ds) (known : l.handoff.Known)
    (told : ∃ t, Told S id l t) (e : Event) : Stage id (l.apply S e) (ds ++ l.did S id e) := by
  have history := history_apply S l e
  by_cases own : e = .step (.task id)
  · subst own
    have hdid : l.did S id (.step (.task id)) = doneIn id l (l.apply S (.step (.task id))) :=
      if_pos rfl
    rw [hdid]
    rcases apply_step S l (.task id) with ⟨_, same⟩ | ⟨l', happly, taken⟩
    · have hnone : doneIn id l l = [] := doneIn_eq [] rfl
      rw [same, hnone, List.append_nil]
      exact stage
    · rw [happly]
      cases taken with
      | task task held step => exact stage.stepTask known held (stepTask_spec held step)
  · have hdid : l.did S id e = [] := by
      cases e with
      | step party =>
        cases party with
        | task k => exact if_neg fun h : k = id => own (h ▸ rfl)
        | _ => rfl
      | _ => rfl
    rw [hdid, List.append_nil]
    by_cases loop : e = .step .loop
    · subst loop
      by_cases taken : l.Taken id
      · exact stage.apart (apart_apply S taken own) history
      · -- a connection that has not been taken has done nothing
        have hds : ds = [] := by
          cases stage with
          | untaken => rfl
          | spawned _ unsettled => exact absurd unsettled.taken taken
          | acting _ unsettled => exact absurd unsettled.taken taken
          | reporting _ _ taken' => exact absurd taken' taken
          | unbegun _ taken' => exact absurd taken' taken
          | ended _ taken' => exact absurd taken' taken
        subst hds
        obtain ⟨t, told⟩ := told
        rcases apply_step S l .loop with ⟨_, same⟩ | ⟨l', happly, ⟨step⟩⟩
        · rw [same]
          exact stage
        · rw [happly] at history ⊢
          exact stage_stepLoop told taken (stepLoop_spec step) history
    · exact stage.apart (apart_of_others S l loop own) history

theorem Stage.run (stage : Stage id l ds) (sourced : l.front.Sourced)
    (told : ∀ id, ∃ t, Told S id l t) (events : List Event) :
    Stage id (l.run S events) (ds ++ deeds S id l events) := by
  induction events generalizing l ds with
  | nil =>
    rw [deeds, List.append_nil]
    exact stage
  | cons e events ih =>
    obtain ⟨ts, htold⟩ := Classical.skolem.1 told
    rw [deeds, ← List.append_assoc]
    exact ih (stage.apply sourced.known (told id) e) ((frontMove_apply S l e).sourced sourced)
      fun id => ⟨_, told_apply htold e id⟩

/-- How far the handshakes of a listener have come, whatever has happened since it was opened. -/
theorem stage_opened (S : Suite) {identity : Identity} {capacity timeout : Nat}
    {address : Except SystemError SocketAddress} {l₀ : Listener}
    (opened : ofRaw identity capacity timeout address = .ok l₀) (events : List Event) (id : Nat) :
    Stage id (l₀.run S events) (deeds S id l₀ events) := by
  have told : ∀ id, Told S id l₀ {} := told_opened opened
  have notTaken : ¬ l₀.Taken id := by
    have hconnections : l₀.connections = 0 := congrArg Front.connections (front_opened opened)
    rw [Taken, hconnections]
    omega
  have start : Stage id l₀ [] := .untaken notTaken ((told id).of_not_taken notTaken).2.1
  exact start.run (sourced_opened opened) (fun id => ⟨{}, told id⟩) events

/-- What a handshake does in an event is on record. -/
theorem mem_doneIn_of_did {e : Event} {deed : Deed} (done : deed ∈ l.did S id e) :
    deed ∈ doneIn id l (l.apply S e) := by
  cases e with
  | step party =>
    cases party with
    | task k =>
      rw [did] at done
      split at done
      · exact done
      · cases done
    | _ => cases done
  | _ => cases done

theorem eq_of_closes {h : Happening} (deed : h.deed? id = some (.closes stream)) :
    h = .streamClosed stream := by
  unfold Happening.deed? at deed
  split at deed
  · split at deed <;> cases deed
  · cases deed
    rfl
  · split at deed <;> cases deed
  · split at deed <;> cases deed
  · cases deed

theorem closes_of_doneIn (log : l.log <:+ l'.log) (done : .closes stream ∈ doneIn id l l') :
    Closes l l' stream := by
  obtain ⟨news, hlog⟩ := log
  rw [doneIn_eq news hlog.symm, List.mem_filterMap] at done
  obtain ⟨h, hmem, deed⟩ := done
  exact ⟨news, hlog.symm, eq_of_closes deed ▸ List.mem_reverse.1 hmem⟩

/-- What a handshake says that it closes, it closes. -/
theorem shut_of_closes {events : List Event} (closes : .closes stream ∈ deeds S id l events)
    (there : (l.wires.find? stream).isSome = true) : (l.run S events).Shut stream := by
  induction events generalizing l with
  | nil => cases closes
  | cons e events ih =>
    have wired := wired_apply S l e
    rcases List.mem_append.1 closes with now | later
    · have closes : Closes l (l.apply S e) stream :=
        closes_of_doneIn wired.log (mem_doneIn_of_did now)
      exact shut_run S ((wired.hangsUp closes).shut there) events
    · exact ih later (wired.present there)

/-- What a handshake has done that is under way: it is at the acts, or its outcome waits to be handed
    over. -/
inductive UnderWay (stream : Nat) : List Deed → Prop
  | acting : UnderWay stream [.begins]
  | submitted {outcome : Outcome} {ds : List Deed} (submits : Submits stream outcome ds) :
    UnderWay stream ds

/-- **The stream is closed before the token comes back.**  Whatever the peers do and whenever the
    shutdown is fired: a handshake that has begun on the acts, and has ended without handing its
    connection over, has closed the connection's stream before it gave its token back, and the token
    came last.  A failure was submitted in between; a connection that nobody would take was
    submitted first, since it is what the outcome is made of, and closed when it was refused.  As
    long as the handshake is there it has not given its token back.  So if the stream was there
    before the handshake's first step, it is closed by the time that the token is back. -/
theorem closed_before_token (S : Suite) {identity : Identity} {capacity timeout : Nat}
    {address : Except SystemError SocketAddress} {l₀ : Listener}
    (opened : ofRaw identity capacity timeout address = .ok l₀) (events : List Event) (id : Nat)
    (begun : .begins ∈ deeds S id l₀ events) :
    ∃ stream, .taken id stream ∈ (l₀.run S events).log ∧
      (id ∈ (l₀.run S events).tasks.ids ∧ UnderWay stream (deeds S id l₀ events) ∨
        id ∉ (l₀.run S events).tasks.ids ∧
          (HandedOver (l₀.run S events) id stream (deeds S id l₀ events) ∨
            Undelivered (l₀.run S events) id stream (deeds S id l₀ events) ∧
              ∀ before later, events = before ++ later → deeds S id l₀ before = [] →
                ((l₀.run S before).wires.find? stream).isSome = true →
                  (l₀.run S events).Shut stream)) := by
  have stage := stage_opened S opened events id
  generalize hds : deeds S id l₀ events = ds at begun stage ⊢
  have mem : ∀ task, (l₀.run S events).tasks.find? id = some task →
      id ∈ (l₀.run S events).tasks.ids := fun task => Roster.mem_ids_of_find?
  cases stage with
  | untaken | spawned => cases begun
  | unbegun stream _ _ => simp at begun
  | acting task unsettled inActs =>
    exact ⟨task.stream, unsettled.noted, .inl ⟨mem task unsettled.held, .acting⟩⟩
  | reporting task outcome taken held phase_eq noted submitted submits =>
    exact ⟨task.stream, noted, .inl ⟨mem task held, .submitted submits⟩⟩
  | ended stream taken absent noted ways =>
    refine ⟨stream, noted, .inr ⟨Roster.find?_eq_none_iff.1 absent, ?_⟩⟩
    rcases ways with undelivered | handedOver
    · refine .inr ⟨undelivered, ?_⟩
      rintro before later rfl untouched there
      have closes : .closes stream ∈ deeds S id (l₀.run S before) later := by
        have hmem := undelivered.closes
        rw [← hds, deeds_append, untouched] at hmem
        exact hmem
      have hrun : l₀.run S (before ++ later) = (l₀.run S before).run S later :=
        List.foldl_append
      rw [hrun]
      exact shut_of_closes closes there
    · exact .inl handedOver

/-- A peer that hangs up before it has sent a byte, and a shutdown that comes before anybody has
    asked for the outcome. -/
theorem closed_before_token_sample :
    ∃ l₀, ofRaw ⟨Octets.replicate 32 2⟩ 1 1000 (.ok ⟨.v4 ⟨127, 0, 0, 1⟩, 9735, 0⟩) = .ok l₀ ∧
      let events : List Event :=
        [.newStream 0, .arrive (.ok ⟨0, .v4 ⟨127, 0, 0, 1⟩, 40000, 0⟩), .step .loop, .step .loop,
          .step (.task 1), .wire 0 .hangUp, .step (.task 1), .trigger, .step (.task 1)]
      .begins ∈ deeds .standard 1 l₀ events ∧
      Undelivered (l₀.run .standard events) 1 0 (deeds .standard 1 l₀ events) ∧
      (l₀.run .standard events).Shut 0 := by
  have opened : ofRaw ⟨Octets.replicate 32 2⟩ 1 1000 (.ok ⟨.v4 ⟨127, 0, 0, 1⟩, 9735, 0⟩) =
      .ok _ := rfl
  refine ⟨_, opened, ?_⟩
  intro events
  refine ⟨List.mem_cons_self, ?_⟩
  obtain ⟨stream, _, ⟨there, _⟩ | ⟨_, handedOver | ⟨undelivered, shut⟩⟩⟩ :=
    closed_before_token .standard opened events 1 List.mem_cons_self
  · cases there
  · obtain ⟨_, _, heq⟩ := handedOver.deeds
    cases heq
  · have hstream : .closes stream ∈ [Deed.begins, .closes 0, .submits (.error (.shortRead .one)),
        .returns] := undelivered.closes
    obtain rfl : stream = 0 := by simpa using hstream
    exact ⟨undelivered, shut [.newStream 0] _ rfl rfl rfl⟩

/-- Of all that a handshake can have done, only one that has ended with its connection refused has
    its deeds in these places. -/
theorem Stage.refused_of_places (stage : Stage id l ds) (places : ds.map Deed.place = [0, 1, 0, 2]) :
    id ∉ l.tasks.ids ∧ ∃ connection, ds =
      [.begins, .submits (.ok connection), .closes connection.stream, .returns] := by
  cases stage with
  | untaken | spawned | acting | unbegun => cases places
  | reporting task outcome taken held phase_eq noted submitted submits =>
    cases submits <;> cases places
  | ended stream taken absent noted ways =>
    rcases ways with undelivered | ⟨_, connection, _, rfl⟩
    · cases undelivered with
      | cutShort | rejected => cases places
      | refused connection own told =>
        exact ⟨Roster.find?_eq_none_iff.1 absent, connection, by rw [own]⟩
    · cases places

/-- The stream is not always closed first.  A handshake that finds the shutdown at its first step
    gives its token back before it lets go of the stream, and a connection that is secured is
    submitted before it is closed, since it is what the outcome is made of.  The latter alone tells
    against the order. -/
theorem not_always_closed_first :
    ∃ l₀, ofRaw ⟨Octets.replicate 32 2⟩ 1 1000 (.ok ⟨.v4 ⟨127, 0, 0, 1⟩, 9735, 0⟩) = .ok l₀ ∧
      let one : Bytes :=
        [0, 93, 254, 221, 59, 107, 212, 127, 111, 162, 142, 225, 93, 150, 157, 91, 176, 234, 83,
          119, 77, 72, 139, 218, 249, 223, 28, 110, 1, 36, 179, 239, 34, 147, 23, 8, 184, 214, 47,
          201, 214, 209, 221, 84, 83, 85, 30, 239, 32]
      let three : Bytes :=
        [0, 123, 127, 163, 133, 124, 94, 136, 91, 226, 99, 180, 128, 252, 44, 123, 122, 60, 137,
          201, 21, 28, 102, 153, 252, 154, 220, 138, 83, 146, 188, 115, 110, 155, 126, 13, 141,
          242, 59, 152, 184, 225, 195, 230, 239, 93, 50, 195, 147, 239, 191, 243, 170, 169, 137,
          69, 167, 72, 69, 98, 12, 168, 204, 166, 130]
      let taken : List Event :=
        [.newStream 0, .arrive (.ok ⟨0, .v4 ⟨127, 0, 0, 1⟩, 40000, 0⟩), .step .loop, .step .loop]
      let early : List Event := taken ++ [.trigger, .step (.task 1)]
      let refused : List Event := taken ++
        [.chance ⟨List.replicate 32 4, []⟩, .step (.task 1), .wire 0 (.send one), .step (.task 1),
          .step (.task 1), .step (.task 1), .wire 0 (.send three), .step (.task 1),
          .step (.task 1), .trigger, .step (.task 1)]
      deeds .standard 1 l₀ early = [.returns, .closes 0] ∧
      (∃ connection, deeds .standard 1 l₀ refused =
        [.begins, .submits (.ok connection), .closes connection.stream, .returns]) ∧
      ¬ ∀ events id, id ∉ (l₀.run .standard events).tasks.ids →
        (∀ stream, ¬ HandedOver (l₀.run .standard events) id stream
          (deeds .standard id l₀ events)) →
        (deeds .standard id l₀ events).Pairwise fun d d' => d.place ≤ d'.place := by
  let l₀ : Listener :=
    { settings := ⟨⟨Octets.replicate 32 2⟩, 1, 1000, ⟨.v4 ⟨127, 0, 0, 1⟩, 9735, 0⟩⟩
      pool := { available := 1 }
      socket := ⟨some []⟩ }
  have opened : ofRaw ⟨Octets.replicate 32 2⟩ 1 1000 (.ok ⟨.v4 ⟨127, 0, 0, 1⟩, 9735, 0⟩) =
      .ok l₀ := rfl
  refine ⟨l₀, opened, ?_⟩
  intro one three taken early refused
  have places : (deeds .standard 1 l₀ refused).map Deed.place = [0, 1, 0, 2] := by
    simp only [refused, taken, one, three]
    decide +kernel
  obtain ⟨ended, connection, hdeeds⟩ :=
    (stage_opened .standard opened refused 1).refused_of_places places
  refine ⟨rfl, ⟨connection, hdeeds⟩, fun always => ?_⟩
  have ordered := always refused 1 ended fun stream handedOver => by
    obtain ⟨other, _, heq⟩ := handedOver.deeds
    cases hdeeds.symm.trans heq
  -- the outcome comes before the stream
  rw [hdeeds, List.pairwise_cons, List.pairwise_cons] at ordered
  exact absurd (ordered.2.1 _ List.mem_cons_self) (Nat.not_succ_le_self 0)

end Listener

end Gatehouse
