import Gatehouse.Proofs.Listener.Apart
import Gatehouse.Proofs.Listener.Verdict

/-!
# One outcome for every connection

Whatever the peers do and whenever the shutdown comes, the handshake of a connection submits at most
one outcome, and that is the verdict on what it has met with (`one_outcome`).

What is known of a connection is one of three things (`Told`): it has not been taken; its acts are
under way, and it holds what the straight reading has come to; or its acts are over.  The proof
follows one connection: its own steps take it along (`told_stepTask`), and whatever else happens is
nothing to it (`Apart`).
-/

namespace Gatehouse.Listener

variable {S : Suite} {l l' : Listener} {id : Nat} {t : Transcript}

/-! ## What a connection has met with along a run -/

/-- What a connection has met with after an event: something new only at its own turns. -/
def heard (l : Listener) (id : Nat) (t : Transcript) : Event → Transcript
  | .step (.task k) =>
    if k = id then
      match l.tasks.find? id with
      | none => t
      | some task => t.see l.chance.takeSecret.1 (l.sight task)
    else t
  | _ => t

/-- Only its own steps show a handshake anything. -/
theorem heard_of_other (l : Listener) (t : Transcript) {e : Event} (other : e ≠ .step (.task id)) :
    l.heard id t e = t := by
  cases e with
  | step party =>
    cases party with
    | task k => exact if_neg fun h : k = id => other (h ▸ rfl)
    | _ => rfl
  | _ => rfl

/-- The turn of a handshake: it meets with what it sees and takes its step, or it has no step to take
    and meets with nothing. -/
theorem apply_own (S : Suite) (l : Listener) (id : Nat) (t : Transcript) :
    l.stepTask S id = none ∧ l.apply S (.step (.task id)) = l ∧
        l.heard id t (.step (.task id)) = t ∨
      ∃ task l', l.tasks.find? id = some task ∧ l.stepTask S id = some l' ∧
        l.apply S (.step (.task id)) = l' ∧
        l.heard id t (.step (.task id)) = t.see l.chance.takeSecret.1 (l.sight task) := by
  have own : l.heard id t (.step (.task id)) = match l.tasks.find? id with
      | none => t
      | some task => t.see l.chance.takeSecret.1 (l.sight task) := if_pos rfl
  rcases apply_step S l (.task id) with ⟨hstep, same⟩ | ⟨l', happly, taken⟩
  · refine .inl ⟨hstep, same, own.trans ?_⟩
    cases held : l.tasks.find? id with
    | none => rfl
    | some task => exact congrArg (t.see _) (sight_of_stepTask_eq_none held hstep)
  · cases taken with
    | task task held step =>
      rw [held] at own
      exact .inr ⟨task, l', held, step, happly, own⟩

/-- The step goes one of the ways. -/
theorem apply_task (S : Suite) (l : Listener) (id : Nat) (t : Transcript) :
    l.apply S (.step (.task id)) = l ∧ l.heard id t (.step (.task id)) = t ∨
      ∃ task l', l.tasks.find? id = some task ∧ l.apply S (.step (.task id)) = l' ∧
        l.heard id t (.step (.task id)) = t.see l.chance.takeSecret.1 (l.sight task) ∧
        TaskStepped S l id task (l.sight task) l' := by
  rcases apply_own S l id t with ⟨_, same, unheard⟩ | ⟨task, l', held, step, happly, heard⟩
  · exact .inl ⟨same, unheard⟩
  · exact .inr ⟨task, l', held, happly, heard, stepTask_spec held step⟩

/-- What a connection has met with after a list of events. -/
def transcript (S : Suite) (id : Nat) : Listener → List Event → Transcript → Transcript
  | _, [], t => t
  | l, e :: events, t => transcript S id (l.apply S e) events (l.heard id t e)

theorem transcript_append (S : Suite) (id : Nat) (l : Listener) (events more : List Event)
    (t : Transcript) :
    transcript S id l (events ++ more) t =
      transcript S id (l.run S events) more (transcript S id l events t) := by
  induction events generalizing l t with
  | nil => rfl
  | cons e events ih => exact ih (l.apply S e) (l.heard id t e)

/-! ## What is known of a connection -/

/-- The handshake of a connection is there, and has not submitted anything. -/
structure Unsettled (l : Listener) (id : Nat) (task : HandshakeTask) : Prop where
  taken : l.Taken id
  held : l.tasks.find? id = some task
  noted : .taken id task.stream ∈ l.log
  silent : l.handoff.submittedBy id = []

/-- What is known of a connection. -/
inductive Told (S : Suite) (id : Nat) (l : Listener) (t : Transcript) : Prop
  /-- It has not been taken.  Failures to take one come under the number zero. -/
  | untaken (notTaken : ¬ l.Taken id) (fresh : t = {}) (absent : l.tasks.find? id = none)
      (failures : ∀ o ∈ l.handoff.submittedBy id, id = 0 ∧ ∃ e, o = .error (.accept e))
  /-- Its acts are under way. -/
  | inActs (task : HandshakeTask) (unsettled : l.Unsettled id task)
      (sofar : Sofar S l.settings.identity t task.phase)
  /-- Its acts are over. -/
  | settled (course : Course) (stream : Nat) (peer : SocketAddress) (taken : l.Taken id)
      (judged : verdict S l.settings.identity t = course) (done : course ≠ .going)
      (rest : ∀ task, l.tasks.find? id = some task → task.phase = .reporting)
      (noted : .taken id stream ∈ l.log)
      (submitted : l.handoff.submittedBy id = (course.outcome? id stream peer).toList)
      (shut : course = .failed .closed → l.fired = true)

theorem Unsettled.apart {task : HandshakeTask} (unsettled : l.Unsettled id task)
    (apart : Apart id l l') : l'.Unsettled id task where
  taken := apart.taken.2 unsettled.taken
  held := apart.held.trans unsettled.held
  noted := apart.noted _ unsettled.noted
  silent := apart.submitted.trans unsettled.silent

/-- A connection that nothing has happened to is where it was. -/
theorem Told.apart (told : Told S id l t) (apart : Apart id l l') : Told S id l' t := by
  cases told with
  | untaken notTaken fresh absent failures =>
    refine .untaken (fun h => notTaken (apart.taken.1 h)) fresh (apart.held.trans absent) ?_
    rw [apart.submitted]
    exact failures
  | inActs task unsettled sofar =>
    exact .inActs task (unsettled.apart apart) (apart.settings ▸ sofar)
  | settled course stream peer taken judged done rest noted submitted shut =>
    refine .settled course stream peer (apart.taken.2 taken) (apart.settings ▸ judged) done ?_
      (apart.noted _ noted) (apart.submitted.trans submitted) (fun h => apart.fired (shut h))
    rw [apart.held]
    exact rest

/-! ## The connection's own steps -/

section Own

variable {task : HandshakeTask}

/-- The acts go on, maybe with another wire, another timer or a random choice less. -/
theorem Unsettled.setPhase {phase : Phase} (unsettled : l.Unsettled id task)
    (same : l'.core = l.core) (sofar : Sofar S l.settings.identity t phase) :
    Told S id (l'.setPhase id task phase) t := by
  have apart : Apart id l l' := apart_of_core same
  have unsettled' : l'.Unsettled id task := unsettled.apart apart
  have held := find?_setPhase unsettled'.held phase
  have sofar' : Sofar S l'.settings.identity t phase := apart.settings ▸ sofar
  exact .inActs { task with phase }
    ⟨unsettled'.taken, held, unsettled'.noted, unsettled'.silent⟩ sofar'

theorem submittedBy_submitOutcome (silent : l.handoff.submittedBy id = []) (task : HandshakeTask)
    (outcome : Outcome) :
    (l.submitOutcome id task outcome).handoff.submittedBy id = [outcome] := by
  show (l.handoff.submit id outcome).submittedBy id = [outcome]
  rw [Handoff.submittedBy_submit, if_pos rfl, silent]

theorem Unsettled.submitOutcome (unsettled : l.Unsettled id task) {course : Course}
    {outcome : Outcome} (judged : verdict S l.settings.identity t = course)
    (houtcome : course.outcome? id task.stream task.peer = some outcome) :
    Told S id (l.submitOutcome id task outcome) t := by
  have done : course ≠ .going := by
    rintro rfl
    cases houtcome
  have rest : ∀ other, (l.submitOutcome id task outcome).tasks.find? id = some other →
      other.phase = .reporting := by
    intro other hother
    cases hother.symm.trans (find?_setPhase unsettled.held .reporting)
    rfl
  refine .settled course task.stream task.peer unsettled.taken judged done rest
    (List.mem_cons_of_mem _ unsettled.noted) ?_ ?_
  · rw [houtcome]
    exact submittedBy_submitOutcome unsettled.silent task outcome
  · rintro rfl
    cases houtcome

theorem Unsettled.endTask (unsettled : l.Unsettled id task)
    (judged : verdict S l.settings.identity t = .failed .closed) (fired : l.fired = true) :
    Told S id (l.endTask id) t := by
  refine .settled (.failed .closed) task.stream task.peer unsettled.taken judged
    Course.noConfusion ?_ (List.mem_cons_of_mem _ unsettled.noted) unsettled.silent (fun _ => fired)
  intro other hother
  cases (find?_endTask l id).symm.trans hother

/-- Acts that fail are over.  Only the shutdown keeps them from an outcome. -/
theorem Unsettled.failActs {failure : Failure} (unsettled : l.Unsettled id task)
    (same : l'.core = l.core) (judged : verdict S l.settings.identity t = .failed failure)
    (shut : failure = .closed → l.fired = true) :
    Told S id (l'.failActs id task failure) t := by
  have apart : Apart id l (l'.rejectActs id task failure) :=
    apart_of_core ((core_rejectActs l' id task failure).trans same)
  have unsettled' := unsettled.apart apart
  have judged' := apart.settings.symm ▸ judged
  rcases failActs_cases l' id task failure with ⟨rfl, heq⟩ | ⟨hne, heq⟩
  · rw [heq]
    exact unsettled'.endTask judged' (apart.fired (shut rfl))
  · rw [heq]
    exact unsettled'.submitOutcome judged' (Course.outcome?_failed hne _ _ _)

theorem Unsettled.succeedActs {machine : Machine} {remote : PublicKey}
    (unsettled : l.Unsettled id task) (same : l'.core = l.core)
    (judged : verdict S l.settings.identity t = .secured machine remote) :
    Told S id (l'.succeedActs id task machine remote) t := by
  have apart : Apart id l (l'.secureActs id) :=
    apart_of_core ((core_secureActs l' id).trans same)
  have judged' : verdict S (l'.secureActs id).settings.identity t = .secured machine remote :=
    apart.settings ▸ judged
  rw [succeedActs_eq]
  exact (unsettled.apart apart).submitOutcome judged' rfl

/-- A handshake whose acts are over may end. -/
theorem Told.endTask (told : Told S id l t) (held : l.tasks.find? id = some task)
    (reporting : task.phase = .reporting) : Told S id (l.endTask id) t := by
  cases told with
  | untaken notTaken fresh absent failures =>
    rw [absent] at held
    cases held
  | inActs task' unsettled sofar =>
    obtain rfl : task' = task := Option.some.inj (unsettled.held.symm.trans held)
    rw [reporting] at sofar
    cases sofar
  | settled course stream peer taken judged done rest noted submitted shut =>
    refine .settled course stream peer taken judged done ?_ (List.mem_cons_of_mem _ noted)
      submitted shut
    intro other hother
    cases (find?_endTask l id).symm.trans hother

/-- Once the acts are over, all that is left to do is to hand the outcome over. -/
theorem Told.report {sight : Sight} (told : Told S id l t) (held : l.tasks.find? id = some task)
    (reporting : task.phase = .reporting) (stepped : TaskStepped S l id task sight l') :
    Told S id l' t := by
  have hnot : task.phase.inActs ≠ true := by
    rw [reporting]
    decide
  have hphase : ∀ {phase : Phase}, task.phase = phase → phase = .reporting :=
    fun h => h.symm.trans reporting
  cases stepped with
  | holds handoff _ polled => exact told.apart (apart_of_polled polled)
  | delivers handoff _ polled =>
    exact (told.apart (apart_of_polled polled)).endTask held reporting
  | drops outcome handoff _ _ polled =>
    have apart : Apart id l ({ l with handoff }.dropOutcome outcome) :=
      (apart_of_polled polled).trans (apart_of_core (core_dropOutcome _ _))
    exact (told.apart apart).endTask (apart.held.trans held) reporting
  | shut inActs _ => exact absurd inActs hnot
  | breaks _ _ inActs _ => exact absurd inActs hnot
  | aborts phase_eq => cases hphase phase_eq
  | begins phase_eq => cases hphase phase_eq
  | readsOne _ _ _ _ _ _ phase_eq => cases hphase phase_eq
  | takesOne _ _ _ _ _ _ _ phase_eq => cases hphase phase_eq
  | writes _ _ _ _ _ phase_eq => cases hphase phase_eq
  | awaits _ phase_eq => cases hphase phase_eq
  | readsThree _ _ _ _ _ _ phase_eq => cases hphase phase_eq
  | takesThree _ _ _ _ _ _ _ phase_eq => cases hphase phase_eq

/-- What a connection's own step makes of it. -/
theorem told_stepTask (told : Told S id l t) (held : l.tasks.find? id = some task)
    (stepped : TaskStepped S l id task (l.sight task) l') :
    Told S id l' (t.see l.chance.takeSecret.1 (l.sight task)) := by
  cases told with
  | untaken notTaken fresh absent failures =>
    rw [absent] at held
    cases held
  | settled course stream peer taken judged done rest noted submitted shut =>
    have reporting : task.phase = .reporting := rest task held
    have hnothing : t.see l.chance.takeSecret.1 (l.sight task) = t := by
      rw [sight, reporting]
      rfl
    rw [hnothing]
    exact (Told.settled course stream peer taken judged done rest noted submitted shut).report held
      reporting stepped
  | inActs task' unsettled sofar =>
    obtain rfl : task' = task := Option.some.inj (unsettled.held.symm.trans held)
    have hcut : ∀ failure, verdict S l.settings.identity { t with cut := some failure } =
        .failed failure := fun failure => sofar.verdict_cut (some failure)
    generalize hsight : l.sight task' = sight at stepped ⊢
    cases stepped with
    | aborts spawned fired =>
      have entered : ((l.enter id .init).enter id .rejected).Unsettled id task' :=
        unsettled.apart (apart_of_core rfl)
      exact (entered.endTask (hcut .closed) fired).apart (apart_of_core (core_closeStream _ _))
    | begins spawned going =>
      rw [spawned] at sofar
      exact unsettled.setPhase rfl (sofar.begin _)
    | shut inActs fired => exact unsettled.failActs rfl (hcut .closed) (fun _ => fired)
    | breaks failure wires inActs going =>
      have hne : failure ≠ .closed := by
        rintro rfl
        cases isFault_of_sight hsight
      exact unsettled.failActs rfl (hcut failure) (fun h => absurd h hne)
    | readsOne machine got bytes timer wire inward phase_eq going found read short =>
      rw [phase_eq] at sofar
      exact unsettled.setPhase rfl (sofar.readOn _ (Pipe.read_eq_bytes read).2 short)
    | takesOne machine got bytes timer wire inward act phase_eq going found read full =>
      rw [phase_eq] at sofar
      obtain ⟨rfl, hsee⟩ := sofar.complete l.chance.takeSecret.1 full
      rw [hsee]
      rcases takeActOne_cases (l.withWire task'.stream { wire with inward }) id task' _ act with
        ⟨e, m, refused, htake⟩ | ⟨m₁, accepted, ⟨e, m₂, failed, htake⟩ | ⟨two, m₂, sent, htake⟩⟩
      · rw [htake]
        exact unsettled.failActs rfl (verdict_refusedOne refused _) Failure.noConfusion
      · rw [htake]
        exact unsettled.failActs rfl (verdict_unanswered accepted failed) Failure.noConfusion
      · rw [htake]
        have answered : Answered S l.settings.identity act l.chance.takeSecret.1 two m₂ :=
          ⟨m₁, accepted, sent⟩
        exact unsettled.setPhase rfl answered.begin
    | writes machine left rest wire outward phase_eq going found written =>
      rw [phase_eq] at sofar
      obtain ⟨sent, hsplit, _⟩ := Pipe.write_eq_ok written
      have hsent : left.take (left.length - rest.length) = sent := by
        rw [hsplit, List.length_append, Nat.add_sub_cancel, List.take_left]
      rw [hsent]
      exact unsettled.setPhase rfl (sofar.writeOn _ hsplit)
    | awaits machine phase_eq going =>
      rw [phase_eq] at sofar
      exact unsettled.setPhase rfl (sofar.await _)
    | readsThree machine got bytes timer wire inward phase_eq going found read short =>
      rw [phase_eq] at sofar
      exact unsettled.setPhase rfl (sofar.readFurther _ (Pipe.read_eq_bytes read).2 short)
    | takesThree machine got bytes timer wire inward act phase_eq going found read full =>
      rw [phase_eq] at sofar
      have judged := sofar.conclude l.chance.takeSecret.1 full
      rcases takeActThree_cases (l.withWire task'.stream { wire with inward }) id task' machine act
        with ⟨e, m, refused, htake⟩ | ⟨m, accepted, ⟨hremote, htake⟩ | ⟨remote, hremote, htake⟩⟩
      · rw [htake]
        rw [refused] at judged
        exact unsettled.failActs rfl judged Failure.noConfusion
      · rw [htake]
        simp only [accepted, hremote] at judged
        exact unsettled.failActs rfl judged Failure.noConfusion
      · rw [htake]
        simp only [accepted, hremote] at judged
        exact unsettled.succeedActs rfl judged
    | holds handoff reporting polled =>
      rw [reporting] at sofar
      cases sofar
    | delivers handoff reporting polled =>
      rw [reporting] at sofar
      cases sofar
    | drops outcome handoff reporting found polled =>
      rw [reporting] at sofar
      cases sofar

end Own

/-! ## The accept loop -/

section Loop

variable {ts : Nat → Transcript}

/-- Of a connection that has not been taken there is nothing to be told. -/
theorem Told.of_not_taken (told : Told S id l t) (notTaken : ¬ l.Taken id) :
    t = {} ∧ l.tasks.find? id = none ∧
      ∀ o ∈ l.handoff.submittedBy id, id = 0 ∧ ∃ e, o = .error (.accept e) := by
  cases told with
  | untaken _ fresh absent failures => exact ⟨fresh, absent, failures⟩
  | inActs task unsettled _ => exact absurd unsettled.taken notTaken
  | settled _ _ _ taken => exact absurd taken notTaken

/-- A failure to take a connection is submitted under the number zero, which is no connection's. -/
theorem told_reportRefusal (told : Told S id l t) (error : SystemError) :
    Told S id (l.reportRefusal error) t := by
  obtain ⟨pause, l₁, hcore, heq⟩ := reportRefusal_eq l error
  have told₁ : Told S id l₁ t := told.apart (apart_of_core hcore)
  rw [heq]
  by_cases hid : id = 0
  · subst hid
    have notTaken : ¬ l₁.Taken 0 := fun h => absurd h.1 (by decide)
    obtain ⟨fresh, absent, failures⟩ := told₁.of_not_taken notTaken
    refine .untaken notTaken fresh absent ?_
    intro o ho
    have ho' : o ∈ (l₁.handoff.submit 0 (.error (.accept error))).submittedBy 0 := ho
    rw [Handoff.submittedBy_submit, if_pos rfl] at ho'
    rcases List.mem_cons.1 ho' with rfl | hold
    · exact ⟨rfl, error, rfl⟩
    · exact failures o hold
  · refine told₁.apart ⟨rfl, Iff.rfl, rfl, ?_, fun h => h, fun _ h => List.mem_cons_of_mem _ h⟩
    show (l₁.handoff.submit 0 (.error (.accept error))).submittedBy id = _
    rw [Handoff.submittedBy_submit, if_neg (Ne.symm hid)]

/-- A connection that is taken begins at the beginning. -/
theorem told_spawnTask (told : ∀ id, Told S id l (ts id)) (arrival : Arrival) (id : Nat) :
    Told S id (l.spawnTask arrival) (ts id) := by
  have notTaken : ¬ l.Taken (l.connections + 1) := fun h => absurd h.2 (by omega)
  obtain ⟨fresh, absent, failures⟩ := (told (l.connections + 1)).of_not_taken notTaken
  have hfind : ∀ k, (l.spawnTask arrival).tasks.find? k =
      if k = l.connections + 1 then some ⟨arrival.stream, arrival.peer, .spawned⟩
      else l.tasks.find? k := fun k => Roster.find?_enter _ _ k _ absent
  by_cases hid : id = l.connections + 1
  · subst hid
    have silent : l.handoff.submittedBy (l.connections + 1) = [] := by
      rw [List.eq_nil_iff_forall_not_mem]
      intro o ho
      exact absurd (failures o ho).1 (by omega)
    rw [fresh]
    refine .inActs ⟨arrival.stream, arrival.peer, .spawned⟩ ⟨?_, ?_, ?_, silent⟩ .spawned
    · exact ⟨by omega, Nat.le_refl _⟩
    · rw [hfind, if_pos rfl]
    · exact List.mem_cons_self
  · refine (told id).apart ⟨rfl, ?_, ?_, rfl, fun h => h, ?_⟩
    · show 1 ≤ id ∧ id ≤ l.connections + 1 ↔ 1 ≤ id ∧ id ≤ l.connections
      omega
    · rw [hfind, if_neg hid]
    · exact fun stream hmem => List.mem_cons_of_mem _ hmem

theorem told_stepLoop (told : ∀ id, Told S id l (ts id)) (stepped : LoopStepped l l') (id : Nat) :
    Told S id l' (ts id) := by
  cases stepped with
  | stops _ _ => exact (told id).apart apart_stopLoop
  | queues _ _ _ => exact (told id).apart (apart_of_quiet (.refl _) rfl rfl rfl List.suffix_rfl)
  | draws _ _ _ => exact (told id).apart (apart_of_quiet (.refl _) rfl rfl rfl List.suffix_rfl)
  | withdraws _ _ =>
    have apart : Apart id l { l with pool := l.pool.withdraw .loop } :=
      apart_of_quiet (.refl _) rfl rfl rfl List.suffix_rfl
    exact (told id).apart (apart.trans apart_stopLoop)
  | picksUp _ _ _ => exact (told id).apart (apart_of_quiet (.refl _) rfl rfl rfl List.suffix_rfl)
  | returns _ _ =>
    have apart : Apart id l l.releaseLoopToken :=
      apart_of_quiet (.refl _) rfl rfl rfl (List.suffix_cons _ _)
    exact (told id).apart (apart.trans apart_stopLoop)
  | refuses error socket _ _ _ =>
    have apart : Apart id l { l with socket } := apart_of_core rfl
    exact told_reportRefusal ((told id).apart apart) error
  | takes arrival socket _ _ _ =>
    have apart : ∀ k, Apart k l { l with socket } := fun k => apart_of_core rfl
    exact told_spawnTask (fun k => (told k).apart (apart k)) arrival id
  | holds pause handoff _ polled => exact (told id).apart (apart_of_polled polled)
  | pauses pause delivered handoff _ polled =>
    have apart : Apart id { l with handoff } ({ l with handoff }.startPause pause) :=
      apart_of_quiet (.refl _) rfl rfl rfl (List.suffix_cons _ _)
    exact (told id).apart ((apart_of_polled polled).trans apart)
  | resumes _ _ _ _ => exact (told id).apart (apart_of_quiet (.refl _) rfl rfl rfl List.suffix_rfl)

end Loop

/-! ## Every run -/

section Runs

variable {ts : Nat → Transcript}

/-- What is known of all connections goes along with every event. -/
theorem told_apply (told : ∀ id, Told S id l (ts id)) (e : Event) (id : Nat) :
    Told S id (l.apply S e) (l.heard id (ts id) e) := by
  by_cases own : e = .step (.task id)
  · subst own
    rcases apply_task S l id (ts id) with
      ⟨same, hheard⟩ | ⟨task, l', held, happly, hheard, stepped⟩
    · rw [same, hheard]
      exact told id
    · rw [happly, hheard]
      exact told_stepTask (told id) held stepped
  · rw [heard_of_other l (ts id) own]
    by_cases loop : e = .step .loop
    · subst loop
      rcases apply_step S l .loop with ⟨_, same⟩ | ⟨l', happly, ⟨step⟩⟩
      · rw [same]
        exact told id
      · rw [happly]
        exact told_stepLoop told (stepLoop_spec step) id
    · exact (told id).apart (apart_of_others S l loop own)

theorem told_run (told : ∀ id, Told S id l (ts id)) (events : List Event) (id : Nat) :
    Told S id (l.run S events) (transcript S id l events (ts id)) := by
  induction events generalizing l ts with
  | nil => exact told id
  | cons e events ih =>
    have next : ∀ id, Told S id (l.apply S e) (l.heard id (ts id) e) := told_apply told e
    exact ih next

/-- Once its acts are over, a connection meets with nothing more. -/
theorem Told.heard_eq (told : Told S id l t) (done : verdict S l.settings.identity t ≠ .going)
    (e : Event) : l.heard id t e = t := by
  cases e with
  | step party =>
    cases party with
    | task k =>
      by_cases hk : k = id
      · subst hk
        rw [heard, if_pos rfl]
        cases held : l.tasks.find? k with
        | none => rfl
        | some task =>
          have reporting : task.phase = .reporting := by
            cases told with
            | untaken _ _ absent _ =>
              rw [absent] at held
              cases held
            | inActs _ _ sofar => exact absurd sofar.going done
            | settled _ _ _ _ _ _ rest _ _ _ => exact rest task held
          show t.see _ (l.sight task) = t
          rw [sight, reporting]
          rfl
      · exact if_neg hk
    | _ => rfl
  | _ => rfl

theorem transcript_settled (ts : Nat → Transcript) (told : ∀ id, Told S id l (ts id))
    (done : verdict S l.settings.identity (ts id) ≠ .going) (events : List Event) :
    transcript S id l events (ts id) = ts id := by
  induction events generalizing l ts with
  | nil => rfl
  | cons e events ih =>
    have hheard : l.heard id (ts id) e = ts id := (told id).heard_eq done e
    have done' : verdict S (l.apply S e).settings.identity (l.heard id (ts id) e) ≠ .going := by
      rw [hheard, settings_apply]
      exact done
    exact (ih _ (told_apply told e) done').trans hheard

/-- Of a listener that has just been opened nothing is to be told. -/
theorem told_opened {identity : Identity} {capacity timeout : Nat}
    {address : Except SystemError SocketAddress} {l₀ : Listener}
    (opened : ofRaw identity capacity timeout address = .ok l₀) (id : Nat) : Told S id l₀ {} := by
  obtain ⟨_, _, _, rfl⟩ := eq_of_opened opened
  refine .untaken ?_ rfl rfl (by rintro _ ⟨⟩)
  show ¬ (1 ≤ id ∧ id ≤ 0)
  omega

/-- What there is to say about the outcome of a connection that has met with `t`. -/
structure OneOutcome (S : Suite) (identity : Identity) (l : Listener) (id : Nat) (t : Transcript) :
    Prop where
  /-- The verdict is open just as long as the handshake is there and at the acts. -/
  underWay : verdict S identity t = .going ↔
    ∃ task, l.tasks.find? id = some task ∧ task.phase ≠ .reporting
  atMostOne : (l.handoff.submittedBy id).length ≤ 1
  exactlyOne : verdict S identity t ≠ .going → verdict S identity t ≠ .failed .closed →
    (l.handoff.submittedBy id).length = 1
  /-- Only the shutdown ends the acts without an outcome. -/
  closed : verdict S identity t = .failed .closed →
    l.handoff.submittedBy id = [] ∧ l.fired = true
  /-- A failure is submitted just if it is the first that the straight reading comes to. -/
  rejected : ∀ failure, .error failure ∈ l.handoff.submittedBy id ↔
    verdict S identity t = .failed failure ∧ failure ≠ .closed
  /-- A connection is submitted just if the machine has accepted the peer's acts. -/
  accepted : ∀ machine, Accepted S identity t machine →
    ∃ connection, .ok connection ∈ l.handoff.submittedBy id ∧ connection.machine = machine
  secured : ∀ connection, .ok connection ∈ l.handoff.submittedBy id →
    Accepted S identity t connection.machine ∧
      connection.machine.remoteStatic = some connection.remoteStatic ∧
      connection.id = id ∧ .taken id connection.stream ∈ l.log

theorem oneOutcome_of_told (told : Told S id l t) (taken : l.Taken id) :
    OneOutcome S l.settings.identity l id t := by
  cases told with
  | untaken notTaken => exact absurd taken notTaken
  | inActs task unsettled sofar =>
    have silent : l.handoff.submittedBy id = [] := unsettled.silent
    have going : verdict S l.settings.identity t = .going := sofar.going
    refine ⟨⟨fun _ => ⟨task, unsettled.held, sofar.ne_reporting⟩, fun _ => going⟩, ?_, ?_, ?_, ?_,
      ?_, ?_⟩
    · rw [silent]
      exact Nat.zero_le 1
    · exact fun done => absurd going done
    · exact fun h => Course.noConfusion (going.symm.trans h)
    · intro failure
      rw [silent]
      exact ⟨fun h => absurd h List.not_mem_nil,
        fun h => Course.noConfusion (going.symm.trans h.1)⟩
    · intro machine accepted
      obtain ⟨remote, hremote⟩ := accepted.remoteStatic
      have hsecured := verdict_eq_secured_iff.2 ⟨accepted, hremote⟩
      exact Course.noConfusion (going.symm.trans hsecured)
    · rw [silent]
      exact fun connection h => absurd h List.not_mem_nil
  | settled course stream peer _ judged done rest noted submitted shut =>
    have underWay : verdict S l.settings.identity t = .going ↔
        ∃ task, l.tasks.find? id = some task ∧ task.phase ≠ .reporting := by
      rw [judged]
      exact ⟨fun h => absurd h done, fun ⟨task, held, hne⟩ => absurd (rest task held) hne⟩
    cases course with
    | going => exact absurd rfl done
    | failed failure =>
      have unaccepted : ∀ machine, ¬ Accepted S l.settings.identity t machine := by
        intro machine accepted
        obtain ⟨remote, hremote⟩ := accepted.remoteStatic
        have hsecured := verdict_eq_secured_iff.2 ⟨accepted, hremote⟩
        exact Course.noConfusion (judged.symm.trans hsecured)
      by_cases hclosed : failure = .closed
      · subst hclosed
        have silent : l.handoff.submittedBy id = [] := submitted
        refine ⟨underWay, ?_, fun _ hne => absurd judged hne, fun _ => ⟨silent, shut rfl⟩, ?_,
          fun machine h => absurd h (unaccepted machine), ?_⟩
        · rw [silent]
          exact Nat.zero_le 1
        · intro failure
          rw [silent, judged]
          refine ⟨fun h => absurd h List.not_mem_nil, fun ⟨heq, hne⟩ => ?_⟩
          exact absurd (Course.failed.inj heq).symm hne
        · rw [silent]
          exact fun connection h => absurd h List.not_mem_nil
      · have single : l.handoff.submittedBy id = [.error failure] := by
          rw [submitted, Course.outcome?_failed hclosed]
          rfl
        refine ⟨underWay, ?_, ?_, ?_, ?_, fun machine h => absurd h (unaccepted machine), ?_⟩
        · rw [single]
          exact Nat.le_refl 1
        · rw [single]
          exact fun _ _ => rfl
        · rw [judged]
          exact fun heq => absurd (Course.failed.inj heq) hclosed
        · intro other
          rw [single, judged, List.mem_singleton]
          constructor
          · intro heq
            obtain rfl : other = failure := Except.error.inj heq
            exact ⟨rfl, hclosed⟩
          · rintro ⟨heq, _⟩
            rw [Course.failed.inj heq]
        · intro connection h
          rw [single, List.mem_singleton] at h
          cases h
    | secured machine remote =>
      have single : l.handoff.submittedBy id = [.ok ⟨id, stream, peer, remote, machine⟩] :=
        submitted
      obtain ⟨accepted, hremote⟩ := verdict_eq_secured_iff.1 judged
      refine ⟨underWay, ?_, ?_, ?_, ?_, ?_, ?_⟩
      · rw [single]
        exact Nat.le_refl 1
      · rw [single]
        exact fun _ _ => rfl
      · rw [judged]
        exact Course.noConfusion
      · intro failure
        rw [single, judged, List.mem_singleton]
        constructor
        · rintro ⟨⟩
        · rintro ⟨⟨⟩, _⟩
      · intro other haccepted
        obtain ⟨key, hkey⟩ := haccepted.remoteStatic
        have hsame := judged.symm.trans (verdict_eq_secured_iff.2 ⟨haccepted, hkey⟩)
        rw [single]
        exact ⟨_, List.mem_singleton_self _, (Course.secured.inj hsame).1⟩
      · intro connection h
        rw [single, List.mem_singleton] at h
        cases h
        exact ⟨accepted, hremote, rfl, noted⟩

/-- Nothing that was not taken has an outcome of its own, and the failures to take a connection are
    no shutdown. -/
theorem Told.failures (told : Told S id l t) (notTaken : ¬ l.Taken id) {outcome : Outcome}
    (h : outcome ∈ l.handoff.submittedBy id) : id = 0 ∧ ∃ e, outcome = .error (.accept e) :=
  (told.of_not_taken notTaken).2.2 outcome h

/-- Only the shutdown cuts acts short as the shutdown does. -/
theorem Told.fired_of_closed (told : Told S id l t)
    (judged : verdict S l.settings.identity t = .failed .closed) : l.fired = true := by
  cases told with
  | untaken _ fresh _ _ =>
    rw [fresh, Sofar.spawned.going] at judged
    cases judged
  | inActs _ _ sofar =>
    rw [sofar.going] at judged
    cases judged
  | settled course _ _ _ hcourse _ _ _ _ shut => exact shut (hcourse.symm.trans judged)

/-- **One outcome for every connection.**  Along every run, whatever peers and network do and
    whenever the shutdown is fired: the handshake of a connection that was taken submits at most one
    outcome, the verdict on what it has met with; it submits exactly one if its acts were over at a
    moment at which the shutdown had not been fired; and nobody ever submits that the listener is
    closed.  Nothing else comes to the channel but failures to take a connection. -/
theorem one_outcome (S : Suite) {identity : Identity} {capacity timeout : Nat}
    {address : Except SystemError SocketAddress} {l₀ : Listener}
    (opened : ofRaw identity capacity timeout address = .ok l₀) (events : List Event) :
    (∀ id, (l₀.run S events).Taken id →
      OneOutcome S identity (l₀.run S events) id (transcript S id l₀ events {}) ∧
      ∀ before later, events = before ++ later →
        verdict S identity (transcript S id l₀ before {}) ≠ .going →
        (l₀.run S before).fired = false →
        ((l₀.run S events).handoff.submittedBy id).length = 1) ∧
    (∀ id, ¬ (l₀.run S events).Taken id → ∀ outcome ∈ (l₀.run S events).handoff.submittedBy id,
      id = 0 ∧ ∃ e, outcome = .error (.accept e)) ∧
    ∀ id, .error .closed ∉ (l₀.run S events).handoff.submittedBy id := by
  have told : ∀ (events : List Event) (id : Nat),
      Told S id (l₀.run S events) (transcript S id l₀ events {}) :=
    fun events => told_run (told_opened opened) events
  have hidentity : ∀ events : List Event, (l₀.run S events).settings.identity = identity := by
    intro events
    rw [settings_run]
    unfold ofRaw at opened
    split at opened
    · cases opened
    · split at opened
      · cases opened
      · cases opened
        rfl
  have oneOutcome : ∀ id, (l₀.run S events).Taken id →
      OneOutcome S identity (l₀.run S events) id (transcript S id l₀ events {}) := by
    intro id taken
    have h := oneOutcome_of_told (told events id) taken
    rw [hidentity] at h
    exact h
  refine ⟨fun id taken => ⟨oneOutcome id taken, ?_⟩, ?_, ?_⟩
  · rintro before later rfl done unfired
    have htranscript : transcript S id l₀ (before ++ later) {} = transcript S id l₀ before {} := by
      rw [transcript_append]
      have done' : verdict S (l₀.run S before).settings.identity
          (transcript S id l₀ before {}) ≠ .going := by
        rw [hidentity]
        exact done
      exact transcript_settled (fun id => transcript S id l₀ before {}) (told before) done' later
    have unclosed : verdict S identity (transcript S id l₀ before {}) ≠ .failed .closed := by
      intro hclosed
      rw [← hidentity before] at hclosed
      have fired := (told before id).fired_of_closed hclosed
      rw [unfired] at fired
      cases fired
    have h := oneOutcome id taken
    rw [htranscript] at h
    exact h.exactlyOne done unclosed
  · exact fun id notTaken outcome h => (told events id).failures notTaken h
  · intro id h
    by_cases taken : (l₀.run S events).Taken id
    · exact (((oneOutcome id taken).rejected .closed).1 h).2 rfl
    · obtain ⟨_, e, heq⟩ := (told events id).failures taken h
      cases heq

/-- A peer that hangs up before it has sent a byte. -/
theorem one_outcome_sample :
    ∃ l₀, ofRaw ⟨Octets.replicate 32 2⟩ 1 1000 (.ok ⟨.v4 ⟨127, 0, 0, 1⟩, 9735, 0⟩) = .ok l₀ ∧
      let events : List Event :=
        [.newStream 0, .arrive (.ok ⟨0, .v4 ⟨127, 0, 0, 1⟩, 40000, 0⟩), .step .loop, .step .loop,
          .step (.task 1), .wire 0 .hangUp, .step (.task 1)]
      OneOutcome .standard ⟨Octets.replicate 32 2⟩ (l₀.run .standard events) 1
        (transcript .standard 1 l₀ events {}) ∧
      (l₀.run .standard events).handoff.submittedBy 1 = [.error (.shortRead .one)] := by
  refine ⟨_, rfl, ?_⟩
  intro events
  have opened : ofRaw ⟨Octets.replicate 32 2⟩ 1 1000 (.ok ⟨.v4 ⟨127, 0, 0, 1⟩, 9735, 0⟩) =
      .ok _ := rfl
  refine ⟨((one_outcome .standard opened events).1 1 ?_).1, rfl⟩
  exact ⟨Nat.le_refl 1, Nat.le_refl 1⟩

end Runs

end Gatehouse.Listener
