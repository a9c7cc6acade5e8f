import Gatehouse.Proofs.Listener.Draining
import Gatehouse.Proofs.Listener.Outcomes
import Gatehouse.Proofs.Listener.Returned

/-!
# Every handshake is counted once

A handshake that begins on the acts is counted as one that runs, and when its acts are over as one
that has ended, under the name of how it ended.  What was counted is kept apart from what became of
the handshakes: the first is the `score`, the second shows in what a handshake has submitted and in
whether it is still there (`ending`).  A handshake's own step changes both in the same way
(`scored_stepTask`), anything else changes neither, and so they agree along every run (`Scored`).
-/

namespace Gatehouse

/-! ## Counters -/

/-- The name under which an outcome is counted. -/
def labelOf : Outcome → String
  | .ok _ => "secured"
  | .error failure => failure.label

/-- The name under which a handshake is counted whose acts are over. -/
def Course.label? : Course → Option String
  | .going => none
  | .failed failure => some failure.label
  | .secured _ _ => some "secured"

/-- No failure is counted as a success. -/
theorem Failure.label_ne_secured (failure : Failure) : failure.label ≠ "secured" := by
  cases failure <;> simp [label]

theorem Failure.label_eq_closed_iff {failure : Failure} :
    failure.label = Failure.closed.label ↔ failure = .closed := by
  constructor
  · intro h
    cases failure with
    | closed => rfl
    | _ => simp [label] at h
  · rintro rfl
    rfl

namespace Course

variable {course : Course} {label : String}

/-- A success has a name that no failure has. -/
theorem label?_eq_secured_iff :
    course.label? = some "secured" ↔ ∃ machine remote, course = .secured machine remote := by
  constructor
  · intro h
    cases course with
    | going => cases h
    | failed failure => exact absurd (Option.some.inj h) failure.label_ne_secured
    | secured machine remote => exact ⟨machine, remote, rfl⟩
  · rintro ⟨machine, remote, rfl⟩
    rfl

theorem label?_eq_some_iff (other : label ≠ "secured") :
    course.label? = some label ↔ ∃ failure, course = .failed failure ∧ failure.label = label := by
  constructor
  · intro h
    cases course with
    | going => cases h
    | failed failure => exact ⟨failure, rfl, Option.some.inj h⟩
    | secured machine remote => exact absurd (Option.some.inj h).symm other
  · rintro ⟨failure, rfl, rfl⟩
    rfl

theorem label?_eq_none_iff : course.label? = none ↔ course = .going := by
  constructor
  · intro h
    cases course with
    | going => rfl
    | failed _ => cases h
    | secured _ _ => cases h
  · rintro rfl
    rfl

end Course

namespace Tally

variable {entries : List (String × Nat)} {labels labels' : List String}

/-- How many handshakes are over under a label. -/
def counted (t : Tally) (label : String) : Nat := (t.finished.lookup label).getD 0

/-- The counters of these labels: each label has one counter, with how often it has come up. -/
structure Stands (entries : List (String × Nat)) (labels : List String) : Prop where
  once : (entries.map (·.1)).Nodup
  counts : ∀ label, (entries.lookup label).getD 0 = labels.count label
  total : sumOf (entries.map (·.2)) = labels.length

theorem lookup_bump (label other : String) (entries : List (String × Nat)) :
    ((bump label entries).lookup other).getD 0 =
      (entries.lookup other).getD 0 + if label = other then 1 else 0 := by
  induction entries with
  | nil =>
    show (List.lookup other [(label, 1)]).getD 0 = _
    by_cases h : label = other
    · simp [h]
    · have hb : (other == label) = false := beq_eq_false_iff_ne.2 (Ne.symm h)
      simp [List.lookup_cons, hb, h]
  | cons entry rest ih =>
    obtain ⟨l, n⟩ := entry
    unfold bump
    by_cases hl : l = label
    · subst hl
      rw [if_pos rfl]
      by_cases h : l = other
      · simp [h]
      · have hb : (other == l) = false := beq_eq_false_iff_ne.2 (Ne.symm h)
        simp [List.lookup_cons, hb, h]
    · rw [if_neg hl, List.lookup_cons, List.lookup_cons]
      by_cases h : l = other
      · have hne : label ≠ other := fun heq => hl (h.trans heq.symm)
        simp [h, hne]
      · have hb : (other == l) = false := beq_eq_false_iff_ne.2 (Ne.symm h)
        simp only [hb]
        exact ih

theorem sum_bump (label : String) (entries : List (String × Nat)) :
    sumOf ((bump label entries).map (·.2)) = sumOf (entries.map (·.2)) + 1 := by
  induction entries with
  | nil => rfl
  | cons entry rest ih =>
    obtain ⟨l, n⟩ := entry
    unfold bump
    by_cases hl : l = label
    · rw [if_pos hl]
      simp only [List.map_cons, sumOf_cons]
      omega
    · rw [if_neg hl]
      simp only [List.map_cons, sumOf_cons, ih]
      omega

theorem mem_labels_bump {label other : String} {entries : List (String × Nat)} :
    other ∈ (bump label entries).map (·.1) → other ∈ entries.map (·.1) ∨ other = label := by
  induction entries with
  | nil => exact fun h => Or.inr (List.mem_singleton.1 h)
  | cons entry rest ih =>
    obtain ⟨l, n⟩ := entry
    unfold bump
    by_cases hl : l = label
    · rw [if_pos hl]
      exact Or.inl
    · rw [if_neg hl, List.map_cons, List.map_cons, List.mem_cons, List.mem_cons]
      rintro (h | h)
      · exact Or.inl (Or.inl h)
      · exact (ih h).imp_left Or.inr

theorem nodup_bump (label : String) (once : (entries.map (·.1)).Nodup) :
    ((bump label entries).map (·.1)).Nodup := by
  induction entries with
  | nil => exact List.nodup_singleton label
  | cons entry rest ih =>
    obtain ⟨l, n⟩ := entry
    obtain ⟨new, once⟩ := List.nodup_cons.1 once
    unfold bump
    by_cases hl : l = label
    · rw [if_pos hl]
      exact List.nodup_cons.2 ⟨new, once⟩
    · rw [if_neg hl]
      exact List.nodup_cons.2 ⟨fun h => (mem_labels_bump h).elim new hl, ih once⟩

namespace Stands

/-- One more label comes up. -/
theorem bump (stands : Stands entries labels) (label : String) :
    Stands (bump label entries) (label :: labels) where
  once := nodup_bump label stands.once
  counts := by
    intro other
    rw [lookup_bump, stands.counts, List.count_cons]
    simp only [beq_iff_eq]
  total := (sum_bump label entries).trans (congrArg (· + 1) stands.total)

theorem perm (stands : Stands entries labels) (perm : labels.Perm labels') :
    Stands entries labels' where
  once := stands.once
  counts := fun label => (stands.counts label).trans (perm.count_eq label)
  total := stands.total.trans perm.length_eq

end Stands

end Tally

namespace Listener

variable {S : Suite} {l l' : Listener} {id : Nat} {task : HandshakeTask} {t : Transcript}

/-! ## The score -/

/-- The handshakes that have begun on the acts, the latest first. -/
def begun (l : Listener) : List Nat :=
  l.log.filterMap fun
    | .entered id .awaitActOne => some id
    | _ => none

/-- What is counted about handshakes, and which of them have begun. -/
structure Score where
  inFlight : Int
  finished : List (String × Nat)
  begun : List Nat

/-- The score of a listener. -/
def score (l : Listener) : Score where
  inFlight := l.tally.inFlight
  finished := l.tally.finished
  begun := l.begun

/-- A handshake begins. -/
def Score.begin (s : Score) (id : Nat) : Score :=
  { s with inFlight := s.inFlight + 1, begun := id :: s.begun }

/-- The acts of a handshake are over. -/
def Score.finish (s : Score) (label : String) : Score :=
  { s with inFlight := s.inFlight - 1, finished := Tally.bump label s.finished }

theorem score_onWire (l : Listener) (stream : Nat) (f : Wire → Wire) :
    (l.onWire stream f).score = l.score := by
  unfold onWire
  split <;> rfl

theorem score_closeStream (l : Listener) (stream : Nat) :
    (l.closeStream stream).score = l.score :=
  score_onWire l stream Wire.closeGate

theorem score_dropOutcome (l : Listener) (outcome : Outcome) :
    (l.dropOutcome outcome).score = l.score := by
  cases outcome with
  | ok connection => exact score_closeStream l connection.stream
  | error _ => rfl

theorem score_of_dropped {Held : Outcome → Prop}
    (dropped : l' = l ∨ ∃ outcome, Held outcome ∧ l' = l.dropOutcome outcome) :
    l'.score = l.score := by
  rcases dropped with rfl | ⟨outcome, _, rfl⟩
  · rfl
  · exact score_dropOutcome l outcome

theorem score_closeSocket (l : Listener) : l.closeSocket.score = l.score := by
  have streams : ∀ (arrivals : List Arrival) (l : Listener),
      (arrivals.foldl (fun l arrival => l.closeStream arrival.stream) l).score = l.score := by
    intro arrivals
    induction arrivals with
    | nil => exact fun _ => rfl
    | cons arrival arrivals ih => exact fun l => (ih _).trans (score_closeStream l arrival.stream)
  unfold closeSocket
  split
  · rfl
  · exact streams l.socket.waiting l

theorem score_stopLoop (l : Listener) : l.stopLoop.score = l.score := score_closeSocket l

theorem score_reportRefusal (l : Listener) (error : SystemError) :
    (l.reportRefusal error).score = l.score := by
  unfold reportRefusal
  simp only
  split <;> rfl

theorem score_abandonCall (l : Listener) (call : Nat) : (l.abandonCall call).score = l.score := by
  unfold abandonCall
  simp only
  split
  · exact score_dropOutcome _ _
  · rfl

theorem score_stepLoop (stepped : LoopStepped l l') : l'.score = l.score := by
  cases stepped with
  | stops => exact score_stopLoop l
  | withdraws => exact score_stopLoop { l with pool := l.pool.withdraw .loop }
  | returns => exact score_stopLoop l.releaseLoopToken
  | refuses error socket => exact score_reportRefusal { l with socket } error
  | queues | draws | picksUp | takes | holds | pauses | resumes => rfl

theorem score_stepCall {call : Nat} (stepped : CallStepped l call l') : l'.score = l.score := by
  cases stepped with
  | waits | answers => rfl
  | closes handoff l₁ polled dropped =>
    have same : l₁.score = { l with handoff : Listener }.score := score_of_dropped dropped
    exact same

/-- Only the handshakes are counted, each at its own steps. -/
theorem score_apply (S : Suite) (l : Listener) {e : Event} (other : ∀ id, e ≠ .step (.task id)) :
    (l.apply S e).score = l.score := by
  cases e with
  | step party =>
    rcases apply_step S l party with ⟨_, same⟩ | ⟨l', happly, taken⟩
    · rw [same]
    · rw [happly]
      cases taken with
      | loop step => exact score_stepLoop (stepLoop_spec step)
      | task _ _ _ => exact absurd rfl (other _)
      | call step => exact score_stepCall (stepCall_spec step)
      | drain step => cases stepDrain_spec step <;> rfl
  | abandonCall call => exact score_abandonCall l call
  | closeSocket => exact score_closeSocket l
  | wire stream change => exact score_onWire l stream _
  | startCall _ | startDrain _ | abandonDrain _ | trigger | arrive _ | newStream _ | advance _
  | chance _ => rfl

/-! ## What a handshake's own step is counted as -/

/-- The name under which the end of a handshake's acts is to be counted, once they are over: that of
    the outcome, and where there is none, that of the shutdown. -/
def ending (l : Listener) (id : Nat) : Option String :=
  match l.handoff.submittedBy id with
  | outcome :: _ => some (labelOf outcome)
  | [] => if (l.tasks.find? id).isSome then none else some Failure.closed.label

theorem ending_of_submitted {outcome : Outcome} {rest : List Outcome}
    (submitted : l.handoff.submittedBy id = outcome :: rest) :
    l.ending id = some (labelOf outcome) := by
  rw [ending, submitted]

theorem ending_of_held (silent : l.handoff.submittedBy id = [])
    (held : l.tasks.find? id = some task) : l.ending id = none := by
  rw [ending, silent, held]
  rfl

theorem ending_of_absent (silent : l.handoff.submittedBy id = [])
    (absent : l.tasks.find? id = none) : l.ending id = some Failure.closed.label := by
  rw [ending, silent, absent]
  rfl

theorem ending_apart (apart : Apart id l l') : l'.ending id = l.ending id := by
  rw [ending, ending, apart.submitted, apart.held]

/-- A handshake is handing over what it has submitted. -/
def Reports (l : Listener) (id : Nat) (task : HandshakeTask) : Prop :=
  task.phase = .reporting ∧ l.handoff.submittedBy id ≠ []

/-- What a handshake's own step is counted as. -/
inductive ScoredAs (l : Listener) (id : Nat) (task : HandshakeTask) (l' : Listener) : Prop
  /-- It begins on the acts. -/
  | begins (task' : HandshakeTask) (spawned : task.phase = .spawned)
      (held : l'.tasks.find? id = some task') (inActs : task'.phase.inActs = true)
      (submitted : l'.handoff.submittedBy id = l.handoff.submittedBy id)
      (score : l'.score = l.score.begin id)
  /-- It ends before it has begun. -/
  | aborts (spawned : task.phase = .spawned) (absent : l'.tasks.find? id = none)
      (submitted : l'.handoff.submittedBy id = l.handoff.submittedBy id)
      (score : l'.score = l.score)
  /-- The acts go on. -/
  | goesOn (task' : HandshakeTask) (acting : task.phase.inActs = true)
      (held : l'.tasks.find? id = some task') (inActs : task'.phase.inActs = true)
      (submitted : l'.handoff.submittedBy id = l.handoff.submittedBy id)
      (score : l'.score = l.score)
  /-- The acts are over. -/
  | finishes (label : String) (acting : task.phase.inActs = true)
      (rest : ∀ task', l'.tasks.find? id = some task' → l'.Reports id task')
      (ended : l'.ending id = some label) (score : l'.score = l.score.finish label)
  /-- Its acts have been over before. -/
  | reports (reporting : task.phase = .reporting)
      (rest : ∀ task', l'.tasks.find? id = some task' → task'.phase = .reporting)
      (submitted : l'.handoff.submittedBy id = l.handoff.submittedBy id)
      (score : l'.score = l.score)

section Own

theorem scoredAs_setPhase {phase : Phase} (held : l.tasks.find? id = some task)
    (acting : task.phase.inActs = true) (same : l'.core = l.core) (score : l'.score = l.score)
    (inActs : phase.inActs = true) : ScoredAs l id task (l'.setPhase id task phase) := by
  have apart : Apart id l l' := apart_of_core same
  exact .goesOn { task with phase } acting (find?_setPhase (apart.held.trans held) phase) inActs
    apart.submitted score

theorem scoredAs_submitOutcome {outcome : Outcome} (held : l.tasks.find? id = some task)
    (acting : task.phase.inActs = true) (silent : l.handoff.submittedBy id = [])
    (same : l'.core = l.core) (score : l'.score = l.score.finish (labelOf outcome)) :
    ScoredAs l id task (l'.submitOutcome id task outcome) := by
  have apart : Apart id l l' := apart_of_core same
  have submitted := submittedBy_submitOutcome (apart.submitted.trans silent) task outcome
  refine .finishes (labelOf outcome) acting ?_ (ending_of_submitted submitted) score
  intro task' held'
  have phase := find?_setPhase (apart.held.trans held) .reporting
  refine ⟨?_, submitted ▸ List.cons_ne_nil _ _⟩
  cases held'.symm.trans phase
  rfl

theorem scoredAs_failActs (failure : Failure) (held : l.tasks.find? id = some task)
    (acting : task.phase.inActs = true) (silent : l.handoff.submittedBy id = [])
    (same : l'.core = l.core) (score : l'.score = l.score) :
    ScoredAs l id task (l'.failActs id task failure) := by
  have core : (l'.rejectActs id task failure).core = l.core :=
    (core_rejectActs l' id task failure).trans same
  have rejected : (l'.rejectActs id task failure).score = l.score.finish failure.label := by
    rw [← score, ← score_closeStream l' task.stream]
    rfl
  rcases failActs_cases l' id task failure with ⟨rfl, heq⟩ | ⟨_, heq⟩
  · have apart : Apart id l (l'.rejectActs id task .closed) := apart_of_core core
    have absent : ((l'.rejectActs id task .closed).endTask id).tasks.find? id = none :=
      find?_endTask _ id
    have silent' : (l'.rejectActs id task .closed).handoff.submittedBy id = [] :=
      apart.submitted.trans silent
    rw [heq]
    exact .finishes Failure.closed.label acting
      (fun _ held' => absurd (absent.symm.trans held') (by simp))
      (ending_of_absent silent' absent) rejected
  · rw [heq]
    exact scoredAs_submitOutcome held acting silent core rejected

/-- Every step of a handshake is counted as one of these. -/
theorem scoredAs_stepTask {sight : Sight} (held : l.tasks.find? id = some task)
    (silent : task.phase ≠ .reporting → l.handoff.submittedBy id = [])
    (stepped : TaskStepped S l id task sight l') : ScoredAs l id task l' := by
  have quiet : task.phase.inActs = true → l.handoff.submittedBy id = [] := by
    intro acting
    refine silent fun reporting => ?_
    rw [reporting] at acting
    cases acting
  have inActs : ∀ {phase : Phase}, task.phase = phase → phase.inActs = true →
      task.phase.inActs = true := fun heq h => heq ▸ h
  have gone : ∀ roster : Roster HandshakeTask, (roster.erase id).find? id = none := by
    intro roster
    rw [Roster.find?_erase, if_pos rfl]
  cases stepped with
  | aborts spawned fired =>
    refine .aborts spawned ?_ ?_ (score_closeStream _ _)
    · have core := core_closeStream (((l.enter id .init).enter id .rejected).endTask id) task.stream
      exact (congrArg (fun c : Core => c.tasks.find? id) core).trans (gone l.tasks)
    · have core := core_closeStream (((l.enter id .init).enter id .rejected).endTask id) task.stream
      exact congrArg (fun c : Core => c.handoff.submittedBy id) core
  | begins spawned going =>
    exact .begins _ spawned (find?_setPhase held _) rfl rfl rfl
  | shut acting fired => exact scoredAs_failActs .closed held acting (quiet acting) rfl rfl
  | breaks failure wires acting going =>
    exact scoredAs_failActs failure held acting (quiet acting) rfl rfl
  | readsOne machine got bytes timer wire inward phase_eq =>
    exact scoredAs_setPhase held (inActs phase_eq rfl) rfl rfl rfl
  | takesOne machine got bytes timer wire inward act phase_eq =>
    have acting := inActs phase_eq rfl
    rcases takeActOne_cases (S := S) (l.withWire task.stream { wire with inward }) id task machine
      act with ⟨e, m, _, htake⟩ | ⟨m₁, _, ⟨e, m₂, _, htake⟩ | ⟨two, m₂, _, htake⟩⟩
    · rw [htake]
      exact scoredAs_failActs _ held acting (quiet acting) rfl rfl
    · rw [htake]
      exact scoredAs_failActs _ held acting (quiet acting) rfl rfl
    · rw [htake]
      exact scoredAs_setPhase held acting rfl rfl rfl
  | writes machine left rest wire outward phase_eq =>
    refine scoredAs_setPhase held (inActs phase_eq rfl) rfl rfl ?_
    split <;> rfl
  | awaits machine phase_eq => exact scoredAs_setPhase held (inActs phase_eq rfl) rfl rfl rfl
  | readsThree machine got bytes timer wire inward phase_eq =>
    exact scoredAs_setPhase held (inActs phase_eq rfl) rfl rfl rfl
  | takesThree machine got bytes timer wire inward act phase_eq =>
    have acting := inActs phase_eq rfl
    rcases takeActThree_cases (S := S) (l.withWire task.stream { wire with inward }) id task machine
      act with ⟨e, m, _, htake⟩ | ⟨m, _, ⟨_, htake⟩ | ⟨remote, _, htake⟩⟩
    · rw [htake]
      exact scoredAs_failActs _ held acting (quiet acting) rfl rfl
    · rw [htake]
      exact scoredAs_failActs _ held acting (quiet acting) rfl rfl
    · rw [htake, succeedActs_eq]
      exact scoredAs_submitOutcome held acting (quiet acting) rfl rfl
  | holds handoff reporting polled =>
    refine .reports reporting (fun task' held' => ?_) ((quiet_of_polled polled).submitted id) rfl
    cases held.symm.trans held'
    exact reporting
  | delivers handoff reporting polled =>
    exact .reports reporting (fun _ held' => absurd ((gone l.tasks).symm.trans held') (by simp))
      ((quiet_of_polled polled).submitted id) rfl
  | drops outcome handoff reporting found polled =>
    have core := core_dropOutcome { l with handoff } outcome
    have submitted : ({ l with handoff : Listener }.dropOutcome outcome).handoff = handoff :=
      congrArg Core.handoff core
    refine .reports reporting (fun _ held' => ?_) ?_ (score_dropOutcome { l with handoff } outcome)
    · exact absurd ((gone _).symm.trans held') (by simp)
    · show ({ l with handoff : Listener }.dropOutcome outcome).handoff.submittedBy id = _
      rw [submitted]
      exact (quiet_of_polled polled).submitted id

end Own

/-! ## The score agrees with what became of the handshakes -/

theorem Told.silent_of_held (told : Told S id l t) (held : l.tasks.find? id = some task)
    (other : task.phase ≠ .reporting) : l.handoff.submittedBy id = [] := by
  cases told with
  | untaken _ _ absent _ => cases absent.symm.trans held
  | inActs _ unsettled _ => exact unsettled.silent
  | settled _ _ _ _ _ _ rest _ _ _ => exact absurd (rest task held) other

theorem Told.taken_of_held (told : Told S id l t) (held : l.tasks.find? id = some task) :
    l.Taken id := by
  cases told with
  | untaken _ _ absent _ => cases absent.symm.trans held
  | inActs _ unsettled _ => exact unsettled.taken
  | settled _ _ _ taken => exact taken

/-- A handshake has done nothing yet, if it is there at all. -/
structure Fresh (l : Listener) (id : Nat) : Prop where
  spawned : ∀ task, l.tasks.find? id = some task → task.phase = .spawned
  silent : l.Taken id → l.handoff.submittedBy id = []

theorem Fresh.apart (fresh : Fresh l id) (apart : Apart id l l') : Fresh l' id where
  spawned := fun task found => fresh.spawned task (apart.held ▸ found)
  silent := fun taken => apart.submitted.trans (fresh.silent (apart.taken.1 taken))

/-- Where a handshake stands that has begun, or has not. -/
structure Placed (l : Listener) (id : Nat) : Prop where
  begun : id ∈ l.begun → l.Taken id ∧
    ∀ task, l.tasks.find? id = some task → task.phase.inActs = true ∨ l.Reports id task
  unbegun : id ∉ l.begun → l.Fresh id

namespace Placed

theorem of_begun (began : id ∈ l.begun) (taken : l.Taken id)
    (held : ∀ task, l.tasks.find? id = some task → task.phase.inActs = true ∨ l.Reports id task) :
    Placed l id :=
  ⟨fun _ => ⟨taken, held⟩, fun never => absurd began never⟩

theorem of_unbegun (unbegun : id ∉ l.begun) (fresh : l.Fresh id) : Placed l id :=
  ⟨fun began => absurd began unbegun, fun _ => fresh⟩

theorem apart (placed : Placed l id) (apart : Apart id l l')
    (same : id ∈ l'.begun ↔ id ∈ l.begun) : Placed l' id := by
  by_cases began : id ∈ l.begun
  · obtain ⟨taken, held⟩ := placed.begun began
    refine .of_begun (same.2 began) (apart.taken.2 taken) fun task found => ?_
    refine (held task (apart.held ▸ found)).imp_right fun reports => ⟨reports.1, ?_⟩
    rw [apart.submitted]
    exact reports.2
  · exact .of_unbegun (fun h => began (same.1 h)) ((placed.unbegun began).apart apart)

theorem begun_of_phase (placed : Placed l id) (held : l.tasks.find? id = some task)
    (other : task.phase ≠ .spawned) : id ∈ l.begun :=
  Decidable.not_not.1 fun began => other ((placed.unbegun began).spawned task held)

theorem unbegun_of_spawned (placed : Placed l id) (held : l.tasks.find? id = some task)
    (spawned : task.phase = .spawned) : id ∉ l.begun := by
  intro began
  rcases (placed.begun began).2 task held with acting | reports
  · rw [spawned] at acting
    cases acting
  · cases spawned.symm.trans reports.1

end Placed

/-- The score agrees with what became of the handshakes. -/
structure Scored (l : Listener) : Prop where
  placed : ∀ id, Placed l id
  once : l.begun.Nodup
  stands : Tally.Stands l.tally.finished (l.begun.filterMap l.ending)
  inFlight : l.tally.inFlight + (l.begun.filterMap l.ending).length = l.begun.length

/-- One of the things that are looked up is new. -/
theorem perm_filterMap_of_new {α β : Type} [DecidableEq α] {f g : α → Option β} {ids : List α}
    {a : α} {b : β} (once : ids.Nodup) (mem : a ∈ ids) (before : f a = none) (after : g a = some b)
    (same : ∀ k ∈ ids, k ≠ a → g k = f k) : (b :: ids.filterMap f).Perm (ids.filterMap g) := by
  have first := List.perm_cons_erase mem
  have rest : (ids.erase a).filterMap g = (ids.erase a).filterMap f := by
    refine List.filterMap_congr fun k hk => ?_
    obtain ⟨hne, hmem⟩ := (once.mem_erase_iff).1 hk
    exact same k hmem hne
  have old := first.filterMap f
  have new := first.filterMap g
  rw [List.filterMap_cons_none before] at old
  rw [List.filterMap_cons_some after, rest] at new
  exact (old.cons b).trans new.symm

namespace Scored

/-- What nobody counts and changes no ending leaves the score right. -/
theorem unscored (scored : Scored l) (placed : ∀ id, Placed l' id) (score : l'.score = l.score)
    (same : ∀ id ∈ l.begun, l'.ending id = l.ending id) : Scored l' := by
  have begun : l'.begun = l.begun := congrArg Score.begun score
  have inFlight : l'.tally.inFlight = l.tally.inFlight := congrArg Score.inFlight score
  have finished : l'.tally.finished = l.tally.finished := congrArg Score.finished score
  have endings : l.begun.filterMap l'.ending = l.begun.filterMap l.ending :=
    List.filterMap_congr same
  refine ⟨placed, ?_, ?_, ?_⟩
  · rw [begun]
    exact scored.once
  · rw [finished, begun, endings]
    exact scored.stands
  · rw [inFlight, begun, endings]
    exact scored.inFlight

/-- What is nothing to the connections that have been taken leaves the score right. -/
theorem elsewhere (scored : Scored l) (score : l'.score = l.score)
    (apart : ∀ id, l.Taken id → Apart id l l') (fresh : ∀ id, ¬ l.Taken id → l'.Fresh id) :
    Scored l' := by
  have same : l'.begun = l.begun := congrArg Score.begun score
  have taken : ∀ {id}, id ∈ l.begun → l.Taken id := fun began => ((scored.placed _).begun began).1
  refine scored.unscored (fun id => ?_) score fun id began => ending_apart (apart id (taken began))
  by_cases old : l.Taken id
  · exact (scored.placed id).apart (apart id old) (by rw [same])
  · exact .of_unbegun (fun began => old (taken (same ▸ began))) (fresh id old)

theorem apart (scored : Scored l) (score : l'.score = l.score) (apart : ∀ id, Apart id l l') :
    Scored l' := by
  have same : l'.begun = l.begun := congrArg Score.begun score
  exact scored.unscored (fun id => (scored.placed id).apart (apart id) (by rw [same])) score
    fun id _ => ending_apart (apart id)

section Own

variable (scored : Scored l) (others : ∀ k, k ≠ id → Apart k l l')

include scored others

theorem placed_others {k : Nat} (hk : k ≠ id) (same : k ∈ l'.begun ↔ k ∈ l.begun) : Placed l' k :=
  (scored.placed k).apart (others k hk) same

/-- A step that is not counted. -/
theorem uncounted (score : l'.score = l.score) (own : Placed l' id)
    (ending : id ∈ l.begun → l'.ending id = l.ending id) : Scored l' := by
  have same : l'.begun = l.begun := congrArg Score.begun score
  refine scored.unscored (fun k => ?_) score fun k began => ?_
  · by_cases hk : k = id
    · exact hk ▸ own
    · exact scored.placed_others others hk (by rw [same])
  · by_cases hk : k = id
    · rw [hk] at began ⊢
      exact ending began
    · exact ending_apart (others k hk)

theorem begins (unbegun : id ∉ l.begun) (taken : l'.Taken id)
    (silent : l'.handoff.submittedBy id = []) (held : l'.tasks.find? id = some task)
    (inActs : task.phase.inActs = true) (score : l'.score = l.score.begin id) : Scored l' := by
  have begun : l'.begun = id :: l.begun := congrArg Score.begun score
  have inFlight : l'.tally.inFlight = l.tally.inFlight + 1 := congrArg Score.inFlight score
  have finished : l'.tally.finished = l.tally.finished := congrArg Score.finished score
  have endings : l'.begun.filterMap l'.ending = l.begun.filterMap l.ending := by
    rw [begun, List.filterMap_cons_none (ending_of_held silent held)]
    refine List.filterMap_congr fun k began => ending_apart (others k ?_)
    rintro rfl
    exact unbegun began
  refine ⟨fun k => ?_, ?_, ?_, ?_⟩
  · by_cases hk : k = id
    · subst hk
      refine .of_begun (begun ▸ List.mem_cons_self) taken fun other found => .inl ?_
      cases held.symm.trans found
      exact inActs
    · refine scored.placed_others others hk ?_
      rw [begun, List.mem_cons]
      exact ⟨fun h => h.resolve_left hk, Or.inr⟩
  · rw [begun]
    exact List.nodup_cons.2 ⟨unbegun, scored.once⟩
  · rw [finished, endings]
    exact scored.stands
  · have before := scored.inFlight
    rw [inFlight, endings, begun, List.length_cons]
    push_cast
    omega

theorem finishes {label : String} (began : id ∈ l.begun) (going : l.ending id = none)
    (taken : l'.Taken id) (rest : ∀ task, l'.tasks.find? id = some task → l'.Reports id task)
    (ended : l'.ending id = some label) (score : l'.score = l.score.finish label) : Scored l' := by
  have begun : l'.begun = l.begun := congrArg Score.begun score
  have inFlight : l'.tally.inFlight = l.tally.inFlight - 1 := congrArg Score.inFlight score
  have finished : l'.tally.finished = Tally.bump label l.tally.finished :=
    congrArg Score.finished score
  have endings := perm_filterMap_of_new scored.once began going ended
    fun k _ hk => ending_apart (others k hk)
  refine ⟨fun k => ?_, ?_, ?_, ?_⟩
  · by_cases hk : k = id
    · subst hk
      exact .of_begun (begun ▸ began) taken fun other found => .inr (rest other found)
    · exact scored.placed_others others hk (by rw [begun])
  · rw [begun]
    exact scored.once
  · rw [finished, begun]
    exact (scored.stands.bump label).perm endings
  · have before := scored.inFlight
    have length := endings.length_eq
    rw [List.length_cons] at length
    rw [inFlight, begun]
    omega

/-- A handshake's own step is counted as what it is. -/
theorem stepTask (told : Told S id l t) (held : l.tasks.find? id = some task) (taken : l'.Taken id)
    (counted : ScoredAs l id task l') : Scored l' := by
  have placed := scored.placed id
  have acts : ∀ {phase : Phase}, task.phase = phase → phase ≠ .reporting →
      l.handoff.submittedBy id = [] := fun heq hne => told.silent_of_held held (heq ▸ hne)
  have acting_ne : task.phase.inActs = true → task.phase ≠ .spawned ∧ task.phase ≠ .reporting := by
    intro acting
    constructor <;> intro heq <;> rw [heq] at acting <;> cases acting
  cases counted with
  | begins task' spawned held' inActs submitted score =>
    exact scored.begins others (placed.unbegun_of_spawned held spawned) taken
      (submitted.trans (acts spawned Phase.noConfusion)) held' inActs score
  | aborts spawned absent submitted score =>
    have unbegun := placed.unbegun_of_spawned held spawned
    have same : l'.begun = l.begun := congrArg Score.begun score
    have own : Placed l' id := .of_unbegun (same ▸ unbegun)
      ⟨fun other found => absurd (absent.symm.trans found) (by simp),
        fun _ => submitted.trans (acts spawned Phase.noConfusion)⟩
    exact scored.uncounted others score own fun began => absurd began unbegun
  | goesOn task' acting held' inActs submitted score =>
    obtain ⟨begun, unsettled⟩ := acting_ne acting
    have began : id ∈ l.begun := placed.begun_of_phase held begun
    have same : l'.begun = l.begun := congrArg Score.begun score
    have silent := told.silent_of_held held unsettled
    have own : Placed l' id := by
      refine .of_begun (same ▸ began) taken fun other found => .inl ?_
      cases held'.symm.trans found
      exact inActs
    refine scored.uncounted others score own fun _ => ?_
    rw [ending_of_held silent held, ending_of_held (submitted.trans silent) held']
  | finishes label acting rest ended score =>
    obtain ⟨begun, unsettled⟩ := acting_ne acting
    exact scored.finishes others (placed.begun_of_phase held begun)
      (ending_of_held (told.silent_of_held held unsettled) held) taken rest ended score
  | reports reporting rest submitted score =>
    have began : id ∈ l.begun :=
      placed.begun_of_phase held (by rw [reporting]; exact Phase.noConfusion)
    have same : l'.begun = l.begun := congrArg Score.begun score
    have some : l.handoff.submittedBy id ≠ [] := by
      refine (((placed.begun began).2 task held).resolve_left fun acting => ?_).2
      exact (acting_ne acting).2 reporting
    obtain ⟨outcome, older, hsubmitted⟩ := List.exists_cons_of_ne_nil some
    have own : Placed l' id := .of_begun (same ▸ began) taken
      fun other found => .inr ⟨rest other found, submitted ▸ some⟩
    refine scored.uncounted others score own fun _ => ?_
    rw [ending_of_submitted hsubmitted, ending_of_submitted (submitted.trans hsubmitted)]

end Own

end Scored

/-! ## Every run -/

/-- Of a connection that has not been taken there is nothing, and a step of the accept loop brings
    no more than a handshake that has done nothing. -/
theorem fresh_of_not_taken (told : Told S id l t) (notTaken : ¬ l.Taken id) : l.Fresh id where
  spawned := fun _ held => absurd ((told.of_not_taken notTaken).2.1.symm.trans held) (by simp)
  silent := fun taken => absurd taken notTaken

theorem fresh_reportRefusal (told : Told S id l t) (notTaken : ¬ l.Taken id) (error : SystemError) :
    (l.reportRefusal error).Fresh id := by
  obtain ⟨pause, l₁, hcore, heq⟩ := reportRefusal_eq l error
  have apart : Apart id l l₁ := apart_of_core hcore
  have fresh := (fresh_of_not_taken told notTaken).apart apart
  rw [heq]
  exact ⟨fresh.spawned, fun taken => absurd (apart.taken.1 taken) notTaken⟩

theorem fresh_spawnTask (told : Told S id l t) (notTaken : ¬ l.Taken id) (arrival : Arrival) :
    (l.spawnTask arrival).Fresh id := by
  obtain ⟨_, absent, failures⟩ := told.of_not_taken notTaken
  constructor
  · intro task held
    rcases Roster.find?_enter_cases held with old | ⟨_, rfl⟩
    · cases absent.symm.trans old
    · rfl
  · intro taken
    rw [List.eq_nil_iff_forall_not_mem]
    exact fun o ho => absurd (failures o ho).1 (Nat.pos_iff_ne_zero.1 taken.1)

/-- What is told of all connections, whatever the transcripts are. -/
def AllTold (S : Suite) (l : Listener) : Prop := ∀ id, ∃ t, Told S id l t

theorem AllTold.of_core (told : AllTold S l) (same : l'.core = l.core) : AllTold S l' :=
  fun id => (told id).imp fun _ told => told.apart (apart_of_core same)

theorem AllTold.happens (told : AllTold S l) (happens : Happens S l l') : AllTold S l' := by
  obtain ⟨ts, all⟩ := Classical.skolem.1 told
  have polled : ∀ socket id, Told S id { l with socket } (ts id) :=
    fun socket id => (all id).apart (apart_of_core rfl)
  cases happens with
  | event e => exact fun id => ⟨_, told_apply all e id⟩
  | refuses error socket _ _ => exact fun id => ⟨_, told_reportRefusal (polled socket id) error⟩
  | takes arrival socket _ _ => exact fun id => ⟨_, told_spawnTask (polled socket) arrival id⟩

namespace Scored

theorem reportRefusal (scored : Scored l) (told : AllTold S l) (error : SystemError) :
    Scored (l.reportRefusal error) :=
  scored.elsewhere (score_reportRefusal l error) (fun _ taken => apart_reportRefusal taken error)
    fun id notTaken => (told id).elim fun _ told => fresh_reportRefusal told notTaken error

theorem spawnTask (scored : Scored l) (told : AllTold S l) (arrival : Arrival) :
    Scored (l.spawnTask arrival) :=
  scored.elsewhere rfl (fun _ taken => apart_spawnTask taken arrival)
    fun id notTaken => (told id).elim fun _ told => fresh_spawnTask told notTaken arrival

theorem stepLoop (scored : Scored l) (told : AllTold S l) (stepped : LoopStepped l l') :
    Scored l' := by
  refine scored.elsewhere (score_stepLoop stepped) (fun _ taken => apart_stepLoop taken stepped)
    fun id notTaken => ?_
  have polled : ∀ socket, AllTold S { l with socket } := fun _ => told.of_core rfl
  rcases apart_stepLoop_or id stepped with apart | ⟨error, socket, rfl⟩ | ⟨arrival, socket, rfl⟩
  · obtain ⟨t, told⟩ := told id
    exact (fresh_of_not_taken told notTaken).apart apart
  · obtain ⟨t, told⟩ := polled socket id
    exact fresh_reportRefusal told notTaken error
  · obtain ⟨t, told⟩ := polled socket id
    exact fresh_spawnTask told notTaken arrival

theorem apply (scored : Scored l) (told : AllTold S l) (e : Event) : Scored (l.apply S e) := by
  by_cases own : ∃ id, e = .step (.task id)
  · obtain ⟨id, rfl⟩ := own
    rcases apply_step S l (.task id) with ⟨_, same⟩ | ⟨l', happly, taken⟩
    · rw [same]
      exact scored
    · rw [happly]
      cases taken with
      | task task held step =>
        obtain ⟨t, toldId⟩ := told id
        have stepped := stepTask_spec held step
        have connections : l'.connections = l.connections :=
          (frontServe_stepTask stepped).connections
        have taken : l'.Taken id := by
          rw [Taken, connections]
          exact toldId.taken_of_held held
        exact scored.stepTask (fun k hk => apart_stepTask hk stepped) toldId held taken
          (scoredAs_stepTask held (toldId.silent_of_held held) stepped)
  · have none : ∀ id, e ≠ .step (.task id) := fun id h => own ⟨id, h⟩
    by_cases loop : e = .step .loop
    · subst loop
      rcases apply_step S l .loop with ⟨_, same⟩ | ⟨l', happly, ⟨step⟩⟩
      · rw [same]
        exact scored
      · rw [happly]
        exact scored.stepLoop told (stepLoop_spec step)
    · exact scored.apart (score_apply S l none) fun id => apart_of_others S l loop (none id)

/-- The score stays right whatever happens. -/
theorem happens (scored : Scored l) (told : AllTold S l) (happens : Happens S l l') :
    Scored l' := by
  have polled : ∀ socket, Scored { l with socket } ∧ AllTold S { l with socket } := fun _ =>
    ⟨scored.apart rfl fun _ => apart_of_core rfl, told.of_core rfl⟩
  cases happens with
  | event e => exact scored.apply told e
  | refuses error socket _ _ => exact (polled socket).1.reportRefusal (polled socket).2 error
  | takes arrival socket _ _ => exact (polled socket).1.spawnTask (polled socket).2 arrival

end Scored

/-- Of a listener that has just been opened nothing is counted. -/
theorem scored_opened {identity : Identity} {capacity timeout : Nat}
    {address : Except SystemError SocketAddress}
    (opened : ofRaw identity capacity timeout address = .ok l) : Scored l := by
  obtain ⟨_, _, _, rfl⟩ := eq_of_opened opened
  exact ⟨fun id => .of_unbegun List.not_mem_nil ⟨(fun _ held => by cases held), fun _ => rfl⟩,
    List.nodup_nil, ⟨List.nodup_nil, fun _ => rfl, rfl⟩, rfl⟩

/-! ## What the numbers say -/

/-- The end of a handshake's acts is counted under the name of the verdict on them. -/
theorem Told.ending_eq (told : Told S id l t) (placed : Placed l id) (began : id ∈ l.begun) :
    l.ending id = (verdict S l.settings.identity t).label? := by
  cases told with
  | untaken notTaken => exact absurd (placed.begun began).1 notTaken
  | inActs task unsettled sofar =>
    rw [ending_of_held unsettled.silent unsettled.held, sofar.going]
    rfl
  | settled course stream peer taken judged done rest noted submitted shut =>
    rw [judged]
    cases course with
    | going => exact absurd rfl done
    | secured machine remote => exact ending_of_submitted submitted
    | failed failure =>
      by_cases closed : failure = .closed
      · subst closed
        have silent : l.handoff.submittedBy id = [] := submitted
        refine ending_of_absent silent ?_
        rw [Option.eq_none_iff_forall_ne_some]
        intro task held
        rcases (placed.begun began).2 task held with acting | reports
        · rw [rest task held] at acting
          cases acting
        · exact reports.2 silent
      · rw [Course.outcome?_failed closed] at submitted
        exact ending_of_submitted submitted

/-- The handshakes that are at their acts. -/
def atActs (l : Listener) : Finset Nat := l.tasks.having (·.phase.inActs)

theorem mem_atActs_iff (told : Told S id l t) (placed : Placed l id) :
    id ∈ l.atActs ↔ id ∈ l.begun ∧ l.ending id = none := by
  rw [atActs, Roster.mem_having]
  constructor
  · rintro ⟨task, held, acting⟩
    have begun : task.phase ≠ .spawned := by
      intro h
      rw [h] at acting
      cases acting
    have unsettled : task.phase ≠ .reporting := by
      intro h
      rw [h] at acting
      cases acting
    exact ⟨placed.begun_of_phase held begun, ending_of_held (told.silent_of_held held unsettled) held⟩
  · rintro ⟨began, going⟩
    cases submitted : l.handoff.submittedBy id with
    | cons outcome older =>
      rw [ending_of_submitted submitted] at going
      cases going
    | nil =>
      cases held : l.tasks.find? id with
      | none =>
        rw [ending_of_absent submitted held] at going
        cases going
      | some task =>
        rcases (placed.begun began).2 task held with acting | reports
        · exact ⟨task, rfl, acting⟩
        · exact absurd submitted reports.2

/-- The gauge shows how many handshakes are at their acts. -/
theorem Scored.inFlight_eq (scored : Scored l) (told : AllTold S l) :
    l.tally.inFlight = l.atActs.card := by
  have members : l.atActs = (l.begun.filter fun id => (l.ending id).isNone).toFinset := by
    ext id
    obtain ⟨t, toldId⟩ := told id
    rw [mem_atActs_iff toldId (scored.placed id), List.mem_toFinset, List.mem_filter,
      Option.isNone_iff_eq_none]
  have distinct : (l.begun.filter fun id => (l.ending id).isNone).Nodup := scored.once.filter _
  have ended : (l.begun.filterMap l.ending).length =
      l.begun.countP fun id => decide ¬ (l.ending id).isNone = true := by
    rw [List.length_filterMap_eq_countP]
    refine List.countP_congr fun id _ => ?_
    cases l.ending id <;> simp
  have all := l.begun.length_eq_countP_add_countP fun id => (l.ending id).isNone
  have balance := scored.inFlight
  rw [members, List.toFinset_card_of_nodup distinct, ← List.countP_eq_length_filter]
  omega

end Listener

end Gatehouse
