import Gatehouse.Proofs.Listener.Counting

/-!
# The count of handshakes is balanced

What the numbers that are kept for monitoring say about handshakes, at every moment of every run
(`handshakes_counted`): how many are at their acts, how many have come to which end, and that these
are all that have begun.  The ends are those of the straight reading of what each connection has met
with (`verdict`), not what the handshake itself makes known of it.
-/

namespace Gatehouse.Listener

variable {S : Suite} {s : Scene} {l : Listener} {id : Nat} {t : Transcript} {ts : Nat → Transcript}

/-! ## What a connection has met with in a scene -/

namespace Scene

/-- What a connection has met with after an event: something new only at its own turns. -/
def heard (s : Scene) (id : Nat) (t : Transcript) : Event → Transcript
  | .listener e => s.listener.heard id t e
  | _ => t

/-- What a connection has met with after a list of events. -/
def transcript (S : Suite) (id : Nat) : Scene → List Event → Transcript → Transcript
  | _, [], t => t
  | s, e :: events, t => transcript S id (s.apply S e) events (s.heard id t e)

theorem told_stepLoop (told : ∀ id, Told S id s.listener (ts id)) (id : Nat) :
    Told S id s.stepLoop.listener (ts id) := by
  have polled : ∀ socket id, Told S id { s.listener with socket } (ts id) :=
    fun socket id => (told id).apart (apart_of_core rfl)
  unfold stepLoop
  split
  · unfold pollSocket
    split
    · exact told id
    · exact told_reportRefusal (polled _ id) _
    · exact told_spawnTask (polled _) _ id
  · split
    · exact told id
    · exact Listener.told_apply told (.step .loop) id

/-- What is known of all connections goes along with everything that happens in a scene. -/
theorem told_apply (told : ∀ id, Told S id s.listener (ts id)) (e : Event) (id : Nat) :
    Told S id (s.apply S e).listener (s.heard id (ts id) e) := by
  cases e with
  | startClose k => exact Listener.told_apply told .trigger id
  | finishClose k =>
    show Told S id (s.finishClose k).listener (ts id)
    unfold finishClose
    split
    · exact Listener.told_apply told .closeSocket id
    · exact told id
  | listener e =>
    cases serving : e.isServing with
    | true =>
      rw [apply_of_serving s serving]
      exact Listener.told_apply told e id
    | false =>
      cases e with
      | step party =>
        cases party with
        | loop => exact told_stepLoop told id
        | _ => cases serving
      | arrive answer => exact Listener.told_apply told (.arrive answer) id
      | trigger | closeSocket => exact told id
      | _ => cases serving

theorem told_run (told : ∀ id, Told S id s.listener (ts id)) (events : List Event) (id : Nat) :
    Told S id (s.run S events).listener (transcript S id s events (ts id)) := by
  induction events generalizing s ts with
  | nil => exact told id
  | cons e events ih =>
    have next : ∀ id, Told S id (s.apply S e).listener (s.heard id (ts id) e) := told_apply told e
    exact ih next

end Scene

/-! ## What the numbers say -/

/-- What the count of handshakes says of a listener whose connections have met with `ts`. -/
structure Balanced (S : Suite) (identity : Identity) (l : Listener) (ts : Nat → Transcript) :
    Prop where
  /-- Those that have begun on the acts are different connections. -/
  distinct : l.begun.Nodup
  taken : ∀ id ∈ l.begun, l.Taken id
  /-- Whoever has been taken and has not begun has not had a turn, or the shutdown kept it from
      beginning. -/
  unbegun : ∀ id, l.Taken id → id ∉ l.begun →
    (∃ task, l.tasks.find? id = some task ∧ task.phase = .spawned) ∨
      l.tasks.find? id = none ∧ verdict S identity (ts id) = .failed .closed ∧ l.fired = true
  /-- The acts go on of those on whom the verdict is open. -/
  going : ∀ id, id ∈ l.atActs ↔ id ∈ l.begun ∧ verdict S identity (ts id) = .going
  gauge : l.tally.inFlight = l.atActs.card
  idle : l.tasks = [] → l.tally.inFlight = 0
  /-- Whoever has begun is at the acts or counted under a label, and each label has one counter. -/
  balance : l.tally.total + l.tally.inFlight = l.begun.length
  labels : (l.tally.finished.map (·.1)).Nodup
  counted : ∀ label, l.tally.counted label =
    l.begun.countP fun id => (verdict S identity (ts id)).label? == some label
  /-- One label is that of the acts that were accepted, the others are those of failures. -/
  secured : ∀ id, (verdict S identity (ts id)).label? = some "secured" ↔
    ∃ machine, Accepted S identity (ts id) machine
  failed : ∀ id label, label ≠ "secured" → ((verdict S identity (ts id)).label? = some label ↔
    ∃ failure, verdict S identity (ts id) = .failed failure ∧ failure.label = label)
  closed : 0 < l.tally.counted Failure.closed.label → l.fired = true
  /-- No more connections have been returned than were secured. -/
  returned : l.front.returned.length ≤ l.tally.counted "secured"

section Numbers

variable (told : ∀ id, Told S id l (ts id)) (scored : Scored l)

include told

/-- Whoever has submitted a connection has done so once, and has come to it by the acts. -/
theorem secured_of_submitter (id : Nat) (h : id ∈ l.handoff.submitters Except.isOk) :
    l.Taken id ∧ ∃ machine remote, verdict S l.settings.identity (ts id) = .secured machine remote := by
  have some : 0 < (l.handoff.submittedBy id).countP Except.isOk := by
    rw [← Handoff.count_submitters]
    exact List.count_pos_iff.2 h
  obtain ⟨outcome, submitted, isOk⟩ := List.countP_pos_iff.1 some
  cases told id with
  | untaken _ _ _ failures =>
    obtain ⟨_, e, rfl⟩ := failures outcome submitted
    cases isOk
  | inActs task unsettled sofar =>
    rw [unsettled.silent] at submitted
    cases submitted
  | settled course stream peer taken judged done rest noted given shut =>
    refine ⟨taken, ?_⟩
    rw [given, Option.mem_toList] at submitted
    cases course with
    | going => exact absurd rfl done
    | secured machine remote => exact ⟨machine, remote, judged⟩
    | failed failure =>
      by_cases closed : failure = .closed
      · subst closed
        cases submitted
      · rw [Course.outcome?_failed closed] at submitted
        cases submitted
        cases isOk

theorem nodup_submitters : (l.handoff.submitters Except.isOk).Nodup := by
  rw [List.nodup_iff_count_le_one]
  intro id
  by_cases h : id ∈ l.handoff.submitters Except.isOk
  · rw [Handoff.count_submitters]
    exact List.countP_le_length.trans
      (oneOutcome_of_told (told id) (secured_of_submitter told id h).1).atMostOne
  · rw [List.count_eq_zero.2 h]
    exact Nat.zero_le 1

include scored

theorem ending_eq_of_begun {id : Nat} (began : id ∈ l.begun) :
    l.ending id = (verdict S l.settings.identity (ts id)).label? :=
  (told id).ending_eq (scored.placed id) began

theorem counted_eq (label : String) : l.tally.counted label =
    l.begun.countP fun id => (verdict S l.settings.identity (ts id)).label? == some label := by
  have stands : l.tally.counted label = (l.begun.filterMap l.ending).count label :=
    scored.stands.counts label
  rw [stands, List.count, List.countP_filterMap]
  refine List.countP_congr fun id began => ?_
  rw [ending_eq_of_begun told scored began]
  cases (verdict S l.settings.identity (ts id)).label? <;> simp

/-- Whoever has not begun has had no turn, or has ended by the shutdown. -/
theorem unbegun_cases {id : Nat} (taken : l.Taken id) (unbegun : id ∉ l.begun) :
    (∃ task, l.tasks.find? id = some task ∧ task.phase = .spawned) ∨
      l.tasks.find? id = none ∧ verdict S l.settings.identity (ts id) = .failed .closed ∧
        l.fired = true := by
  have fresh := (scored.placed id).unbegun unbegun
  cases told id with
  | untaken notTaken => exact absurd taken notTaken
  | inActs task unsettled sofar =>
    exact .inl ⟨task, unsettled.held, fresh.spawned task unsettled.held⟩
  | settled course stream peer _ judged done rest noted submitted shut =>
    have silent : course.outcome? id stream peer = none := by
      rw [fresh.silent taken] at submitted
      exact Option.toList_eq_nil_iff.1 submitted.symm
    have closed : course = .failed .closed := by
      cases course with
      | going => exact absurd rfl done
      | secured _ _ => cases silent
      | failed failure =>
        by_contra other
        rw [Course.outcome?_failed fun h => other (congrArg Course.failed h)] at silent
        cases silent
    refine .inr ⟨?_, judged.trans closed, shut closed⟩
    rw [Option.eq_none_iff_forall_ne_some]
    intro task held
    cases (rest task held).symm.trans (fresh.spawned task held)

theorem returned_le (drawn : l.front.Drawn) :
    l.front.returned.length ≤ l.tally.counted "secured" := by
  have within : ∀ id ∈ l.handoff.submitters Except.isOk,
      id ∈ l.begun.filter fun id =>
        (verdict S l.settings.identity (ts id)).label? == some "secured" := by
    intro id h
    obtain ⟨taken, machine, remote, judged⟩ := secured_of_submitter told id h
    refine List.mem_filter.2 ⟨?_, by rw [judged]; rfl⟩
    by_contra unbegun
    have none := ((scored.placed id).unbegun unbegun).silent taken
    have some : 0 < (l.handoff.submittedBy id).countP Except.isOk := by
      rw [← Handoff.count_submitters]
      exact List.count_pos_iff.2 h
    rw [none] at some
    cases some
  have drawn : l.front.returned.length + l.handoff.inside Except.isOk ≤
      (l.handoff.submitters Except.isOk).length := drawn
  have fewer := (List.subperm_of_subset (nodup_submitters told) within).length_le
  rw [counted_eq told scored, List.countP_eq_length_filter]
  omega

theorem balanced_of_scored (drawn : l.front.Drawn) : Balanced S l.settings.identity l ts := by
  have all : AllTold S l := fun id => ⟨ts id, told id⟩
  have gauge := scored.inFlight_eq all
  refine ⟨scored.once, fun id began => ((scored.placed id).begun began).1,
    fun id taken unbegun => unbegun_cases told scored taken unbegun, ?_, gauge, ?_, ?_,
    scored.stands.once, counted_eq told scored, ?_, fun id label => Course.label?_eq_some_iff, ?_,
    returned_le told scored drawn⟩
  · intro id
    rw [mem_atActs_iff (told id) (scored.placed id)]
    refine and_congr_right fun began => ?_
    rw [ending_eq_of_begun told scored began, Course.label?_eq_none_iff]
  · intro none
    rw [gauge, atActs, none]
    rfl
  · have total : l.tally.total = (l.begun.filterMap l.ending).length := scored.stands.total
    have balance := scored.inFlight
    omega
  · intro id
    rw [Course.label?_eq_secured_iff]
    constructor
    · rintro ⟨machine, remote, judged⟩
      exact ⟨machine, (verdict_eq_secured_iff.1 judged).1⟩
    · rintro ⟨machine, accepted⟩
      obtain ⟨remote, hremote⟩ := accepted.remoteStatic
      exact ⟨machine, remote, verdict_eq_secured_iff.2 ⟨accepted, hremote⟩⟩
  · intro some
    rw [counted_eq told scored] at some
    obtain ⟨id, _, label⟩ := List.countP_pos_iff.1 some
    have other : Failure.closed.label ≠ "secured" := Failure.closed.label_ne_secured
    obtain ⟨failure, judged, heq⟩ := (Course.label?_eq_some_iff other).1 (beq_iff_eq.1 label)
    rw [Failure.label_eq_closed_iff.1 heq] at judged
    exact (told id).fired_of_closed judged

end Numbers

/-- **Every handshake is counted once.**  Along every run, however the steps of the parties and what
    comes from outside are interleaved: the gauge shows how many handshakes have begun on the acts
    and have not come to their end; these and the counters of all labels together are the handshakes
    that have begun; each that has come to its end is counted under the label of the verdict on what
    it has met with; nothing is counted as closed before the shutdown has been fired; and no more
    connections are returned than were secured. -/
theorem handshakes_counted (S : Suite) {identity : Identity} {capacity timeout : Nat}
    {address : Except SystemError SocketAddress} {l₀ : Listener}
    (opened : ofRaw identity capacity timeout address = .ok l₀) (events : List Scene.Event) :
    Balanced S identity (Scene.run S { listener := l₀ } events).listener
      fun id => Scene.transcript S id { listener := l₀ } events {} := by
  have start : ({ listener := l₀ } : Scene).Attentive :=
    fun looked => absurd looked Bool.false_ne_true
  have untold : ∀ id, Told S id l₀ {} := told_opened opened
  have undrawn : l₀.front.Drawn := by
    rw [front_opened opened]
    exact Nat.le_refl 0
  have told : ∀ id, Told S id _ (Scene.transcript S id { listener := l₀ } events {}) :=
    Scene.told_run untold events
  obtain ⟨_, _, scored, drawn, settled⟩ := Scene.listener_induction (S := S)
    (P := fun l => AllTold S l ∧ Scored l ∧ l.front.Drawn ∧ l.settings.identity = identity)
    (fun l l' happens hold => ⟨hold.1.happens happens, hold.2.1.happens hold.1 happens,
      hold.2.2.1.move (frontMove_happens happens), by rw [settings_happens happens, hold.2.2.2]⟩)
    start ⟨fun id => ⟨{}, untold id⟩, scored_opened opened, undrawn, identity_opened opened⟩
    events
  have balanced := balanced_of_scored told scored drawn
  rw [settled] at balanced
  exact balanced

/-- Three connections are taken: one hangs up before it has sent a byte, one is at its acts when the
    listener is closed, and one finds that it is closed at its first turn. -/
theorem handshakes_counted_sample :
    ∃ l₀, ofRaw ⟨Octets.replicate 32 2⟩ 3 1000 (.ok ⟨.v4 ⟨127, 0, 0, 1⟩, 9735, 0⟩) = .ok l₀ ∧
      let arrive (stream : Nat) : List Scene.Event :=
        [.listener (.newStream stream),
          .listener (.arrive (.ok ⟨stream, .v4 ⟨127, 0, 0, 1⟩, 40000, 0⟩)), .listener (.step .loop),
          .listener (.step .loop), .listener (.step .loop)]
      let events : List Scene.Event :=
        arrive 0 ++ arrive 1 ++ arrive 2 ++
          [.listener (.step (.task 1)), .listener (.step (.task 2)), .listener (.wire 0 .hangUp),
            .listener (.step (.task 1)), .startClose 0, .listener (.step (.task 3))]
      let l := (Scene.run .standard { listener := l₀ } events).listener
      Balanced .standard ⟨Octets.replicate 32 2⟩ l
        (fun id => Scene.transcript .standard id { listener := l₀ } events {}) ∧
      l.begun = [2, 1] ∧ l.tally.inFlight = 1 ∧ l.tally.finished = [("short_read", 1)] := by
  have opened : ofRaw ⟨Octets.replicate 32 2⟩ 3 1000 (.ok ⟨.v4 ⟨127, 0, 0, 1⟩, 9735, 0⟩) =
      .ok _ := rfl
  exact ⟨_, opened, handshakes_counted .standard opened _, rfl, rfl, rfl⟩

end Gatehouse.Listener
