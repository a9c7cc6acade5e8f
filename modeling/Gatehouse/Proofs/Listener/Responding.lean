import Gatehouse.Proofs.Encounter.Gate
import Gatehouse.Proofs.Listener.Carrying
import Gatehouse.Proofs.Listener.Clock

/-!
# A handshake on a stream with a schedule

A handshake that goes on waits for an act of which the last byte is not there yet (`Stands`).  Its
own steps take it along until it has come to the answer to the schedule, at the instant of the answer
(`Place`, `place_stepTask`); whatever else happens, and that time goes on, leaves it where it stands
(`OnSchedule`).
-/

namespace Gatehouse

/-! ## The answer, case by case -/

/-- What has become of the acts with this answer. -/
def Answer.course (a : Answer) : Course :=
  match a.result with
  | .error failure => .failed failure
  | .ok (machine, remote) => .secured machine remote

namespace Gist

variable {S : Suite} {g : Gist} {r : Identity} {d k due : Nat} {draw : Secret} {failure : Failure}
  {e : HandshakeError} {m m' : Machine} {two : Octets keyActSize} {written : Bytes}

theorem answer_of_error (failed : g.wait .one g.one d = .error (failure, k)) :
    g.answer S r d draw = ⟨.error failure, k, []⟩ := by
  unfold answer
  rw [failed]

theorem answer_of_refused (whole : g.wait .one g.one d = .ok k)
    (refused : (Machine.responder S r).receiveActOne S g.actOne = (.error e, m)) :
    g.answer S r d draw = ⟨.error (.handshake e), k, []⟩ := by
  unfold answer
  simp only [whole, refused]

theorem answer_of_unanswered (whole : g.wait .one g.one d = .ok k)
    (accepted : (Machine.responder S r).receiveActOne S g.actOne = (.ok (), m))
    (failed : m.sendActTwo S draw = (.error e, m')) :
    g.answer S r d draw = ⟨.error (.handshake e), k, []⟩ := by
  unfold answer
  simp only [whole, accepted, failed]

theorem answer_of_answered (whole : g.wait .one g.one d = .ok k)
    (answered : Answered S r g.actOne draw two m) :
    g.answer S r d draw = g.conclude S m two.bytes (k + d) := by
  obtain ⟨m₁, accepted, sent⟩ := answered
  unfold answer
  simp only [whole, accepted, sent]

theorem conclude_of_error (failed : g.wait .three g.three due = .error (failure, k)) :
    g.conclude S m written due = ⟨.error failure, k, written⟩ := by
  unfold conclude
  rw [failed]

theorem conclude_of_refused (whole : g.wait .three g.three due = .ok k)
    (refused : m.receiveActThree S g.actThree = (.error e, m')) :
    g.conclude S m written due = ⟨.error (.handshake e), k, written⟩ := by
  unfold conclude
  simp only [whole, refused]

theorem conclude_of_nameless (whole : g.wait .three g.three due = .ok k)
    (accepted : m.receiveActThree S g.actThree = (.ok (), m')) (nameless : m'.remoteStatic = none) :
    g.conclude S m written due = ⟨.error (.handshake (.invalidKey .three)), k, written⟩ := by
  unfold conclude
  simp only [whole, accepted, nameless]

theorem conclude_of_accepted {remote : PublicKey} (whole : g.wait .three g.three due = .ok k)
    (accepted : m.receiveActThree S g.actThree = (.ok (), m'))
    (named : m'.remoteStatic = some remote) :
    g.conclude S m written due = ⟨.ok (m', remote), k, written⟩ := by
  unfold conclude
  simp only [whole, accepted, named]

end Gist

/-! ## What a handshake finds on it -/

namespace Listener

variable {S : Suite} {r : Identity} {s : Schedule} {l l' : Listener} {id stream start k n size due : Nat}
  {t : Transcript} {w : Wire} {task : HandshakeTask} {act : Act} {count : Nat} {timer : Timer}
  {failure : Failure} {peer : SocketAddress}

/-- Reading finds bytes, or the end of the stream, or nothing, and then maybe that it is too late. -/
theorem readingSight_found (found : l.wires.find? stream = some w) (act : Act) (count : Nat)
    (timer : Timer) :
    l.readingSight stream act count timer =
      if w.inward.unread = [] then
        match w.inward.ends? with
        | some ending => .broken (ending.failure act)
        | none => if expired l.now timer.due then .broken (.timeout act) else .nothing
      else .read act (w.inward.unread.take count) := by
  rw [readingSight, found]
  by_cases empty : w.inward.unread = []
  · rw [if_pos empty]
    simp only [Pipe.found_of_empty empty]
    rcases w.inward.ends? with _ | ending
    · rfl
    · cases ending with
      | eof => rfl
      | fault e =>
        simp only
        rw [StreamEnd.failure_fault]
  · rw [if_neg empty]
    simp only [Pipe.found_of_some empty]

/-- What a handshake finds at instant `k` that waits for an act. -/
inductive Awaited (s : Schedule) (act : Act) (size due k : Nat) : Sight → Prop
  | more (bytes : Bytes) : Awaited s act size due k (.read act bytes)
  /-- Waiting is over. -/
  | fails (failure : Failure) (failed : s.gist.wait act (s.arrival size) due = .error (failure, k)) :
    Awaited s act size due k (.broken failure)
  /-- It will go on at the next instant. -/
  | still (awaits : s.Awaits size due (k + 1)) : Awaited s act size due k .nothing

theorem readingSight_awaited (awaits : s.Awaits size due k) (carries : s.Carries (k + 1) t w)
    (now : l.now = start + k) (timed : timer.due = start + due)
    (found : l.wires.find? stream = some w) (short : (t.one ++ t.three).length < size)
    (act : Act) (count : Nat) :
    Awaited s act size due k (l.readingSight stream act count timer) := by
  rw [readingSight_found found]
  by_cases empty : w.inward.unread = []
  · rw [if_pos empty]
    have read := carries.read
    rw [empty, List.append_nil] at read
    rw [read] at short
    have ends := carries.ends
    rw [(Schedule.ending_succ awaits.going).2] at ends
    rw [ends]
    cases hends : s.ending.filter (·.1 = k) with
    | some e =>
      obtain ⟨hending, hnow⟩ := Option.filter_eq_some_iff.1 hends
      have hending : s.ending = some (k, e.2) := by
        rw [← of_decide_eq_true hnow]
        exact hending
      exact .fails _ (awaits.wait_ended act short hending)
    | none =>
      have going : ∀ e ∈ s.ending, k < e.1 := by
        intro e he
        have notNow := Option.filter_eq_none_iff.1 hends e he
        have notBefore := awaits.going e he
        simp only [decide_eq_true_eq] at notNow
        omega
      have late_iff : expired l.now timer.due = true ↔ due ≤ k := by
        rw [expired, decide_eq_true_eq, now, timed]
        omega
      simp only [Option.map_none]
      split
      · exact .fails _ (awaits.wait_late act short going (late_iff.1 ‹_›))
      · exact .still ⟨short, going, Nat.not_le.1 (mt late_iff.2 ‹_›)⟩
  · rw [if_neg empty]
    exact .more _

theorem awaited_one {machine : Machine} {got : Bytes}
    (sofar : Sofar S r t (.readOne machine got timer)) (awaits : s.Awaits keyActSize d k)
    (timed : timer.due = start + d) (carries : s.Carries (k + 1) t w) (now : l.now = start + k)
    (found : l.wires.find? stream = some w) :
    Awaited s .one keyActSize d k
      (l.readingSight stream .one (keyActSize - got.length) timer) := by
  refine readingSight_awaited awaits carries now timed found ?_ .one _
  cases sofar with
  | readOne _ _ _ short =>
    rw [List.append_nil]
    exact short

theorem awaited_three {machine : Machine} {got : Bytes}
    (sofar : Sofar S r t (.readThree machine got timer))
    (awaits : s.Awaits (keyActSize + staticActSize) due k) (timed : timer.due = start + due)
    (carries : s.Carries (k + 1) t w) (now : l.now = start + k)
    (found : l.wires.find? stream = some w) :
    Awaited s .three (keyActSize + staticActSize) due k
      (l.readingSight stream .three (staticActSize - got.length) timer) := by
  refine readingSight_awaited awaits carries now timed found ?_ .three _
  cases sofar with
  | readThree one _ _ _ _ _ _ short =>
    rw [List.length_append, one.length_eq]
    exact Nat.add_lt_add_left short _

/-! ## Where a handshake stands -/

theorem find?_failActs (l : Listener) (id : Nat) (task : HandshakeTask) (failure : Failure) :
    (l.failActs id task failure).wires.find? task.stream =
      (l.wires.find? task.stream).map Wire.closeGate := by
  have closed : (l.rejectActs id task failure).wires.find? task.stream =
      (l.wires.find? task.stream).map Wire.closeGate :=
    (find?_onWire l task.stream Wire.closeGate task.stream).trans (if_pos rfl)
  rcases failActs_cases l id task failure with ⟨_, heq⟩ | ⟨_, heq⟩
  · rw [heq]
    exact closed
  · rw [heq]
    exact closed

/-- Where reading breaks the acts fail, and nothing was written. -/
theorem readAct_broken {got : Bytes} {more : Listener → Bytes → Listener}
    {full : Listener → Octets size → Listener}
    (step : l.readAct id task act size got timer more full = some l')
    (broken : l.readingSight task.stream act (size - got.length) timer = .broken failure)
    (found : l.wires.find? task.stream = some w) :
    ∃ wires w₁, l' = { l with wires }.failActs id task failure ∧
      wires.find? task.stream = some w₁ ∧ w₁.outward = w.outward := by
  unfold readAct at step
  unfold readingSight at broken
  simp only [found] at step broken
  have updated : ∀ inward : Pipe,
      (l.wires.update task.stream { w with inward }).find? task.stream = some { w with inward } :=
    fun inward => find?_withWire found
  split at step
  · rename_i read
    rw [read] at broken
    cases broken
  · rename_i e read
    rw [read] at broken
    cases broken
    cases step
    exact ⟨_, _, rfl, updated _, rfl⟩
  · rename_i read
    rw [read] at broken
    cases broken
    cases step
    exact ⟨_, _, rfl, updated _, rfl⟩
  · rename_i read
    rw [read] at broken
    simp only at broken
    split at step
    · rename_i late
      rw [if_pos late] at broken
      cases broken
      cases step
      exact ⟨_, _, rfl, found, rfl⟩
    · cases step

/-- The acts of a handshake that began at `start` go on at instant `k`. -/
inductive Stands (s : Schedule) (d start k : Nat) : Phase → Prop
  | spawned (first : k = 0) : Stands s d start k .spawned
  | readOne (machine : Machine) (got : Bytes) (timer : Timer) (timed : timer.due = start + d)
      (awaits : s.Awaits keyActSize d k) : Stands s d start k (.readOne machine got timer)
  | writeTwo (machine : Machine) (left : Bytes) (awaits : s.Awaits keyActSize d k)
      (whole : keyActSize ≤ (s.before (k + 1)).length) : Stands s d start k (.writeTwo machine left)
  | wroteTwo (machine : Machine) (awaits : s.Awaits keyActSize d k)
      (whole : keyActSize ≤ (s.before (k + 1)).length) : Stands s d start k (.wroteTwo machine)
  | readThree (machine : Machine) (got : Bytes) (timer : Timer) (written : Nat)
      (whole : s.gist.wait .one s.gist.one d = .ok written)
      (timed : timer.due = start + (written + d))
      (awaits : s.Awaits (keyActSize + staticActSize) (written + d) k) :
    Stands s d start k (.readThree machine got timer)

/-- The acts of a handshake are over, with this to show for them, before instant `n`. -/
structure Over (s : Schedule) (n : Nat) (answer : Answer) (course : Course) (written : Bytes) :
    Prop where
  judged : course = answer.course
  instant : answer.instant < n
  written : written = answer.written
  /-- Nothing is written before act one is there. -/
  whole : answer.written = [] ∨ keyActSize ≤ (s.before n).length

theorem Over.done {n : Nat} {answer : Answer} {course : Course} {written : Bytes}
    (shown : Over s n answer course written) : course ≠ .going := by
  rw [shown.judged, Answer.course]
  split <;> exact Course.noConfusion

/-- Where a handshake stands at instant `k`, on whose stream everything has arrived that comes before
    instant `n`. -/
inductive Place (S : Suite) (r : Identity) (s : Schedule) (d start id stream : Nat)
    (peer : SocketAddress) (k n : Nat) (l : Listener) (t : Transcript) : Prop
  | acting (task : HandshakeTask) (w : Wire) (held : l.tasks.find? id = some task)
      (peer_eq : task.peer = peer) (sofar : Sofar S r t task.phase)
      (stands : Stands s d start k task.phase) (found : l.wires.find? stream = some w)
      (carries : s.Carries n t w)
  | settled (w : Wire) (found : l.wires.find? stream = some w)
      (shown : Over s n (s.gist.answer S r d t.draw) (verdict S r t) w.outward.unread)
      (submitted : l.handoff.submittedBy id =
        [(s.gist.answer S r d t.draw).outcome id stream peer])

section Own

variable {l₁ : Listener} {w₁ : Wire} {written : Bytes}

/-- The acts have failed. -/
theorem Place.failed (l₁ : Listener) (silent : l₁.handoff.submittedBy id = [])
    (found : l₁.wires.find? task.stream = some w₁)
    (answer : s.gist.answer S r d t.draw = ⟨.error failure, k, written⟩)
    (judged : verdict S r t = .failed failure) (unread : w₁.outward.unread = written)
    (whole : written = [] ∨ keyActSize ≤ (s.before (k + 1)).length) :
    Place S r s d start id task.stream peer k (k + 1) (l₁.failActs id task failure) t := by
  have submits : failure ≠ .closed := by
    rintro rfl
    have never := (s.gist.answer_le (S := S) r d t.draw).2
    rw [answer] at never
    exact never rfl
  refine .settled w₁.closeGate ?_ ?_ ?_
  · rw [find?_failActs, found]
    rfl
  · rw [answer, judged, Wire.unread_closeGate]
    exact ⟨rfl, Nat.lt_succ_self k, unread, whole⟩
  · have same : (l₁.rejectActs id task failure).handoff = l₁.handoff :=
      congrArg Core.handoff (core_rejectActs l₁ id task failure)
    rw [answer, ((failActs_cases l₁ id task failure).resolve_left fun h => submits h.1).2]
    exact submittedBy_submitOutcome (by rw [same]; exact silent) task _

/-- The acts go on. -/
theorem Place.going (l₁ : Listener) {phase : Phase} (held : l₁.tasks.find? id = some task)
    (peer_eq : task.peer = peer) (sofar : Sofar S r t phase) (stands : Stands s d start k phase)
    (found : l₁.wires.find? stream = some w₁) (carries : s.Carries n t w₁) :
    Place S r s d start id stream peer k n (l₁.setPhase id task phase) t :=
  .acting { task with phase } w₁ (find?_setPhase held phase) peer_eq sofar stands found carries

/-- Act one is there: it is refused, or act two is on its way. -/
theorem place_takeActOne {one : Octets keyActSize} (held : l.tasks.find? id = some task)
    (peer_eq : task.peer = peer) (silent : l.handoff.submittedBy id = [])
    (found : l.wires.find? task.stream = some w)
    (carries : s.Carries (k + 1) { one := one.bytes, draw := l.chance.takeSecret.1 } w)
    (awaits : s.Awaits keyActSize d k) :
    Place S r s d start id task.stream peer k (k + 1)
      (l.takeActOne S id task (Machine.responder S r) one)
      { one := one.bytes, draw := l.chance.takeSecret.1 } := by
  obtain ⟨length, actOne⟩ := carries.actOne rfl
  have whole : s.gist.wait .one s.gist.one d = .ok k := awaits.wait_whole .one length
  rcases takeActOne_cases (S := S) l id task (Machine.responder S r) one with
    ⟨e, m, refused, htake⟩ | ⟨m₁, accepted, ⟨e, m₂, failed, htake⟩ | ⟨two, m₂, sent, htake⟩⟩
  · rw [htake]
    exact .failed _ silent found (Gist.answer_of_refused whole (actOne ▸ refused))
      (verdict_refusedOne refused _) carries.written (.inl rfl)
  · rw [htake]
    exact .failed { l with chance := l.chance.takeSecret.2 } silent found
      (Gist.answer_of_unanswered whole (actOne ▸ accepted) failed)
      (verdict_unanswered accepted failed) carries.written (.inl rfl)
  · rw [htake]
    have answered : Answered S r one l.chance.takeSecret.1 two m₂ := ⟨m₁, accepted, sent⟩
    exact .going { l with chance := l.chance.takeSecret.2 } held peer_eq answered.begin
      (.writeTwo m₂ two.bytes awaits length) found carries

/-- Act three is there: it is refused, or the connection is secured. -/
theorem place_takeActThree {one two : Octets keyActSize} {three : Octets staticActSize}
    {draw : Secret} {machine : Machine} {writtenAt : Nat}
    (answered : Answered S r one draw two machine) (peer_eq : task.peer = peer)
    (silent : l.handoff.submittedBy id = []) (found : l.wires.find? task.stream = some w)
    (carries : s.Carries (k + 1)
      { one := one.bytes, draw, two := two.bytes, three := three.bytes } w)
    (whole : s.gist.wait .one s.gist.one d = .ok writtenAt)
    (awaits : s.Awaits (keyActSize + staticActSize) (writtenAt + d) k) :
    Place S r s d start id task.stream peer k (k + 1) (l.takeActThree S id task machine three)
      { one := one.bytes, draw, two := two.bytes, three := three.bytes } := by
  obtain ⟨length, actThree⟩ := carries.actThree rfl rfl
  obtain ⟨length', actOne⟩ := carries.actOne rfl
  have there : s.gist.wait .three s.gist.three (writtenAt + d) = .ok k :=
    awaits.wait_whole .three length
  have answer : s.gist.answer S r d draw = s.gist.conclude S machine two.bytes (writtenAt + d) :=
    Gist.answer_of_answered whole (actOne ▸ answered)
  have judged := verdict_of_answered answered two.bytes three.bytes none
  rw [if_neg (not_not_intro rfl), Octets.ofBytes?_bytes] at judged
  simp only at judged
  rcases takeActThree_cases (S := S) l id task machine three with
    ⟨e, m, refused, htake⟩ | ⟨m, accepted, ⟨nameless, htake⟩ | ⟨remote, named, htake⟩⟩
  · simp only [refused] at judged
    rw [htake]
    exact .failed _ silent found
      (answer.trans (Gist.conclude_of_refused there (actThree ▸ refused))) judged carries.written
      (.inr length')
  · simp only [accepted, nameless] at judged
    rw [htake]
    exact .failed _ silent found
      (answer.trans (Gist.conclude_of_nameless there (actThree ▸ accepted) nameless)) judged
      carries.written (.inr length')
  · simp only [accepted, named] at judged
    have secured : s.gist.answer S r d draw = ⟨.ok (m, remote), k, two.bytes⟩ :=
      answer.trans (Gist.conclude_of_accepted there (actThree ▸ accepted) named)
    rw [htake]
    refine .settled w found ?_ ?_
    · rw [judged, secured]
      exact ⟨rfl, Nat.lt_succ_self k, carries.written, .inr length'⟩
    · rw [secured, ← peer_eq]
      exact submittedBy_submitOutcome silent task _

/-- Waiting for an act ends in a failure. -/
theorem place_broken (unfired : l.fired = false) (now : l.now = start + k)
    (held : l.tasks.find? id = some task) (silent : l.handoff.submittedBy id = [])
    (sofar : Sofar S r t task.phase) (stands : Stands s d start k task.phase)
    (found : l.wires.find? task.stream = some w) (carries : s.Carries (k + 1) t w)
    (step : l.stepTask S id = some l') (broken : l.sight task = .broken failure) :
    Place S r s d start id task.stream peer k (k + 1) l' { t with cut := some failure } := by
  have going : ¬ l.fired = true := Bool.eq_false_iff.1 unfired
  have judged : verdict S r { t with cut := some failure } = .failed failure :=
    sofar.verdict_cut (some failure)
  unfold stepTask at step
  simp only [held] at step
  rw [sight] at broken
  generalize task.phase = phase at sofar stands step broken
  cases stands with
  | spawned =>
    simp only [if_neg going] at broken
    cases broken
  | wroteTwo =>
    simp only [if_neg going] at broken
    cases broken
  | writeTwo machine left =>
    simp only [if_neg going] at broken
    rw [writingSight, found] at broken
    simp only [Pipe.write_of_roomy carries.willing carries.unlimited] at broken
    cases broken
  | readOne machine got timer timed awaits =>
    simp only [if_neg going] at broken step
    obtain ⟨wires, w₁, rfl, found₁, same⟩ := readAct_broken step broken found
    have awaited := awaited_one sofar awaits timed carries now found
    rw [broken] at awaited
    cases awaited with
    | fails _ failed =>
      cases sofar
      exact .failed _ silent found₁ (Gist.answer_of_error failed) judged
        (by rw [same]; exact carries.written) (.inl rfl)
  | readThree machine got timer writtenAt whole timed awaits =>
    simp only [if_neg going] at broken step
    obtain ⟨wires, w₁, rfl, found₁, same⟩ := readAct_broken step broken found
    have awaited := awaited_three sofar awaits timed carries now found
    rw [broken] at awaited
    cases awaited with
    | fails _ failed =>
      cases sofar with
      | readThree one draw two _ _ _ answered =>
        obtain ⟨length, actOne⟩ := carries.actOne rfl
        exact .failed _ silent found₁
          ((Gist.answer_of_answered whole (actOne ▸ answered)).trans
            (Gist.conclude_of_error failed))
          judged (by rw [same]; exact carries.written) (.inr length)

/-- **A handshake's own step.**  It goes on as the schedule has it, or comes to the answer. -/
theorem place_stepTask (timeout : l.settings.timeout = d) (identity : l.settings.identity = r)
    (unfired : l.fired = false) (now : l.now = start + k) (held : l.tasks.find? id = some task)
    (peer_eq : task.peer = peer) (silent : l.handoff.submittedBy id = [])
    (sofar : Sofar S r t task.phase) (stands : Stands s d start k task.phase)
    (found : l.wires.find? task.stream = some w) (carries : s.Carries (k + 1) t w)
    (step : l.stepTask S id = some l') :
    Place S r s d start id task.stream peer k (k + 1) l'
      (t.see l.chance.takeSecret.1 (l.sight task)) := by
  have shutless : ∀ {p : Prop}, l.fired = true → p :=
    fun fired => absurd (unfired.symm.trans fired) Bool.false_ne_true
  have stepped := stepTask_spec held step
  generalize hsight : l.sight task = sight at stepped ⊢
  cases stepped with
  | aborts _ fired => exact shutless fired
  | shut _ fired => exact shutless fired
  | begins phase_eq =>
    rw [phase_eq] at sofar stands
    cases stands with
    | spawned first =>
      subst first
      refine .going _ held peer_eq (identity ▸ sofar.begin _) (.readOne _ _ _ ?_ ⟨?_, ?_, ?_⟩) found
        carries
      · show l.now + l.settings.timeout = start + d
        rw [now, timeout]
        omega
      · rw [Schedule.before_zero]
        exact Nat.succ_pos _
      · exact fun e _ => Nat.zero_le e.1
      · exact Nat.zero_le d
  | breaks failure =>
    exact place_broken unfired now held silent sofar stands found carries step hsight
  | readsOne machine got bytes timer wire inward phase_eq going found' read short =>
    obtain rfl : w = wire := Option.some.inj (found.symm.trans found')
    rw [phase_eq] at sofar stands
    cases stands with
    | readOne _ _ _ timed awaits =>
      refine .going _ held peer_eq (sofar.readOn _ (Pipe.read_eq_bytes read).2 short)
        (.readOne _ _ _ timed awaits) (find?_withWire found) (carries.takes read ?_ rfl)
      cases sofar with
      | readOne => simp [Transcript.see]
  | takesOne machine got bytes timer wire inward act phase_eq going found' read full =>
    obtain rfl : w = wire := Option.some.inj (found.symm.trans found')
    rw [phase_eq] at sofar stands
    obtain ⟨rfl, hsee⟩ := sofar.complete l.chance.takeSecret.1 full
    have taken : s.Carries (k + 1) (t.see l.chance.takeSecret.1 (.read .one bytes))
        { w with inward } := carries.takes read
      (by cases sofar with | readOne => simp [Transcript.see]) rfl
    rw [hsee] at taken ⊢
    cases stands with
    | readOne _ _ _ timed awaits =>
      exact place_takeActOne held peer_eq silent (find?_withWire found) taken awaits
  | writes machine left rest wire outward phase_eq going found' written =>
    obtain rfl : w = wire := Option.some.inj (found.symm.trans found')
    rw [phase_eq] at sofar stands
    rw [Pipe.write_of_roomy carries.willing carries.unlimited] at written
    cases written
    have all : left.take (left.length - ([] : Bytes).length) = left := List.take_length
    rw [all]
    have next := sofar.writeOn l.chance.takeSecret.1 (List.append_nil left).symm
    rw [if_pos rfl] at next ⊢
    cases stands with
    | writeTwo _ _ awaits whole =>
      exact .going _ held peer_eq next (.wroteTwo _ awaits whole) (find?_withWire found)
        (carries.puts rfl rfl)
  | awaits machine phase_eq going =>
    rw [phase_eq] at sofar stands
    cases stands with
    | wroteTwo _ awaits whole =>
      refine .going _ held peer_eq (sofar.await _)
        (.readThree _ _ _ k (awaits.wait_whole .one whole) ?_
          ⟨?_, awaits.going, Nat.le_add_right k d⟩) found carries
      · show l.now + l.settings.timeout = start + (k + d)
        rw [now, timeout]
        omega
      · exact Nat.lt_of_lt_of_le awaits.short (Nat.le_add_right _ _)
  | readsThree machine got bytes timer wire inward phase_eq going found' read short =>
    obtain rfl : w = wire := Option.some.inj (found.symm.trans found')
    rw [phase_eq] at sofar stands
    cases stands with
    | readThree _ _ _ _ whole timed awaits =>
      refine .going _ held peer_eq (sofar.readFurther _ (Pipe.read_eq_bytes read).2 short)
        (.readThree _ _ _ _ whole timed awaits) (find?_withWire found) (carries.takes read ?_ rfl)
      simp [Transcript.see]
  | takesThree machine got bytes timer wire inward act phase_eq going found' read full =>
    obtain rfl : w = wire := Option.some.inj (found.symm.trans found')
    rw [phase_eq] at sofar stands
    have taken : s.Carries (k + 1) (t.see l.chance.takeSecret.1 (.read .three bytes))
        { w with inward } := carries.takes read
      (by simp [Transcript.see]) rfl
    have bytes_eq := Octets.ofBytes?_eq_some_iff.1 full
    cases stands with
    | readThree _ _ _ _ whole timed awaits =>
      cases sofar with
      | readThree one draw two _ _ _ answered =>
        have hsee : Transcript.see { one := one.bytes, draw, two := two.bytes, three := got }
            l.chance.takeSecret.1 (.read .three bytes) =
              { one := one.bytes, draw, two := two.bytes, three := act.bytes } := by
          rw [← bytes_eq]
          rfl
        rw [hsee] at taken ⊢
        exact place_takeActThree answered peer_eq silent (find?_withWire found) taken whole awaits
  | holds handoff reporting => exact absurd reporting sofar.ne_reporting
  | delivers handoff reporting => exact absurd reporting sofar.ne_reporting
  | drops outcome handoff reporting => exact absurd reporting sofar.ne_reporting

/-- A handshake that has no step to take waits for an act, at the next instant too. -/
theorem stands_of_idle (unfired : l.fired = false) (now : l.now = start + k)
    (held : l.tasks.find? id = some task) (sofar : Sofar S r t task.phase)
    (stands : Stands s d start k task.phase) (found : l.wires.find? task.stream = some w)
    (carries : s.Carries (k + 1) t w) (idle : l.stepTask S id = none) :
    Stands s d start (k + 1) task.phase := by
  have going : ¬ l.fired = true := Bool.eq_false_iff.1 unfired
  have nothing := sight_of_stepTask_eq_none held idle
  unfold stepTask at idle
  simp only [held] at idle
  rw [sight] at nothing
  generalize task.phase = phase at sofar stands idle nothing
  cases stands with
  | spawned => cases idle
  | wroteTwo => cases idle
  | writeTwo machine left =>
    simp only [if_neg going] at nothing
    rw [writingSight, found] at nothing
    simp only [Pipe.write_of_roomy carries.willing carries.unlimited] at nothing
    cases nothing
  | readOne machine got timer timed awaits =>
    simp only [if_neg going] at nothing
    have awaited := awaited_one sofar awaits timed carries now found
    rw [nothing] at awaited
    cases awaited with
    | still awaits => exact .readOne _ _ _ timed awaits
  | readThree machine got timer writtenAt whole timed awaits =>
    simp only [if_neg going] at nothing
    have awaited := awaited_three sofar awaits timed carries now found
    rw [nothing] at awaited
    cases awaited with
    | still awaits => exact .readThree _ _ _ _ whole timed awaits

/-- A handshake that hands its outcome over submits nothing more. -/
theorem submittedBy_report {sight : Sight} (nothing : sight = .nothing)
    (reporting : task.phase = .reporting) (stepped : TaskStepped S l id task sight l') :
    l'.handoff.submittedBy id = l.handoff.submittedBy id := by
  have hphase : ∀ {phase : Phase}, task.phase = phase → phase = .reporting :=
    fun h => h.symm.trans reporting
  subst nothing
  cases stepped with
  | holds handoff _ polled => exact (quiet_of_polled polled).submitted id
  | delivers handoff _ polled => exact (quiet_of_polled polled).submitted id
  | drops outcome handoff _ _ polled =>
    have same : ({ l with handoff }.dropOutcome outcome).handoff = handoff :=
      congrArg Core.handoff (core_dropOutcome { l with handoff } outcome)
    show ({ l with handoff }.dropOutcome outcome).handoff.submittedBy id = _
    rw [same]
    exact (quiet_of_polled polled).submitted id
  | begins phase_eq => cases hphase phase_eq
  | awaits _ phase_eq => cases hphase phase_eq

end Own

/-! ## Along a run -/

/-- An event that neither closes the listener nor comes from the peer or the network to a stream. -/
def Event.Spares (stream : Nat) (e : Event) : Prop :=
  e ≠ .trigger ∧ e ≠ .closeSocket ∧ ¬ e.Names stream

/-- Along every such event the handshake goes on meeting with things, and nobody else gets on its
    stream. -/
theorem Attended.heard (attended : Attended S r l stream (some id) t) {e : Event}
    (spares : e.Spares stream) : Attended S r (l.apply S e) stream (some id) (l.heard id t e) := by
  obtain ⟨quiet, _, unnamed⟩ := spares
  obtain ⟨ts, told, rfl⟩ := attended.told
  have sole := (attended.sole.apply S unnamed).resolve_right fun ⟨h, _⟩ => by cases h
  exact ⟨(congrArg ListenerSettings.identity (settings_apply S l e)).trans attended.identity,
    (fired_apply S l quiet).trans attended.unfired, attended.orderly.apply e, sole, _,
    told_apply told e, rfl⟩

theorem Attended.taken (attended : Attended S r l stream (some id) t) : l.Taken id :=
  attended.orderly.numbered.old id _ ((attended.sole.named id).2 rfl)

/-- As long as the acts go on nothing is submitted. -/
theorem Told.silent (told : Told S id l t) (taken : l.Taken id)
    (going : verdict S l.settings.identity t = .going) : l.handoff.submittedBy id = [] := by
  cases told with
  | untaken notTaken => exact absurd taken notTaken
  | inActs _ unsettled => exact unsettled.silent
  | settled _ _ _ _ judged done => exact absurd (judged.symm.trans going) done

/-- What the peer does is done on the stream. -/
theorem run_wires (S : Suite) (l : Listener) (stream : Nat) (changes : List Wire.Change) :
    (l.run S (changes.map (.wire stream))).core = l.core ∧
      (l.run S (changes.map (.wire stream))).now = l.now ∧
      (l.run S (changes.map (.wire stream))).wires.find? stream =
        (l.wires.find? stream).map fun w => changes.foldl Wire.change w := by
  induction changes generalizing l with
  | nil => exact ⟨rfl, rfl, by cases h : l.wires.find? stream <;> exact h⟩
  | cons c changes ih =>
    obtain ⟨core, now, wires⟩ := ih (l.onWire stream (·.change c))
    refine ⟨core.trans (core_onWire l stream _), now.trans (now_onWire l stream _), ?_⟩
    refine wires.trans ?_
    rw [find?_onWire, if_pos rfl, Option.map_map]
    rfl

theorem Attended.run_wires {owner : Option Nat} (attended : Attended S r l stream owner t)
    (changes : List Wire.Change) :
    Attended S r (l.run S (changes.map (.wire stream))) stream owner t := by
  induction changes generalizing l with
  | nil => exact attended
  | cons c changes ih => exact ih (attended.onWire stream _)

/-- A handshake that began at `start` does what the schedule says: it is instant `k`, and on its
    stream everything has arrived that comes before instant `n`. -/
structure OnSchedule (S : Suite) (r : Identity) (s : Schedule) (d start id stream : Nat)
    (peer : SocketAddress) (k n : Nat) (l : Listener) (t : Transcript) : Prop where
  attended : Attended S r l stream (some id) t
  timeout : l.settings.timeout = d
  now : l.now = start + k
  place : Place S r s d start id stream peer k n l t

/-- A handshake has not begun its acts, or is at them, and has a step to take. -/
def Behind (S : Suite) (l : Listener) (id : Nat) : Prop :=
  ∃ task, l.tasks.find? id = some task ∧ task.phase ≠ .reporting ∧ (l.stepTask S id).isSome = true

namespace OnSchedule

/-- When the acts are over the handshake hands its outcome over, if it is still there. -/
theorem reporting (on : OnSchedule S r s d start id stream peer k n l t) {answer : Answer}
    {written : Bytes} (shown : Over s n answer (verdict S r t) written)
    (held : l.tasks.find? id = some task) : task.phase = .reporting := by
  refine on.attended.told_owner.reporting ?_ held
  rw [on.attended.identity]
  exact shown.done

/-- Whatever else happens leaves the handshake where it stands. -/
theorem other (on : OnSchedule S r s d start id stream peer k n l t) {e : Event}
    (spares : e.Spares stream) (other : e ≠ .step (.task id)) {k' : Nat}
    (later : k' = k + e.elapsed)
    (stands : ∀ task, l.tasks.find? id = some task → Stands s d start k task.phase →
      Stands s d start k' task.phase) :
    OnSchedule S r s d start id stream peer k' n (l.apply S e) t := by
  have attended := on.attended.heard spares
  rw [heard_of_other l t other] at attended
  have apart : Apart id l (l.apply S e) := apart_apply S on.attended.taken other
  have kept : Attended.Kept S r t (l.wires.find? stream) ((l.apply S e).wires.find? stream) := by
    rcases on.attended.apply spares with ⟨k, howner, he, _⟩ | ⟨_, kept⟩
    · cases howner
      exact absurd he other
    · exact kept
  refine ⟨attended, (congrArg ListenerSettings.timeout (settings_apply S l e)).trans on.timeout,
    ?_, ?_⟩
  · rw [now_apply, on.now, later]
    omega
  · cases on.place with
    | acting task w held peer_eq sofar standing found carries =>
      cases kept with
      | same same =>
        exact .acting task w (apart.held.trans held) peer_eq sofar (stands task held standing)
          (same.trans found) carries
      | dropped done => exact absurd sofar.going done
    | settled w found shown submitted =>
      have submitted := apart.submitted.trans submitted
      cases kept with
      | same same => exact .settled w (same.trans found) shown submitted
      | dropped _ closed =>
        refine .settled w.closeGate ?_ ?_ submitted
        · rw [closed, found]
          rfl
        · rw [Wire.unread_closeGate]
          exact shown

/-- The handshake takes its turn. -/
theorem own (on : OnSchedule S r s d start id stream peer k (k + 1) l t) :
    OnSchedule S r s d start id stream peer k (k + 1) (l.apply S (.step (.task id)))
      (l.heard id t (.step (.task id))) := by
  have spares : Event.Spares stream (.step (.task id)) := ⟨nofun, nofun, fun h => h⟩
  have attended := on.attended.heard spares
  refine ⟨attended, (congrArg ListenerSettings.timeout (settings_apply S l _)).trans on.timeout,
    (now_apply S l _).trans on.now, ?_⟩
  have told := on.attended.told_owner
  have identity := on.attended.identity
  rcases apply_own S l id t with ⟨_, same, unheard⟩ | ⟨task, l', held, step, happly, heard⟩
  · rw [same, unheard]
    exact on.place
  · have stream_eq := on.attended.sole.stream_eq on.attended.orderly held
    cases on.place with
    | acting task' w held' peer_eq sofar stands found carries =>
      obtain rfl : task' = task := Option.some.inj (held'.symm.trans held)
      have silent := told.silent on.attended.taken (by rw [identity]; exact sofar.going)
      rw [happly, heard]
      subst stream_eq
      exact place_stepTask on.timeout identity on.attended.unfired on.now held peer_eq silent sofar
        stands found carries step
    | settled w found shown submitted =>
      have done : verdict S l.settings.identity t ≠ .going := by
        rw [identity]
        exact shown.done
      have stepped := stepTask_spec held step
      have reporting := on.reporting shown held
      have nothing : l.sight task = .nothing := by
        rw [sight, reporting]
      obtain ⟨wires, _⟩ := told.report_of_open done held on.attended.isOpen stepped
      rw [happly, told.heard_eq done]
      exact .settled w (wires ▸ found) shown
        ((submittedBy_report nothing reporting stepped).trans submitted)

/-- Time goes on when the handshake has kept up. -/
theorem pass (on : OnSchedule S r s d start id stream peer k (k + 1) l t)
    (current : ¬ l.Behind S id) :
    OnSchedule S r s d start id stream peer (k + 1) (k + 1) (l.apply S (.advance 1)) t := by
  have spares : Event.Spares stream (.advance 1) := ⟨nofun, nofun, fun h => h⟩
  refine on.other spares nofun rfl fun task held stands => ?_
  cases on.place with
  | acting task' w held' _ sofar _ found carries =>
    obtain rfl : task' = task := Option.some.inj (held'.symm.trans held)
    have idle : l.stepTask S id = none := by
      by_contra step
      exact current ⟨task', held, sofar.ne_reporting, Option.isSome_iff_ne_none.2 step⟩
    have stream_eq := on.attended.sole.stream_eq on.attended.orderly held
    subst stream_eq
    exact stands_of_idle on.attended.unfired on.now held sofar stands found carries idle
  | settled w found shown =>
    rw [on.reporting shown held] at stands
    cases stands

/-- Before an instant begins a handshake at its acts waits for an act. -/
theorem going_of_stands {phase : Phase} (stands : Stands s d start k phase) :
    ∀ e ∈ s.ending, k ≤ e.1 := by
  cases stands with
  | spawned first =>
    subst first
    exact fun e _ => Nat.zero_le e.1
  | readOne _ _ _ _ awaits => exact awaits.going
  | writeTwo _ _ awaits => exact awaits.going
  | wroteTwo _ awaits => exact awaits.going
  | readThree _ _ _ _ _ _ awaits => exact awaits.going

/-- What the peer does at an instant happens. -/
theorem arrive (on : OnSchedule S r s d start id stream peer k k l t) :
    OnSchedule S r s d start id stream peer k (k + 1)
      (l.run S ((s.changes k).map (.wire stream))) t := by
  obtain ⟨core, now, wires⟩ := run_wires S l stream (s.changes k)
  have attended := on.attended.run_wires (s.changes k)
  generalize l.run S ((s.changes k).map (.wire stream)) = l' at core now wires attended
  have apart : Apart id l l' := apart_of_core core
  refine ⟨attended, (congrArg ListenerSettings.timeout apart.settings).trans on.timeout,
    now.trans on.now, ?_⟩
  cases on.place with
  | acting task w held peer_eq sofar stands found carries =>
    rw [found] at wires
    exact .acting task _ (apart.held.trans held) peer_eq sofar stands wires
      (carries.arrive (going_of_stands stands))
  | settled w found shown submitted =>
    rw [found] at wires
    refine .settled _ wires ?_ (apart.submitted.trans submitted)
    rw [s.outward_changes k w]
    exact ⟨shown.judged, Nat.lt_succ_of_lt shown.instant, shown.written,
      shown.whole.imp_right fun whole => whole.trans (s.length_before_le_succ k)⟩

end OnSchedule

end Listener

end Gatehouse
