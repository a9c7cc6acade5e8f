import Gatehouse.Proofs.Encounter.Moves
import Gatehouse.Proofs.Handshake.Failures
import Gatehouse.Proofs.Handshake.Faults
import Gatehouse.Proofs.Handshake.Nonces
import Gatehouse.Proofs.Listener.Responding
import Gatehouse.Proofs.Noise.Laws

/-!
# The answer to every schedule

A handshake that is never behind comes to the answer to the schedule of its stream, at the instant
of the answer and not before (`answers_schedule`).  Whatever else is going on, it can always keep
up: it has only so many steps to take at an instant (`OnSchedule.catchUp`).
-/

namespace Gatehouse

/-! ## What is written -/

namespace Machine

variable {S : Suite} {m : Machine} {draw : Secret}

/-- Act two can be made of every draw with which the other side's key contributes. -/
theorem exists_actTwo_of_agreed (cipher : S.CipherLaws) {key : PublicKey} {shared : Key}
    (due : m.owes .responder .actTwo = true) (remote : m.remoteEphemeral = some key)
    (agreed : S.agree draw key = some shared) : ∃ two m', m.sendActTwo S draw = (.ok two, m') := by
  have made := sendKeyAct_spec cipher m.symmetric draw key
  simp only [agreed] at made
  obtain ⟨two, t, temp, made⟩ := made
  rw [sendActTwo, if_pos due, remote]
  simp only [made]
  exact ⟨_, _, rfl⟩

/-- Whoever has accepted act one can make act two of any draw. -/
theorem exists_actTwo (cipher : S.CipherLaws) (uniform : S.UniformAgreement) {r : Identity}
    {one : Octets keyActSize} (accepted : (responder S r).receiveActOne S one = (.ok (), m))
    (draw : Secret) : ∃ two m', m.sendActTwo S draw = (.ok two, m') := by
  have due : (responder S r).owes .responder .actOne = true := rfl
  have own : (responder S r).localStatic.secret = r.secret := rfl
  have taken := receiveKeyAct_spec (S := S) (responder S r).symmetric r.secret (KeyAct.ofOctets one)
  rw [receiveActOne, if_pos due, own] at accepted
  generalize receiveKeyAct S (responder S r).symmetric (some r.secret) (KeyAct.ofOctets one) =
    result at taken accepted
  cases taken with
  | unknownVersion => cases accepted
  | lowOrder => cases accepted
  | badTag => cases accepted
  | received s temp shared agreed =>
    cases accepted
    -- the key contributes with the static secret, so it does with the draw
    have contributes := uniform draw r.secret (KeyAct.ofOctets one).key
    rw [agreed] at contributes
    obtain ⟨shared', agreed'⟩ := Option.isSome_iff_exists.1 contributes
    exact exists_actTwo_of_agreed cipher rfl rfl agreed'

end Machine

namespace Gist

variable {S : Suite} {g : Gist} {r : Identity} {deadline : Nat} {m : Machine}

/-- The machine that has accepted act one, if that comes in time and is accepted. -/
def accepted? (S : Suite) (g : Gist) (r : Identity) (deadline : Nat) : Option Machine :=
  match g.wait .one g.one deadline with
  | .error _ => none
  | .ok _ =>
    match (Machine.responder S r).receiveActOne S g.actOne with
    | (.error _, _) => none
    | (.ok (), machine) => some machine

/-- What was written stays written. -/
theorem written_conclude (g : Gist) (machine : Machine) (written : Bytes) (due : Nat) :
    (g.conclude S machine written due).written = written := by
  unfold conclude
  split
  · rfl
  · split
    · rfl
    · split <;> rfl

/-- Nothing is written to a peer whose act one was not accepted. -/
theorem written_of_unaccepted (g : Gist) (unaccepted : g.accepted? S r deadline = none) (draw : Secret) :
    (g.answer S r deadline draw).written = [] := by
  unfold accepted? at unaccepted
  unfold answer
  split
  · rfl
  · rename_i k whole
    simp only [whole] at unaccepted
    split
    · rfl
    · rename_i accepted
      simp only [accepted] at unaccepted
      cases unaccepted

/-- To the others it is act two. -/
theorem written_of_accepted (g : Gist) (cipher : S.CipherLaws) (uniform : S.UniformAgreement)
    (accepted : g.accepted? S r deadline = some m) (draw : Secret) :
    ∃ two m', m.sendActTwo S draw = (.ok two, m') ∧
      (g.answer S r deadline draw).written = two.bytes := by
  unfold accepted? at accepted
  split at accepted
  · cases accepted
  · rename_i k whole
    split at accepted
    · cases accepted
    · rename_i m₁ hone
      cases accepted
      obtain ⟨two, m', sent⟩ := Machine.exists_actTwo cipher uniform hone draw
      refine ⟨two, m', sent, ?_⟩
      rw [answer_of_answered whole ⟨m, hone, sent⟩]
      exact g.written_conclude m' two.bytes (k + deadline)

end Gist

namespace Schedule

variable {s : Schedule}

/-- A handshake that waits for act three does not come to its end earlier. -/
theorem Awaits.le_conclude {due k : Nat} (awaits : s.Awaits (keyActSize + staticActSize) due k)
    (S : Suite) (machine : Machine) (written : Bytes) :
    k ≤ (s.gist.conclude S machine written due).instant := by
  obtain ⟨inTime, notInTime⟩ := awaits.le_wait .three
  unfold Gist.conclude
  split
  · exact notInTime _ _ ‹_›
  · have later := inTime _ ‹_›
    split
    · exact later
    · split <;> exact later

/-- Neither does one that waits for act one. -/
theorem Awaits.le_answer {d k : Nat} (awaits : s.Awaits keyActSize d k) (S : Suite) (r : Identity)
    (draw : Secret) : k ≤ (s.gist.answer S r d draw).instant := by
  obtain ⟨inTime, notInTime⟩ := awaits.le_wait .one
  unfold Gist.answer
  split
  · exact notInTime _ _ ‹_›
  · rename_i j whole
    have later := inTime _ whole
    split
    · exact later
    · split
      · exact later
      · -- act three is not there either, and has even more time
        have awaits' : s.Awaits (keyActSize + staticActSize) (j + d) k :=
          ⟨Nat.lt_of_lt_of_le awaits.short (Nat.le_add_right _ _), awaits.going,
            Nat.le_trans later (Nat.le_add_right j d)⟩
        exact awaits'.le_conclude S _ _

/-! ## A run on schedule -/

/-- What the peer does once the handshake is there: what comes at the beginning has come before. -/
def arrivals (s : Schedule) : Nat → List Wire.Change
  | 0 => []
  | k + 1 => s.changes (k + 1)

/-- What happens at an instant: what the peer does, then whatever else there is to be done, and then
    time goes on. -/
def instant (s : Schedule) (stream k : Nat) (doings : List Listener.Event) : List Listener.Event :=
  (s.arrivals k).map (.wire stream) ++ doings ++ [.advance 1]

/-- What happens from an instant on, with what else there is to be done at each. -/
def events (s : Schedule) (stream : Nat) : Nat → List (List Listener.Event) → List Listener.Event
  | _, [] => []
  | k, doings :: later => s.instant stream k doings ++ s.events stream (k + 1) later

/-- Whatever else is done from an instant on, it is nothing to the stream and takes no time, the
    shutdown does not come, and time goes on only when the handshake is not behind. -/
def Prompt (S : Suite) (s : Schedule) (id stream : Nat) :
    Nat → Listener → List (List Listener.Event) → Prop
  | _, _, [] => True
  | k, l, doings :: later =>
    (∀ e ∈ doings, e.Spares stream ∧ e.elapsed = 0) ∧
      ¬ (l.run S ((s.arrivals k).map (.wire stream) ++ doings)).Behind S id ∧
      Prompt S s id stream (k + 1) (l.run S (s.instant stream k doings)) later

end Schedule

namespace Listener

variable {S : Suite} {r : Identity} {s : Schedule} {l : Listener} {id stream start d k n : Nat}
  {t : Transcript} {peer : SocketAddress} {task : HandshakeTask}

/-- What is done on a stream shows a handshake nothing. -/
theorem transcript_wires (S : Suite) (id : Nat) (l : Listener) (stream : Nat)
    (changes : List Wire.Change) (t : Transcript) :
    transcript S id l (changes.map (.wire stream)) t = t := by
  induction changes generalizing l with
  | nil => rfl
  | cons c changes ih => exact ih (l.onWire stream (·.change c))

/-- Nothing but turns of the handshake. -/
theorem harmless_own (id stream steps : Nat) :
    ∀ e ∈ List.replicate steps (Event.step (.task id)), e.Spares stream ∧ e.elapsed = 0 := by
  intro e he
  obtain rfl := List.eq_of_mem_replicate he
  exact ⟨⟨nofun, nofun, fun h => h⟩, rfl⟩

instance (S : Suite) (l : Listener) (id : Nat) : Decidable (l.Behind S id) :=
  match held : l.tasks.find? id with
  | none => .isFalse fun ⟨_, found, _⟩ => nomatch held.symm.trans found
  | some task =>
    decidable_of_iff (task.phase ≠ .reporting ∧ (l.stepTask S id).isSome = true)
      ⟨fun h => ⟨task, held, h⟩, fun ⟨_, found, h⟩ =>
        Option.some.inj (found.symm.trans held) ▸ h⟩

namespace OnSchedule

/-- Whatever is done at an instant leaves the handshake on schedule. -/
theorem run_doings (on : OnSchedule S r s d start id stream peer k (k + 1) l t) {doings : List Event}
    (harmless : ∀ e ∈ doings, e.Spares stream ∧ e.elapsed = 0) :
    OnSchedule S r s d start id stream peer k (k + 1) (l.run S doings)
      (transcript S id l doings t) := by
  induction doings generalizing l t with
  | nil => exact on
  | cons e doings ih =>
    obtain ⟨spares, timeless⟩ := harmless e List.mem_cons_self
    have next : OnSchedule S r s d start id stream peer k (k + 1) (l.apply S e) (l.heard id t e) := by
      by_cases own : e = .step (.task id)
      · subst own
        exact on.own
      · rw [heard_of_other l t own]
        exact on.other spares own (by rw [timeless, Nat.add_zero]) fun _ _ stands => stands
    exact ih next fun e he => harmless e (List.mem_cons_of_mem _ he)

/-- What the peer does at an instant has happened, if it is not there at the beginning. -/
theorem arrived (on : OnSchedule S r s d start id stream peer k (max k 1) l t) :
    OnSchedule S r s d start id stream peer k (k + 1)
      (l.run S ((s.arrivals k).map (.wire stream))) t := by
  cases k with
  | zero => exact on
  | succ k =>
    rw [Nat.max_eq_left (Nat.succ_pos k)] at on
    exact on.arrive

/-- An instant goes by. -/
theorem run_instant (on : OnSchedule S r s d start id stream peer k (max k 1) l t)
    {doings : List Event} (harmless : ∀ e ∈ doings, e.Spares stream ∧ e.elapsed = 0)
    (current : ¬ (l.run S ((s.arrivals k).map (.wire stream) ++ doings)).Behind S id) :
    OnSchedule S r s d start id stream peer (k + 1) (max (k + 1) 1)
      (l.run S (s.instant stream k doings))
      (transcript S id l (s.instant stream k doings) t) := by
  have done := on.arrived.run_doings harmless
  rw [run_append] at current
  rw [Nat.max_eq_left (Nat.succ_pos k), Schedule.instant, run_append, run_append, transcript_append,
    transcript_append, transcript_wires, run_append]
  exact done.pass current

/-- **As long as the handshake keeps up it does what the schedule says.** -/
theorem run (on : OnSchedule S r s d start id stream peer k (max k 1) l t)
    {doings : List (List Event)} (prompt : s.Prompt S id stream k l doings) :
    OnSchedule S r s d start id stream peer (k + doings.length) (max (k + doings.length) 1)
      (l.run S (s.events stream k doings)) (transcript S id l (s.events stream k doings) t) := by
  induction doings generalizing k l t with
  | nil => exact on
  | cons now later ih =>
    obtain ⟨harmless, current, prompt⟩ := prompt
    have rest := ih (on.run_instant harmless current) prompt
    rw [Nat.add_right_comm] at rest
    rw [Schedule.events, run_append, transcript_append]
    exact rest

/-! ### Keeping up -/

/-- **A handshake can catch up at any time**: every step leaves less to do. -/
theorem catchUp (on : OnSchedule S r s d start id stream peer k (k + 1) l t) :
    ∃ steps, ¬ (l.run S (List.replicate steps (.step (.task id)))).Behind S id := by
  induction hleft : l.left id using Nat.strong_induction_on generalizing l t with
  | h left ih =>
    subst hleft
    by_cases behind : l.Behind S id
    · obtain ⟨task, held, acting, hstep⟩ := behind
      obtain ⟨l', step⟩ := Option.isSome_iff_exists.1 hstep
      have own := on.own
      have happly : l.apply S (.step (.task id)) = l' := congrArg (·.getD l) step
      rw [happly] at own
      have less : l'.left id < l.left id := by
        cases on.place with
        | acting task' _ held' _ sofar =>
          obtain rfl : task' = task := Option.some.inj (held'.symm.trans held)
          rw [← on.attended.identity] at sofar
          exact left_stepTask sofar held (stepTask_spec held step)
        | settled _ _ shown => exact absurd (on.reporting shown held) acting
      obtain ⟨steps, current⟩ := ih _ less own rfl
      refine ⟨steps + 1, ?_⟩
      rw [List.replicate_succ]
      show ¬ ((l.apply S (.step (.task id))).run S _).Behind S id
      rw [happly]
      exact current
    · exact ⟨0, behind⟩

/-- So it can keep up for any time. -/
theorem exists_prompt (on : OnSchedule S r s d start id stream peer k (max k 1) l t) (instants : Nat) :
    ∃ doings, doings.length = instants ∧ s.Prompt S id stream k l doings := by
  induction instants generalizing k l t with
  | zero => exact ⟨[], rfl, trivial⟩
  | succ instants ih =>
    obtain ⟨steps, current⟩ := on.arrived.catchUp
    rw [← run_append] at current
    have harmless := harmless_own id stream steps
    obtain ⟨later, length, prompt⟩ := ih (on.run_instant harmless current)
    exact ⟨_ :: later, congrArg Nat.succ length, harmless, current, prompt⟩

/-! ### What there is to show for it -/

/-- Before an instant, what was to be settled earlier is settled and nothing else is. -/
theorem submitted_eq (on : OnSchedule S r s d start id stream peer k k l t) :
    l.handoff.submittedBy id =
      if (s.gist.answer S r d t.draw).instant < k then
        [(s.gist.answer S r d t.draw).outcome id stream peer] else [] := by
  cases on.place with
  | settled w _ shown submitted => rw [submitted, if_pos shown.instant]
  | acting task w held _ sofar stands _ carries =>
    have silent := on.attended.told_owner.silent on.attended.taken
      (by rw [on.attended.identity]; exact sofar.going)
    rw [silent, if_neg (Nat.not_lt.2 ?_)]
    generalize task.phase = phase at sofar stands
    cases stands with
    | spawned first => exact first ▸ Nat.zero_le _
    | readOne _ _ _ _ awaits => exact awaits.le_answer S r t.draw
    | writeTwo _ _ awaits => exact awaits.le_answer S r t.draw
    | wroteTwo _ awaits => exact awaits.le_answer S r t.draw
    | readThree _ _ _ _ whole _ awaits =>
      cases sofar with
      | readThree one draw two _ _ _ answered =>
        rw [Gist.answer_of_answered whole ((carries.actOne rfl).2 ▸ answered)]
        exact awaits.le_conclude S _ _

/-- Before an instant, the answer is written if act one was there earlier. -/
theorem written_eq (on : OnSchedule S r s d start id stream peer k k l t) :
    ∃ w, l.wires.find? stream = some w ∧ w.outward.unread =
      if keyActSize ≤ (s.before k).length then (s.gist.answer S r d t.draw).written else [] := by
  cases on.place with
  | settled w found shown =>
    refine ⟨w, found, ?_⟩
    rw [shown.written]
    split
    · rfl
    · rename_i short
      exact shown.whole.resolve_right short
  | acting task w held _ sofar stands found carries =>
    refine ⟨w, found, carries.written.trans ?_⟩
    generalize task.phase = phase at sofar stands
    -- act one is not there before the instant at which it is taken
    have unwritten : (s.before k).length < keyActSize → t.one.length < keyActSize := by
      intro short
      have read := congrArg List.length carries.read
      simp only [List.length_append] at read
      omega
    cases stands with
    | spawned first =>
      cases sofar
      subst first
      rw [Schedule.before_zero, if_neg (by decide)]
    | readOne _ _ _ _ awaits =>
      cases sofar
      rw [if_neg (Nat.not_le.2 awaits.short)]
    | writeTwo _ _ awaits =>
      have short := unwritten awaits.short
      cases sofar with
      | writeTwo one =>
        rw [one.length_eq] at short
        exact absurd short (Nat.lt_irrefl _)
    | wroteTwo _ awaits =>
      have short := unwritten awaits.short
      cases sofar with
      | wroteTwo one =>
        rw [one.length_eq] at short
        exact absurd short (Nat.lt_irrefl _)
    | readThree _ _ _ _ whole =>
      cases sofar with
      | readThree one draw two _ _ _ answered =>
        obtain ⟨length, actOne⟩ := carries.actOne rfl
        rw [if_pos length, Gist.answer_of_answered whole (actOne ▸ answered)]
        exact (s.gist.written_conclude _ _ _).symm

end OnSchedule

/-! ## From the arrival on -/

/-- What an event has the peer do on a stream. -/
def Event.change? (stream : Nat) : Event → Option Wire.Change
  | .wire k change => if k = stream then some change else none
  | _ => none

theorem Event.change?_wire (stream : Nat) (change : Wire.Change) :
    (Event.wire stream change).change? stream = some change := if_pos rfl

theorem Event.change?_eq_none {e : Event} (unnamed : ¬ e.Names stream) : e.change? stream = none := by
  cases e with
  | wire k change => exact if_neg unnamed
  | _ => rfl

/-- An event before the first turn of a handshake: the peer does something on its stream, or it is
    nothing to the stream. -/
def Event.Precedes (id stream : Nat) (e : Event) : Prop :=
  (∃ change, e = .wire stream change) ∨ e.Spares stream ∧ e ≠ .step (.task id)

/-- Until the first turn of a handshake only the peer has done something on its stream. -/
theorem attended_waits {owner : Option Nat} {w : Wire} (attended : Attended S r l stream owner t)
    (fresh : owner = none ∨ owner = some id → t = {} ∧ l.wires.find? stream = some w)
    {waiting : List Event} (waits : ∀ e ∈ waiting, e.Precedes id stream) :
    ∃ owner' t', Attended S r (l.run S waiting) stream owner' t' ∧
      (owner' = none ∨ owner' = some id → t' = {} ∧ (l.run S waiting).wires.find? stream =
        some ((waiting.filterMap (Event.change? stream)).foldl Wire.change w)) := by
  induction waiting generalizing l owner t w with
  | nil => exact ⟨owner, t, attended, fresh⟩
  | cons e waiting ih =>
    have later := fun e he => waits e (List.mem_cons_of_mem _ he)
    rcases waits e List.mem_cons_self with ⟨change, rfl⟩ | ⟨spares, other⟩
    · rw [List.filterMap_cons_some (Event.change?_wire stream change)]
      refine ih (attended.onWire stream _) (fun mine => ?_) later
      obtain ⟨rfl, found⟩ := fresh mine
      refine ⟨rfl, ?_⟩
      show (l.onWire stream (·.change change)).wires.find? stream = _
      rw [find?_onWire, if_pos rfl, found]
      rfl
    · rw [List.filterMap_cons_none (Event.change?_eq_none spares.2.2)]
      rcases attended.apply spares with ⟨k, rfl, rfl, attended'⟩ | ⟨⟨owner', attended', ow⟩, kept⟩
      · -- another handshake that got on the stream
        refine ih attended' (fun mine => ?_) later
        obtain rfl : k = id := Option.some.inj (mine.resolve_left nofun)
        exact absurd rfl other
      · refine ih attended' (fun mine => ?_) later
        have before : owner = none ∨ owner = some id := by
          rcases ow with rfl | ⟨none_, _⟩
          · exact mine
          · exact .inl none_
        obtain ⟨rfl, found⟩ := fresh before
        refine ⟨rfl, ?_⟩
        cases kept with
        | same same => exact same.trans found
        | dropped done => exact absurd Sofar.spawned.going done

/-- A handshake that has come to be on a stream, and has not had a turn yet, is on schedule. -/
theorem onSchedule_opened (S : Suite) (s : Schedule) {identity : Identity} {capacity timeout : Nat}
    {address : Except SystemError SocketAddress} {l₀ : Listener}
    (opened : ofRaw identity capacity timeout address = .ok l₀) {before waiting : List Event}
    {source : SocketAddress} (unused : ∀ e ∈ before, ¬ e.Names stream)
    (unfired : (l₀.run S before).fired = false) (waits : ∀ e ∈ waiting, e.Precedes id stream)
    (first : waiting.filterMap (Event.change? stream) = s.changes 0)
    (begun : (l₀.run S (before ++ .newStream stream :: .arrive (.ok ⟨stream, source⟩) ::
      waiting)).tasks.find? id = some ⟨stream, source, .spawned⟩) :
    ∃ start, OnSchedule S identity s timeout start id stream source 0 1
      (l₀.run S (before ++ .newStream stream :: .arrive (.ok ⟨stream, source⟩) :: waiting)) {} := by
  obtain ⟨_, _, settings⟩ := settings_opened opened
  have split : l₀.run S (before ++ .newStream stream :: .arrive (.ok ⟨stream, source⟩) :: waiting) =
      ((l₀.run S before).run S [.newStream stream, .arrive (.ok ⟨stream, source⟩)]).run S waiting :=
    run_append S l₀ before _
  obtain ⟨attended, found⟩ := attended_arrive ((orderly_opened S opened).run before) unfired
    (unused_run S opened before unused) source
  rw [settings_run S l₀ before, settings] at attended
  obtain ⟨owner, t, attended, fresh⟩ := attended_waits attended (fun _ => ⟨rfl, found⟩) waits
  have same := settings_run S l₀
    (before ++ .newStream stream :: .arrive (.ok ⟨stream, source⟩) :: waiting)
  rw [settings] at same
  rw [split] at begun same ⊢
  generalize ((l₀.run S before).run S [.newStream stream, .arrive (.ok ⟨stream, source⟩)]).run S
    waiting = l at attended fresh begun same ⊢
  obtain rfl : owner = some id := (attended.sole.named id).1 (attended.orderly.noted begun)
  obtain ⟨rfl, found⟩ := fresh (.inr rfl)
  rw [first] at found
  exact ⟨l.now, attended, congrArg ListenerSettings.timeout same, rfl,
    .acting _ _ begun rfl .spawned (.spawned rfl) found s.carries_zero⟩

/-- **The answer to every schedule.**  Somebody's connection comes to a listener, and the peer follows
    a schedule on it that begins with the first turn of its handshake; what comes at the beginning
    has come before.  Whatever else goes on, as long as the shutdown does not come and the handshake
    is never behind (and it need never be), the outcome is that of the schedule's gist, submitted at
    the instant at which that is settled, no later than two deadlines after the beginning.  Nothing
    is written before act one is there, and nothing at all unless it is accepted; then it is
    act two.

    A read may fail with an error of any kind (`Failure.ofRead`): one of kind `unexpectedEof` counts
    as the end of the stream, so that the act is short, one of kind `timedOut` as a timeout, and any
    other is reported as it is. -/
theorem answers_schedule (S : Suite) (s : Schedule) {identity : Identity} {capacity timeout : Nat}
    {address : Except SystemError SocketAddress} {l₀ : Listener}
    (opened : ofRaw identity capacity timeout address = .ok l₀) {before waiting : List Event}
    {source : SocketAddress} (unused : ∀ e ∈ before, ¬ e.Names stream)
    (unfired : (l₀.run S before).fired = false) (waits : ∀ e ∈ waiting, e.Precedes id stream)
    (first : waiting.filterMap (Event.change? stream) = s.changes 0)
    (begun : (l₀.run S (before ++ .newStream stream :: .arrive (.ok ⟨stream, source⟩) ::
      waiting)).tasks.find? id = some ⟨stream, source, .spawned⟩) :
    let l := l₀.run S (before ++ .newStream stream :: .arrive (.ok ⟨stream, source⟩) :: waiting)
    (∀ instants, ∃ doings, doings.length = instants ∧ s.Prompt S id stream 0 l doings) ∧
    ∀ doings ≠ [], s.Prompt S id stream 0 l doings →
      let events := s.events stream 0 doings
      let draw := (transcript S id l events {}).draw
      let answer := s.gist.answer S identity timeout draw
      (l.run S events).handoff.submittedBy id =
          (if answer.instant < doings.length then [answer.outcome id stream source] else []) ∧
        answer.instant ≤ 2 * timeout ∧
        (∃ w, (l.run S events).wires.find? stream = some w ∧ w.outward.unread =
          if keyActSize ≤ (s.before doings.length).length then answer.written else []) ∧
        (s.gist.accepted? S identity timeout = none → answer.written = []) ∧
        (S.CipherLaws → S.UniformAgreement →
          ∀ machine, s.gist.accepted? S identity timeout = some machine →
            ∃ two machine', machine.sendActTwo S draw = (.ok two, machine') ∧
              answer.written = two.bytes) := by
  obtain ⟨start, on⟩ := onSchedule_opened S s opened unused unfired waits first begun
  refine ⟨on.exists_prompt, fun doings some_ prompt => ?_⟩
  have done := on.run prompt
  rw [Nat.zero_add, Nat.max_eq_left (List.length_pos_iff.2 some_)] at done
  exact ⟨done.submitted_eq, (s.gist.answer_le identity timeout _).1, done.written_eq,
    fun unaccepted => s.gist.written_of_unaccepted unaccepted _,
    fun cipher uniform _ accepted => s.gist.written_of_accepted cipher uniform accepted _⟩

/-- Some of act one is there at the beginning.  Its last byte comes at the last instant, in one piece
    with the beginning of act three, and so does the last byte of act three, with one byte too many
    and the end of the stream. -/
def sampleSchedule : Schedule where
  chunks :=
    [(0, [0, 93, 254, 221, 59, 107, 212, 127, 111, 162, 142, 225, 93, 150, 157, 91, 176, 234, 83,
        119]),
      (2, [77, 72, 139, 218, 249, 223, 28, 110, 1, 36, 179, 239, 34, 34, 178, 101, 244, 48, 132,
        5, 188, 208, 200, 47, 122, 226, 120, 232, 3, 0, 15, 125, 154, 193, 12, 163, 247, 213, 79]),
      (4, [173, 45, 200, 229, 62, 238, 127, 108, 170, 144, 59, 186, 62, 193, 124, 12, 250, 160, 93,
        58, 198, 102, 126, 48, 43, 171, 52, 156, 62, 193, 124, 205, 244, 86, 33, 176, 194, 227, 9,
        112, 77, 227, 148, 80, 229, 246, 132, 160, 155, 181, 189, 175, 209, 94, 117, 7])]
  ending := some (4, .eof)
  sorted := by decide
  last := by decide

/-- X25519 with functions that are computed at once in the place of the hash functions. -/
def sampleSuite : Suite := Suite.unhashed.withAgreement Curve25519.publicKey uniformAgree

/-- A listener that has been opened for one handshake at a time, with two milliseconds for an act. -/
def sampleOpened : Listener where
  settings := ⟨⟨Octets.replicate 32 2⟩, 1, 2, ⟨.v4 ⟨127, 0, 0, 1⟩, 9735, 0⟩⟩
  pool := { available := 1 }
  socket := ⟨some []⟩

def sampleBefore : List Event := [.startCall 0, .chance ⟨List.replicate 32 4, []⟩]

/-- The first bytes are there before the connection is taken. -/
def sampleWaiting : List Event :=
  .step .loop :: (sampleSchedule.changes 0).map (.wire 0) ++ [.step .loop]

/-- The listener when the connection is taken. -/
def sampleTaken : Listener :=
  sampleOpened.run sampleSuite (sampleBefore ++ .newStream 0 ::
    .arrive (.ok ⟨0, ⟨.v4 ⟨127, 0, 0, 1⟩, 40000, 0⟩⟩) :: sampleWaiting)

/-- At five instants the handshake takes so many steps. -/
def sampleDoings : List (List Event) := [2, 0, 4, 0, 1].map (List.replicate · (.step (.task 1)))

/-- The listener when the last of these instants is over. -/
def sampleAnswered : Listener := sampleTaken.run sampleSuite (sampleSchedule.events 0 0 sampleDoings)

/-- The secret that was drawn for act two. -/
def sampleDraw : Secret :=
  (transcript sampleSuite 1 sampleTaken (sampleSchedule.events 0 0 sampleDoings) {}).draw

def sampleAnswer : Answer :=
  sampleSchedule.gist.answer sampleSuite ⟨Octets.replicate 32 2⟩ 2 sampleDraw

theorem prompt_sampleDoings : sampleSchedule.Prompt sampleSuite 1 0 0 sampleTaken sampleDoings := by
  have harmless := harmless_own 1 0
  exact ⟨harmless 2, by decide +kernel, harmless 0, by decide +kernel, harmless 4, by decide +kernel,
    harmless 0, by decide +kernel, harmless 1, by decide +kernel, trivial⟩

/-- The peer makes use of all the time there is, and then the connection is secured. -/
theorem answers_schedule_sample :
    ofRaw ⟨Octets.replicate 32 2⟩ 1 2 (.ok ⟨.v4 ⟨127, 0, 0, 1⟩, 9735, 0⟩) = .ok sampleOpened ∧
      sampleTaken.tasks.find? 1 = some ⟨0, ⟨.v4 ⟨127, 0, 0, 1⟩, 40000, 0⟩, .spawned⟩ ∧
      sampleSchedule.Prompt sampleSuite 1 0 0 sampleTaken sampleDoings ∧
      sampleAnswered.handoff.submittedBy 1 =
        [sampleAnswer.outcome 1 0 ⟨.v4 ⟨127, 0, 0, 1⟩, 40000, 0⟩] ∧
      sampleAnswer.instant = 4 ∧ sampleAnswer.result.toBool = true ∧
      ∃ w machine two machine', sampleAnswered.wires.find? 0 = some w ∧
        sampleSchedule.gist.accepted? sampleSuite ⟨Octets.replicate 32 2⟩ 2 = some machine ∧
        machine.sendActTwo sampleSuite sampleDraw = (.ok two, machine') ∧
        w.outward.unread = two.bytes := by
  have begun : sampleTaken.tasks.find? 1 =
      some ⟨0, ⟨.v4 ⟨127, 0, 0, 1⟩, 40000, 0⟩, .spawned⟩ := by decide +kernel
  have unused : ∀ e ∈ sampleBefore, ¬ e.Names 0 := by
    simp [sampleBefore, Event.Names]
  have waits : ∀ e ∈ sampleWaiting, e.Precedes 1 0 := by
    have loop : (Event.step .loop).Precedes 1 0 := .inr ⟨⟨nofun, nofun, fun h => h⟩, nofun⟩
    have peer : ∀ e ∈ (sampleSchedule.changes 0).map (Event.wire 0), e.Precedes 1 0 := by
      intro e he
      obtain ⟨change, _, rfl⟩ := List.mem_map.1 he
      exact .inl ⟨change, rfl⟩
    exact List.forall_mem_append.2 ⟨List.forall_mem_cons.2 ⟨loop, peer⟩,
      List.forall_mem_singleton.2 loop⟩
  have opened : ofRaw ⟨Octets.replicate 32 2⟩ 1 2 (.ok ⟨.v4 ⟨127, 0, 0, 1⟩, 9735, 0⟩) =
      .ok sampleOpened := rfl
  obtain ⟨_, answers⟩ := answers_schedule sampleSuite sampleSchedule opened unused rfl waits rfl begun
  obtain ⟨submitted, _, ⟨w, found, written⟩, _, replies⟩ := answers sampleDoings nofun
    prompt_sampleDoings
  obtain ⟨instant, secured, accepted⟩ : sampleAnswer.instant = 4 ∧ sampleAnswer.result.toBool = true ∧
      (sampleSchedule.gist.accepted? sampleSuite ⟨Octets.replicate 32 2⟩ 2).isSome = true := by
    decide +kernel
  obtain ⟨machine, accepted⟩ := Option.isSome_iff_exists.1 accepted
  have cipher : sampleSuite.CipherLaws := Suite.withAgreement_cipherLaws
    (Suite.withHash_cipherLaws Suite.standard_cipherLaws _ _) Curve25519.publicKey uniformAgree
  have uniform : sampleSuite.UniformAgreement :=
    Suite.withAgreement_uniformAgreement Curve25519.publicKey isSome_uniformAgree
  obtain ⟨two, machine', sent, bytes⟩ := replies cipher uniform machine accepted
  have settled : sampleAnswer.instant < sampleDoings.length := instant.trans_lt (by decide)
  have whole : keyActSize ≤ (sampleSchedule.before sampleDoings.length).length := by decide
  exact ⟨opened, begun, prompt_sampleDoings, submitted.trans (if_pos settled), instant, secured, w,
    machine, two, machine', found, accepted, sent, (written.trans (if_pos whole)).trans bytes⟩

end Listener

end Gatehouse
