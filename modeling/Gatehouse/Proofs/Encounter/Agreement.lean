import Gatehouse.Proofs.Encounter.Moves
import Gatehouse.Proofs.Noise.Laws

/-!
# Dialing a listener succeeds

A dialer that is given the listener's public key and a handshake that takes its connection come to
the same secured connection (`dial_agrees`), as long as no act is late, no connection breaks and the
shutdown is not fired.  Neither ever fails; when nothing moves them on any more they are both done,
and they can be moved on only so often.  Besides the three acts no byte goes either way but what is
sent on the connection afterwards, and of that nothing has been read.
-/

namespace Gatehouse

/-! ## Waiting -/

namespace Dial

variable {S : Suite} {i r : Identity} {eᵢ eᵣ : Secret} {A : Acts S i r eᵢ eᵣ} {d : Dial}
  {sent got : Bytes} {now : Nat} {wire : Wire}

/-- A dialer that has room to write waits for act two only. -/
theorem Through.waits (through : Through A d sent got) (idle : d.step S now wire = none)
    (clean : wire.Clean) (room : wire.outward.room ≠ some 0) :
    sent = A.one.bytes ∧ got.length < keyActSize ∧ wire.inward.unread = [] ∨
      sent = A.one.bytes ++ A.three.bytes := by
  have writes : ∀ {act : Act} {left : Bytes} {more : Bytes → DialPhase} {full : DialPhase},
      d.write wire act left more full ≠ none := by
    intro act left more full h
    have going := Pipe.write_ne_pending room left
    unfold write at h
    split at h
    · rename_i waiting
      exact going (congrArg (·.1) waiting)
    · cases h
    · cases h
    · cases h
  cases through with
  | begun phase_eq machine_eq =>
    rw [Dial.step, phase_eq] at idle
    simp only [machine_eq, A.sendOne] at idle
    cases idle
  | writeOne sent left phase_eq =>
    rw [Dial.step, phase_eq] at idle
    exact absurd idle writes
  | readTwo got due phase_eq machine_eq short =>
    refine .inl ⟨rfl, short, ?_⟩
    by_contra some_
    rw [Dial.step, phase_eq] at idle
    simp only [Pipe.read_of_clean clean.faultless clean.unended] at idle
    rw [if_neg some_] at idle
    simp only at idle
    split at idle <;> cases idle
  | writeThree sent left phase_eq =>
    rw [Dial.step, phase_eq] at idle
    exact absurd idle writes
  | secured => exact .inr rfl

end Dial

namespace Listener

variable {S : Suite} {l : Listener} {id : Nat} {task : HandshakeTask} {t : Transcript} {w : Wire}

/-- A handshake at its acts that has room to write waits for act one or for act three. -/
theorem waits_of_idle (sofar : Sofar S l.settings.identity t task.phase)
    (held : l.tasks.find? id = some task) (idle : l.stepTask S id = none) (unfired : l.fired = false)
    (found : l.wires.find? task.stream = some w) (clean : w.Clean)
    (room : w.outward.room ≠ some 0) :
    w.inward.unread = [] ∧ (t.one.length < keyActSize ∧ t.three = [] ∨
      t.one.length = keyActSize ∧ t.two.length = keyActSize ∧ t.three.length < staticActSize) := by
  have hsight := sight_of_stepTask_eq_none held idle
  have going : ¬ l.fired = true := Bool.eq_false_iff.1 unfired
  have reading : ∀ {act : Act} {count : Nat} {timer : Timer},
      l.readingSight task.stream act count timer = .nothing → w.inward.unread = [] := by
    intro act count timer h
    by_contra some_
    rw [readingSight, found] at h
    simp only [Pipe.read_of_clean clean.faultless clean.unended] at h
    rw [if_neg some_] at h
    cases h
  unfold Listener.stepTask at idle
  simp only [held] at idle
  rw [sight] at hsight
  generalize task.phase = phase at sofar idle hsight
  cases sofar with
  | spawned => cases idle
  | wroteTwo => cases idle
  | readOne got draw timer short =>
    simp only [if_neg going] at hsight
    exact ⟨reading hsight, .inl ⟨short, rfl⟩⟩
  | writeTwo one draw two machine sent left =>
    have going' := Pipe.write_ne_pending room left
    have willing := Pipe.write_ne_error clean.willing left
    simp only [if_neg going] at hsight
    rw [writingSight, found] at hsight
    simp only at hsight
    split at hsight
    · exact absurd ‹_› going'
    · cases hsight
    · cases hsight
  | readThree one draw two machine got timer answered short =>
    simp only [if_neg going] at hsight
    exact ⟨reading hsight, .inr ⟨one.length_eq, two.length_eq, short⟩⟩

end Listener

/-- The connection that a line says was taken, with its stream. -/
def Happening.taken? : Happening → Option (Nat × Nat)
  | .taken id stream => some (id, stream)
  | _ => none

namespace Encounter

open Listener

variable {S : Suite} {i r : Identity} {eᵢ : Secret} {m : Encounter} {id : Nat}
  {owner : Option Nat}

/-- Nothing moves the two on, though there is room to write at both ends. -/
structure Settled (S : Suite) (m : Encounter) : Prop where
  idle : ∀ e, m.moves S e = false
  roomIn : m.line.wire.outward.room ≠ some 0
  roomOut : m.wire.outward.room ≠ some 0

/-- What the two have come to when the handshake has submitted this connection. -/
structure Agreed (S : Suite) (i r : Identity) (m : Encounter) (connection : SecuredConnection) :
    Prop where
  stream_eq : connection.stream = m.stream
  remoteStatic_eq : connection.remoteStatic = i.publicKey S
  /-- The dialer has a connection with the listener's key, and the keys for the two directions are
      mirrored. -/
  dialed : ∃ dialed, m.line.dial.result? = some (.ok dialed) ∧
    dialed.remoteStatic = r.publicKey S ∧
    ∃ keys, dialed.machine.sessionKeys = some keys ∧
      connection.machine.sessionKeys = some ⟨keys.recv, keys.send⟩
  /-- Acts one and three went to the listener and act two to the dialer, and then what was sent on
      the connection.  What of that has arrived has not been read. -/
  bytes : ∃ (one two : Octets keyActSize) (three : Octets staticActSize),
    m.carriedIn ++ m.line.wire.outward.unread = one.bytes ++ three.bytes ++ m.saidIn ∧
      m.carriedOut ++ m.wire.outward.unread = two.bytes ++ m.saidOut ∧
      (m.wire.gateOpen = true →
        m.carriedIn = one.bytes ++ three.bytes ++ m.wire.inward.unread) ∧
      m.carriedOut = two.bytes ++ m.line.wire.inward.unread

namespace Accord

theorem dial_not_failed (accord : Accord S i r eᵢ m owner) (failure : Failure) :
    m.line.dial.result? ≠ some (.error failure) := by
  obtain ⟨_, t, w, sent, got, _, joined⟩ := accord
  obtain ⟨A, through⟩ := joined.through
  exact through.not_failed failure

theorem owner_eq (accord : Accord S i r eᵢ m owner)
    (taken : .taken id m.stream ∈ m.listener.log) : owner = some id := by
  obtain ⟨_, t, w, sent, got, attended, _⟩ := accord
  exact (attended.sole.named id).1 taken

/-- The handshake of the connection submits no failure. -/
theorem not_rejected (accord : Accord S i r eᵢ m (some id)) (failure : Failure) :
    .error failure ∉ m.listener.handoff.submittedBy id := by
  obtain ⟨_, t, w, sent, got, attended, joined⟩ := accord
  obtain ⟨A, through⟩ := joined.through
  have taken := attended.orderly.numbered.old id _ ((attended.sole.named id).2 rfl)
  have outcome := oneOutcome_of_told attended.told_owner taken
  intro submitted
  obtain ⟨failed, _⟩ := (outcome.rejected failure).1 submitted
  rw [attended.identity] at failed
  rcases joined.judged through with going | ⟨_, secured⟩
  · cases failed.symm.trans going
  · cases failed.symm.trans secured

/-- What the handshake submits is what the dialer has, too. -/
theorem agreed (accord : Accord S i r eᵢ m (some id)) {connection : SecuredConnection}
    (submitted : .ok connection ∈ m.listener.handoff.submittedBy id) :
    m.Agreed S i r connection := by
  obtain ⟨bound, t, w, sent, got, attended, joined⟩ := accord
  obtain ⟨A, through⟩ := joined.through
  have judged := attended.told_owner.secured_of_submitted submitted
  rw [attended.identity] at judged
  obtain ⟨all, secured⟩ := (joined.judged through).resolve_left fun going => by
    cases judged.symm.trans going
  obtain ⟨hmachine, hremote⟩ := Course.secured.inj (judged.symm.trans secured)
  have hone : t.one = A.one.bytes := congrArg Transcript.one all
  have htwo : t.two = A.two.bytes := congrArg Transcript.two all
  have hthree : t.three = A.three.bytes := congrArg Transcript.three all
  -- the handshake has read all that the dialer has to send, so the dialer is done
  have phase : m.line.dial.phase = .secured := by
    by_cases silent : m.saidIn = []
    · have read := joined.heard.trans ⟨_, joined.inward⟩
      rw [hone, hthree, silent, List.append_nil] at read
      obtain rfl := List.IsPrefix.eq_of_length_le through.sent_prefix read.length_le
      exact through.secured_of_sent
    · exact joined.saidIn silent
  obtain ⟨hsent, hgot, hdialed⟩ := through.sent_of_secured phase
  obtain ⟨keys, hinitiator, hresponder⟩ := A.mirrored
  refine ⟨?_, hremote, ⟨⟨0, 0, m.line.dial.peer, m.line.dial.remoteStatic, m.line.dial.machine⟩,
    ?_, bound.remoteStatic_eq, keys, ?_, ?_⟩, A.one, A.two, A.three, ?_, ?_, fun isOpen => ?_, ?_⟩
  · exact attended.orderly.numbered.unique id _ _ (attended.orderly.submitted submitted)
      ((attended.sole.named id).2 rfl)
  · rw [Dial.result?, phase]
  · show m.line.dial.machine.sessionKeys = some keys
    rw [hdialed]
    exact hinitiator
  · rw [hmachine]
    exact hresponder
  · rw [joined.inward, hsent]
  · rw [joined.wire_eq, joined.outward, htwo]
  · rw [joined.wire_eq] at isOpen ⊢
    rw [(joined.tidy isOpen).2, hone, hthree]
  · rw [joined.read, hgot]

/-- Each waits for what the other has sent, and that has been read: this cannot be. -/
theorem not_both_waiting {eᵣ : Secret} {A : Acts S i r eᵢ eᵣ} {t : Transcript}
    {sent said got unread : Bytes} (inward : sent ++ said = t.one ++ t.three)
    (outward : t.two = got ++ unread)
    (dialer : sent = A.one.bytes ∧ got.length < keyActSize ∧ unread = [] ∨
      sent = A.one.bytes ++ A.three.bytes)
    (gate : t.one.length < keyActSize ∧ t.three = [] ∨
      t.one.length = keyActSize ∧ t.two.length = keyActSize ∧ t.three.length < staticActSize) :
    False := by
  have read := congrArg List.length inward
  have answered := congrArg List.length outward
  rw [List.length_append, List.length_append] at read
  rw [List.length_append] at answered
  rcases dialer with ⟨rfl, short, none⟩ | rfl
  · rw [A.one.length_eq] at read
    rw [none, List.length_nil] at answered
    rcases gate with ⟨one, three⟩ | ⟨one, two, three⟩
    · rw [three, List.length_nil] at read
      omega
    · omega
  · rw [List.length_append, A.one.length_eq, A.three.length_eq] at read
    rcases gate with ⟨one, three⟩ | ⟨one, two, three⟩
    · rw [three, List.length_nil] at read
      omega
    · omega

/-- Where nothing moves the two on, they are done. -/
theorem submitted_of_settled (accord : Accord S i r eᵢ m (some id)) (settled : m.Settled S) :
    ∃ connection, .ok connection ∈ m.listener.handoff.submittedBy id := by
  obtain ⟨_, t, w, sent, got, attended, joined⟩ := accord
  obtain ⟨A, through⟩ := joined.through
  have told := attended.told_owner
  rcases joined.judged through with going | ⟨_, secured⟩
  · -- nothing is on its way
    have noneIn : m.line.wire.outward.unread = [] := by
      simpa [moves] using settled.idle (.bringIn 1)
    have noneOut : w.outward.unread = [] := by
      simpa [moves, joined.wire_eq] using settled.idle (.bringOut 1)
    have inward := joined.inward
    rw [noneIn, List.append_nil] at inward
    have outward := joined.outward
    rw [noneOut, List.append_nil] at outward
    have silent : m.saidOut = [] := by
      by_contra said
      exact joined.saidOut said going
    rw [silent, List.append_nil] at outward
    have isOpen : w.gateOpen = true := by
      by_contra closed
      exact joined.closed (Bool.eq_false_iff.2 closed) going
    obtain ⟨clean, carried⟩ := joined.tidy isOpen
    have taken := attended.orderly.numbered.old id _ ((attended.sole.named id).2 rfl)
    obtain ⟨task, held, sofar⟩ : ∃ task, m.listener.tasks.find? id = some task ∧
        Sofar S m.listener.settings.identity t task.phase := by
      have underWay := (oneOutcome_of_told told taken).underWay
      rw [attended.identity] at underWay
      obtain ⟨task, held, _⟩ := underWay.1 going
      exact ⟨task, held, told.sofar held (by rw [attended.identity]; exact going)⟩
    have stream_eq := attended.sole.stream_eq attended.orderly held
    have idle : m.listener.stepTask S id = none := by
      have h := settled.idle (.listen (.step (.task id)))
      rw [moves, held] at h
      simpa [stream_eq, sofar.ne_reporting] using h
    have found : m.listener.wires.find? task.stream = some w := by
      rw [stream_eq]
      exact joined.found
    have roomOut := settled.roomOut
    rw [joined.wire_eq] at roomOut
    obtain ⟨unread, gate⟩ :=
      waits_of_idle sofar held idle attended.unfired found clean roomOut
    rw [unread, List.append_nil, inward] at carried
    have waiting : m.line.dial.step S m.line.now m.line.wire = none :=
      Option.not_isSome_iff_eq_none.1 (Bool.eq_false_iff.1 (settled.idle .dial))
    have dialer := through.waits waiting joined.clean settled.roomIn
    exact (not_both_waiting carried (outward.symm.trans joined.read) dialer gate).elim
  · have judged : verdict S m.listener.settings.identity t = .secured A.secured (i.publicKey S) := by
      rw [attended.identity]
      exact secured
    exact told.exists_submitted judged

end Accord

/-- The network has brought no more than the acts, and what was sent on the connection. -/
theorem Accord.carried_le (accord : Accord S i r eᵢ m owner) :
    m.carried ≤ 2 * keyActSize + staticActSize + m.saidIn.length + m.saidOut.length := by
  obtain ⟨_, t, w, sent, got, attended, joined⟩ := accord
  obtain ⟨A, through⟩ := joined.through
  have inward := (joined.carried_prefix through).length_le
  have outward := (joined.answered_prefix through attended).length_le
  rw [List.length_append, List.length_append, A.one.length_eq, A.three.length_eq] at inward
  rw [List.length_append, A.two.length_eq] at outward
  rw [carried]
  omega

/-- **Dialing a listener succeeds on both sides.**  Whoever the two are and whatever they draw: if
    the dialer was given the listener's public key, no act is late, the connection meets with no
    error, and the shutdown is not fired, then neither the dialer nor the handshake fails; what the
    handshake submits is what the dialer has, too; and it has submitted a connection, if it was
    taken at all, as soon as nothing moves the two on.  That can happen only so often: at most once
    for each byte of the acts that is written, brought and read, and three times more, and as often
    as the network brings what is sent on the connection afterwards. -/
theorem dial_agrees (S : Suite) (agreement : S.AgreementLaws) (cipher : S.CipherLaws)
    {i r : Identity} {eᵢ : Secret} {capacity timeout patience now stream : Nat}
    {address : Except SystemError SocketAddress} {source peer : SocketAddress} {l₀ : Listener}
    (opened : Listener.ofRaw r capacity timeout address = .ok l₀) {before : List Listener.Event}
    (unused : ∀ e ∈ before, ¬ e.Names stream) (unfired : (l₀.run S before).fired = false)
    {m₀ : Encounter}
    (start : m₀ = Encounter.start S (l₀.run S before)
      ⟨Dial.start S i (r.publicKey S) peer patience eᵢ, {}, now⟩ stream source)
    {events : List Event} (undisturbed : m₀.Undisturbed S events) :
    (∀ failure, (m₀.run S events).line.dial.result? ≠ some (.error failure)) ∧
    (∀ id, .taken id stream ∈ (m₀.run S events).listener.log →
      (∀ failure, .error failure ∉ (m₀.run S events).listener.handoff.submittedBy id) ∧
      (∀ connection, .ok connection ∈ (m₀.run S events).listener.handoff.submittedBy id →
        (m₀.run S events).Agreed S i r connection) ∧
      ((m₀.run S events).Settled S →
        ∃ connection, .ok connection ∈ (m₀.run S events).listener.handoff.submittedBy id)) ∧
    m₀.moved S events ≤ 3 * (2 * keyActSize + staticActSize + 1) +
      (m₀.run S events).saidIn.length + (m₀.run S events).saidOut.length := by
  have orderly := (orderly_opened S opened).run before
  have identity : (l₀.run S before).settings.identity = r := by
    rw [settings_run]
    exact identity_opened opened
  have begun : Accord S i r eᵢ m₀ none := by
    subst start
    have h := accord_start agreement cipher i eᵢ orderly unfired
      (unused_run S opened before unused) source peer patience now
    rw [identity] at h
    exact h
  obtain ⟨owner, accord, bound⟩ := begun.moved_le agreement cipher undisturbed
  have stream_eq : (m₀.run S events).stream = stream := by
    rw [stream_run, start]
    rfl
  refine ⟨accord.dial_not_failed, fun id taken => ?_, ?_⟩
  · rw [← stream_eq] at taken
    obtain rfl := accord.owner_eq taken
    exact ⟨accord.not_rejected, fun _ => accord.agreed, accord.submitted_of_settled⟩
  · have carried := accord.carried_le
    have left : m₀.left none = 2 * (2 * keyActSize + staticActSize) + 3 := by
      rw [start]
      rfl
    omega

/-- A listener that has been opened for one handshake at a time. -/
def sampleListener : Listener where
  settings := ⟨⟨Octets.replicate 32 2⟩, 1, 1000, ⟨.v4 ⟨127, 0, 0, 1⟩, 9735, 0⟩⟩
  pool := { available := 1 }
  socket := ⟨some []⟩

/-- Somebody who has just reached it. -/
def sampleStart : Encounter :=
  start .unhashedSample sampleListener
    ⟨Dial.start .unhashedSample ⟨Octets.replicate 32 3⟩
      (Identity.publicKey .unhashedSample ⟨Octets.replicate 32 2⟩) ⟨.v4 ⟨127, 0, 0, 1⟩, 9735, 0⟩
      1000 (Octets.replicate 32 4), {}, 0⟩
    0 ⟨.v4 ⟨127, 0, 0, 1⟩, 40000, 0⟩

/-- Act one arrives in two pieces, act two is taken in two pieces and arrives in two others, and act
    three arrives with part of what the dialer sends after it. -/
def sampleEvents : List Event :=
  [.dial, .dial, .bringIn 20, .listen (.step .loop), .listen (.step .loop),
    .listen (.step (.task 1)), .listen (.step (.task 1)), .bringIn 100, .listen (.step (.task 1)),
    .roomOut (some 10), .listen (.step (.task 1)), .roomOut none, .listen (.step (.task 1)),
    .listen (.step (.task 1)), .bringOut 30, .dial, .bringOut 30, .dial, .dial, .sayIn [1, 2, 3],
    .bringIn 67, .listen (.step (.task 1))]

set_option maxRecDepth 20000 in
/-- The handshake has the connection, and two bytes wait on it. -/
theorem dial_agrees_sample :
    Listener.ofRaw ⟨Octets.replicate 32 2⟩ 1 1000 (.ok ⟨.v4 ⟨127, 0, 0, 1⟩, 9735, 0⟩) =
        .ok sampleListener ∧
      sampleStart.Undisturbed .unhashedSample sampleEvents ∧
      (∃ connection, .ok connection ∈
          (sampleStart.run .unhashedSample sampleEvents).listener.handoff.submittedBy 1 ∧
        (sampleStart.run .unhashedSample sampleEvents).Agreed .unhashedSample
          ⟨Octets.replicate 32 3⟩ ⟨Octets.replicate 32 2⟩ connection) ∧
      (sampleStart.run .unhashedSample sampleEvents).wire.inward.unread = [1, 2] := by
  obtain ⟨inTime, taken, secured, unread⟩ : (∀ first ∈ sampleEvents.inits,
      (sampleStart.run .unhashedSample first).InTime) ∧
      (sampleStart.run .unhashedSample sampleEvents).listener.log.filterMap Happening.taken? =
        [(1, 0)] ∧
      ((sampleStart.run .unhashedSample sampleEvents).listener.handoff.submittedBy 1).map
        Except.toBool = [true] ∧
      (sampleStart.run .unhashedSample sampleEvents).wire.inward.unread = [1, 2] := by
    decide +kernel
  have undisturbed : sampleStart.Undisturbed .unhashedSample sampleEvents :=
    ⟨by simp [sampleEvents, Event.Harmless, Event.Names],
      fun first hfirst => inTime first ((List.mem_inits first sampleEvents).2 hfirst)⟩
  have opened : Listener.ofRaw ⟨Octets.replicate 32 2⟩ 1 1000
      (.ok ⟨.v4 ⟨127, 0, 0, 1⟩, 9735, 0⟩) = .ok sampleListener := rfl
  have unused : ∀ e ∈ ([] : List Listener.Event), ¬ e.Names 0 :=
    fun _ hmem => absurd hmem List.not_mem_nil
  obtain ⟨_, agrees, _⟩ := dial_agrees .unhashedSample Suite.unhashedSample_agreementLaws
    Suite.unhashedSample_cipherLaws opened unused rfl rfl undisturbed
  have noted : .taken 1 0 ∈ (sampleStart.run .unhashedSample sampleEvents).listener.log := by
    obtain ⟨line, hmem, hline⟩ := List.mem_filterMap.1 (taken ▸ List.mem_singleton_self (1, 0))
    cases line <;> cases hline
    exact hmem
  obtain ⟨outcome, submitted, hsecured⟩ := List.map_eq_singleton_iff.1 secured
  obtain ⟨connection, rfl⟩ : ∃ connection, outcome = .ok connection := by
    cases outcome with
    | error e => cases hsecured
    | ok connection => exact ⟨connection, rfl⟩
  have hmem : .ok connection ∈
      (sampleStart.run .unhashedSample sampleEvents).listener.handoff.submittedBy 1 := by
    rw [submitted]
    exact List.mem_singleton_self _
  exact ⟨opened, undisturbed, ⟨connection, hmem, (agrees 1 noted).2.1 connection hmem⟩, unread⟩

end Encounter

end Gatehouse
