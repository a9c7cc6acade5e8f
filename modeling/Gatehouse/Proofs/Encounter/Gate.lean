import Gatehouse.Proofs.Encounter.Basic

/-!
# The listener's end of an encounter

What is known of a listener with a connection that nobody else is on (`Attended`): whether it has
been taken and under which number, and what its handshake has met with.  At a step of that handshake
this goes on; whatever else happens leaves the stream alone, unless a call that was given the
connection is given up, which hangs up on it (`Attended.apply`).
-/

namespace Gatehouse.Listener

variable {S : Suite} {r : Identity} {l : Listener} {id stream : Nat} {owner : Option Nat}
  {t : Transcript} {e : Event} {connection : SecuredConnection}

/-! ## Transcripts and submissions -/

theorem Told.taken_of_submitted (told : Told S id l t)
    (submitted : .ok connection ∈ l.handoff.submittedBy id) : l.Taken id := by
  by_contra notTaken
  obtain ⟨_, e, heq⟩ := told.failures notTaken submitted
  cases heq

/-- A connection that was submitted is the one that the verdict is for. -/
theorem Told.secured_of_submitted (told : Told S id l t)
    (submitted : .ok connection ∈ l.handoff.submittedBy id) :
    verdict S l.settings.identity t = .secured connection.machine connection.remoteStatic := by
  obtain ⟨accepted, remote, _⟩ :=
    (oneOutcome_of_told told (told.taken_of_submitted submitted)).secured connection submitted
  exact verdict_eq_secured_iff.2 ⟨accepted, remote⟩

theorem Told.exists_submitted (told : Told S id l t) {machine : Machine} {remote : PublicKey}
    (judged : verdict S l.settings.identity t = .secured machine remote) :
    ∃ connection, .ok connection ∈ l.handoff.submittedBy id := by
  have taken : l.Taken id := by
    by_contra notTaken
    rw [(told.of_not_taken notTaken).1, Sofar.spawned.going] at judged
    cases judged
  obtain ⟨connection, submitted, _⟩ :=
    (oneOutcome_of_told told taken).accepted machine (verdict_eq_secured_iff.1 judged).1
  exact ⟨connection, submitted⟩

/-! ## A connection that nobody else is on -/

/-- A call that was given a connection and is given up hangs up on it. -/
theorem find?_abandonCall {call : Nat} (given : l.Given call stream) :
    (l.abandonCall call).wires.find? stream = (l.wires.find? stream).map Wire.closeGate := by
  obtain ⟨connection, filled, rfl⟩ := given
  have closed := find?_onWire { l with handoff := l.handoff.abandonConsumer call : Listener }
    connection.stream Wire.closeGate connection.stream
  rw [if_pos rfl] at closed
  unfold abandonCall
  rw [filled]
  exact closed

/-- A listener that goes on, with a connection on a stream of its own: whose handshake is there, if
    it has been taken, and what it has met with. -/
structure Attended (S : Suite) (r : Identity) (l : Listener) (stream : Nat) (owner : Option Nat)
    (t : Transcript) : Prop where
  identity : l.settings.identity = r
  unfired : l.fired = false
  orderly : Orderly S l
  sole : Sole l stream owner
  /-- What the handshakes have met with; nothing as long as there is none. -/
  told : ∃ ts : Nat → Transcript, (∀ id, Told S id l (ts id)) ∧ t = (owner.map ts).getD {}

namespace Attended

theorem told_owner (attended : Attended S r l stream (some id) t) : Told S id l t := by
  obtain ⟨ts, told, rfl⟩ := attended.told
  exact told id

theorem isOpen (attended : Attended S r l stream owner t) : Handoff.Open l.handoff :=
  attended.orderly.isOpen attended.unfired

/-- An honest act one is answered with the honest act two. -/
theorem answer_prefix (attended : Attended S r l stream owner t) {i : Identity} {eᵢ : Secret}
    {more : Bytes} (A : Acts S i r eᵢ t.draw)
    (read : t.one ++ t.three <+: A.one.bytes ++ (A.three.bytes ++ more)) (whole : t.cut = none) :
    t.two <+: A.two.bytes := by
  cases owner with
  | none =>
    obtain ⟨_, _, fresh⟩ := attended.told
    have htwo : t.two = [] := congrArg Transcript.two fresh
    rw [htwo]
    exact List.nil_prefix
  | some id => exact attended.told_owner.answer_prefix attended.identity A read whole

theorem done_of_given (attended : Attended S r l stream owner t) {call : Nat}
    (given : l.Given call stream) : verdict S r t ≠ .going := by
  obtain ⟨id, connection, rfl, submitted, _⟩ := attended.sole.of_given attended.orderly given
  have judged := attended.told_owner.secured_of_submitted submitted
  rw [attended.identity] at judged
  rw [judged]
  exact Course.noConfusion

/-- Whoever else does something with a stream changes nothing about that. -/
theorem onWire (attended : Attended S r l stream owner t) (k : Nat) (f : Wire → Wire) :
    Attended S r (l.onWire k f) stream owner t := by
  have log : (l.onWire k f).log = l.log := log_onWire l k f
  have socket : (l.onWire k f).socket = l.socket := socket_onWire l k f
  have core : (l.onWire k f).core = l.core := core_onWire l k f
  have settings : (l.onWire k f).settings = l.settings := congrArg Core.settings core
  have handoff : (l.onWire k f).handoff = l.handoff := congrArg Core.handoff core
  obtain ⟨ts, told, same⟩ := attended.told
  refine ⟨?_, ?_, attended.orderly.onWire k f, ⟨?_, ?_⟩, ts, fun id => ?_, same⟩
  · rw [settings]
    exact attended.identity
  · rw [fired, handoff]
    exact attended.unfired
  · rw [log]
    exact attended.sole.named
  · rw [queued, socket]
    exact attended.sole.single
  · exact (told id).apart (apart_of_core core)

/-- What an event leaves of a stream that others than its handshake do not use. -/
inductive Kept (S : Suite) (r : Identity) (t : Transcript) (w w' : Option Wire) : Prop
  | same (same : w' = w)
  /-- A call that was given the connection was given up. -/
  | dropped (done : verdict S r t ≠ .going) (closed : w' = w.map Wire.closeGate)

/-- **What happens to a connection that nobody else is on.**  Its own handshake takes a step, or what
    it has met with remains, and so does its stream unless a call is given up that has been given
    the connection. -/
theorem apply (attended : Attended S r l stream owner t)
    (harmless : e ≠ .trigger ∧ e ≠ .closeSocket ∧ ¬ e.Names stream) :
    (∃ id, owner = some id ∧ e = .step (.task id) ∧
        Attended S r (l.apply S e) stream owner (l.heard id t e)) ∨
      (∃ owner', Attended S r (l.apply S e) stream owner' t ∧
          (owner' = owner ∨ owner = none ∧ e = .step .loop ∧ owner' = some (l.connections + 1))) ∧
        Kept S r t (l.wires.find? stream) ((l.apply S e).wires.find? stream) := by
  obtain ⟨quiet, unclosed, unnamed⟩ := harmless
  have identity : (l.apply S e).settings.identity = r := by
    rw [settings_apply]
    exact attended.identity
  have unfired : (l.apply S e).fired = false := (fired_apply S l quiet).trans attended.unfired
  have orderly := attended.orderly.apply e
  obtain ⟨ts, told, ht⟩ := attended.told
  have told' : ∀ k, Told S k (l.apply S e) (l.heard k (ts k) e) := told_apply told e
  by_cases own : ∃ id, owner = some id ∧ e = .step (.task id)
  · obtain ⟨id, rfl, rfl⟩ := own
    have sole := (attended.sole.apply S unnamed).resolve_right fun ⟨h, _⟩ => by cases h
    subst ht
    exact .inl ⟨id, rfl, rfl, identity, unfired, orderly, sole, _, told', rfl⟩
  · have other : ∀ id, owner = some id → l.heard id (ts id) e = ts id := fun id howner =>
      heard_of_other l (ts id) fun he => own ⟨id, howner, he⟩
    refine .inr ⟨?_, ?_⟩
    · rcases attended.sole.apply S unnamed with sole | ⟨rfl, rfl, sole⟩
      · refine ⟨owner, ⟨identity, unfired, orderly, sole, _, told', ht.trans ?_⟩, .inl rfl⟩
        cases owner with
        | none => rfl
        | some id => exact (other id rfl).symm
      · -- of a connection that is just being taken nothing was known
        have fresh : ts (l.connections + 1) = {} :=
          ((told _).of_not_taken fun taken => Nat.not_succ_le_self _ taken.2).1
        exact ⟨_, ⟨identity, unfired, orderly, sole, _, told', ht.trans fresh.symm⟩,
          .inr ⟨rfl, rfl, rfl⟩⟩
    · by_cases touches : e.Touches l stream
      · rcases attended.sole.of_touches attended.orderly unnamed touches with
          owned | ⟨call, rfl, given⟩ | ⟨closing | fired, _⟩
        · exact absurd owned own
        · exact .dropped (attended.done_of_given given) (find?_abandonCall given)
        · exact absurd closing unclosed
        · exact absurd (attended.unfired.symm.trans fired) Bool.false_ne_true
      · exact .same ((wired_apply S l e).same stream touches)

end Attended

/-- A stream that comes up, with a connection on it that comes to the socket. -/
theorem attended_arrive (orderly : Orderly S l) (unfired : l.fired = false)
    (unused : Unused l stream) (source : SocketAddress) :
    Attended S l.settings.identity (l.run S [.newStream stream, .arrive (.ok ⟨stream, source⟩)])
        stream none {} ∧
      (l.run S [.newStream stream, .arrive (.ok ⟨stream, source⟩)]).wires.find? stream =
        some {} := by
  obtain ⟨ts, told⟩ := Classical.skolem.1 orderly.told
  have single : (l.socket.push (.ok ⟨stream, source⟩)).waiting.countP
      (fun arrival => arrival.stream = stream) ≤ 1 := by
    have queue := unused.queue
    unfold queued at queue
    rcases socket : l.socket with ⟨_ | raw⟩
    · exact Nat.zero_le 1
    · rw [socket] at queue
      have pushed : (SocketSlot.push ⟨some raw⟩ (.ok ⟨stream, source⟩)).waiting =
          (⟨some raw⟩ : SocketSlot Arrival).waiting ++ [⟨stream, source⟩] := List.filterMap_append
      rw [pushed, List.countP_append, queue, List.countP_singleton]
      split <;> omega
  exact ⟨⟨rfl, unfired, orderly.run _, ⟨unused.sole.named, single⟩, _, told_run told _, rfl⟩,
    (Roster.find?_enter l.wires stream stream {} unused.absent).trans (if_pos rfl)⟩

end Gatehouse.Listener
