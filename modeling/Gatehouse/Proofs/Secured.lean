import Gatehouse.Proofs.Dial.Steps
import Gatehouse.Proofs.Listener.Front
import Gatehouse.Proofs.Listener.Outcomes
import Gatehouse.Proofs.Noise.Laws

/-!
# Secured connections are secured

A connection that `accept` or `dial` gives comes with a machine that is done, in the right role, and
that holds the keys and the other side's static key (`SecuredConnection.Secured`).  On the
listener's side the way leads from the answer to a call back to a submission (`Front.Sourced`), from
there to the verdict on the acts (`Told`), and from there to a machine that has accepted act three;
on the dialer's side it is what a dialer is bound to (`Dial.Bound`).
-/

namespace Gatehouse

variable {S : Suite}

/-- What the two sides of a secured connection can rely on. -/
structure SecuredConnection.Secured (role : Role) (c : SecuredConnection) : Prop where
  complete : c.machine.isComplete = true
  sessionKeys : c.machine.sessionKeys.isSome = true
  role_eq : c.machine.role = role
  remoteStatic_eq : c.machine.remoteStatic = some c.remoteStatic

/-- A machine that is done holds what a secured connection needs. -/
theorem Machine.Coherent.secured {role : Role} {own : Identity} {remote : PublicKey}
    {c : SecuredConnection} (coherent : Coherent role own remote c.machine)
    (complete : c.machine.isComplete = true)
    (known : c.machine.remoteStatic = some c.remoteStatic) : c.Secured role where
  complete := complete
  sessionKeys := coherent.sessionKeys_eq.trans complete
  role_eq := coherent.role_eq
  remoteStatic_eq := known

/-! ## The dialer's side -/

/-- What a dialer gives at the end, it gives for the key that it was asked for. -/
theorem Dial.Bound.secured {own : Identity} {remote : PublicKey} {d : Dial} {c : SecuredConnection}
    (bound : Bound own remote d) (hresult : d.result? = some (.ok c)) :
    c.Secured .initiator ∧ c.remoteStatic = remote := by
  unfold result? at hresult
  split at hresult
  · rename_i phase_eq
    cases hresult
    have last : d.phase.isLast = true := by
      rw [phase_eq]
      rfl
    have known : d.machine.remoteStatic = some d.remoteStatic := by
      have hremote := bound.coherent.remoteStatic_eq
      rw [bound.coherent.role_eq] at hremote
      rw [bound.remoteStatic_eq]
      exact hremote
    exact ⟨bound.coherent.secured (bound.complete last) known, bound.remoteStatic_eq⟩
  · cases hresult
  · cases hresult

theorem Dial.exists_result {d : Dial} (secured : d.phase = .secured) :
    ∃ c, d.result? = some (.ok c) := by
  refine ⟨⟨0, 0, d.peer, d.remoteStatic, d.machine⟩, ?_⟩
  rw [result?, secured]

/-! ## The listener's side -/

section Listening

variable {identity : Identity} {t : Transcript} {machine : Machine} {key : PublicKey}

/-- The machine that has answered act one with act two, and what it made of act three. -/
def Decided (S : Suite) (identity : Identity) (t : Transcript) (machine : Machine)
    (three : Octets staticActSize) (answer : Except HandshakeError Unit) (last : Machine) : Prop :=
  ∃ one two : Octets keyActSize, t.one = one.bytes ∧
    Answered S identity one t.draw two machine ∧ t.two = two.bytes ∧ t.three = three.bytes ∧
    machine.receiveActThree S three = (answer, last)

/-- The key was opened in the act three that the machine has accepted. -/
def Shown (S : Suite) (identity : Identity) (t : Transcript) (last : Machine) (key : PublicKey) :
    Prop :=
  ∃ machine three, Decided S identity t machine three (.ok ()) last ∧
    S.openText machine.tempKey 1 machine.symmetric.hash.bytes
      (StaticAct.ofOctets three).sealedKey.bytes = some key.bytes

theorem Accepted.coherent (accepted : Accepted S identity t machine) :
    Machine.Coherent .responder identity (Octets.zero 32) machine := by
  obtain ⟨one, two, three, m₁, m₂, _, hone, htwo, _, _, hthree⟩ := accepted
  have h₀ : Machine.Coherent .responder identity (Octets.zero 32) (Machine.responder S identity) :=
    Machine.coherent_opening .responder identity _
  obtain rfl : ((Machine.responder S identity).perform S (.receiveOne one)).2 = m₁ :=
    congrArg (·.2) hone
  have h₁ := h₀.performed (Machine.perform_spec (S := S) _ (.receiveOne one))
  obtain rfl : (Machine.perform S _ (.sendTwo t.draw)).2 = m₂ := congrArg (·.2) htwo
  have h₂ := h₁.performed (Machine.perform_spec (S := S) _ (.sendTwo t.draw))
  obtain rfl : (Machine.perform S _ (.receiveThree three)).2 = machine := congrArg (·.2) hthree
  exact h₂.performed (Machine.perform_spec (S := S) _ (.receiveThree three))

theorem Accepted.complete (accepted : Accepted S identity t machine) :
    machine.isComplete = true := by
  obtain ⟨_, _, _, _, _, _, _, _, _, _, hthree⟩ := accepted
  exact (Machine.concluded_of_receiveActThree hthree).1

theorem Accepted.shown (accepted : Accepted S identity t machine)
    (known : machine.remoteStatic = some key) : Shown S identity t machine key := by
  obtain ⟨one, two, three, m₁, m₂, hone, hone', htwo, htwo', hthree, hthree'⟩ := accepted
  obtain ⟨_, other, hother, opened⟩ := Machine.concluded_of_receiveActThree hthree'
  obtain rfl : other = key := Option.some.inj (hother.symm.trans known)
  exact ⟨m₂, three, ⟨one, two, hone, ⟨m₁, hone', htwo⟩, htwo', hthree, hthree'⟩, opened⟩

/-- An error that names act three comes from the machine, when it was given act three. -/
theorem decided_of_verdict {e : HandshakeError}
    (judged : verdict S identity t = .failed (.handshake e)) (names : e.act = .three)
    (uncut : t.cut ≠ some (.handshake e)) :
    ∃ machine three last, Decided S identity t machine three (.error e) last := by
  have hcut : ∀ {cut : Option Failure}, Course.ofCut cut = .failed (.handshake e) →
      cut = some (.handshake e) := by
    rintro (_ | failure) h
    · cases h
    · rw [Course.failed.inj h]
  -- errors about the other acts are no errors about act three
  have hother : ∀ {e' : HandshakeError} {act : Act}, e'.act = act → act ≠ .three →
      (Course.failed (.handshake e')) ≠ .failed (.handshake e) := by
    rintro e' act rfl hne heq
    rw [Failure.handshake.inj (Course.failed.inj heq)] at hne
    exact hne names
  unfold verdict at judged
  split at judged
  · exact absurd (hcut judged) uncut
  rename_i one hone
  split at judged
  · rename_i refused
    exact absurd judged (hother (Machine.act_of_receiveActOne refused) (by decide))
  rename_i m₁ hone'
  split at judged
  · rename_i failed
    exact absurd judged (hother (Machine.act_of_sendActTwo failed) (by decide))
  rename_i two m₂ htwo
  split at judged
  · exact absurd (hcut judged) uncut
  rename_i hwritten
  split at judged
  · exact absurd (hcut judged) uncut
  rename_i three hthree
  split at judged
  · rename_i e' last refused
    obtain rfl : e' = e := Failure.handshake.inj (Course.failed.inj judged)
    exact ⟨m₂, three, last, one, two, Octets.ofBytes?_eq_some_iff.1 hone, ⟨m₁, hone', htwo⟩,
      not_not.1 hwritten, Octets.ofBytes?_eq_some_iff.1 hthree, refused⟩
  · rename_i last accepted
    obtain ⟨other, hkey⟩ := Machine.remoteStatic_of_receiveActThree accepted
    rw [hkey] at judged
    cases judged

end Listening

namespace Listener

variable {identity : Identity} {capacity timeout : Nat} {address : Except SystemError SocketAddress}
  {l₀ : Listener}

/-- The acts are cut short by the shutdown or by a fault of the stream. -/
theorem cut_heard (l : Listener) (id : Nat) (t : Transcript) (e : Event) {failure : Failure}
    (h : (l.heard id t e).cut = some failure) :
    t.cut = some failure ∨ failure = .closed ∨ failure.isFault = true := by
  have hsee : ∀ (draw : Secret) (task : HandshakeTask),
      (t.see draw (l.sight task)).cut = some failure →
        t.cut = some failure ∨ failure = .closed ∨ failure.isFault = true := by
    intro draw task hcut
    cases hsight : l.sight task with
    | shut =>
      rw [hsight] at hcut
      exact .inr (.inl (Option.some.inj hcut).symm)
    | broken fault =>
      rw [hsight] at hcut
      obtain rfl : fault = failure := Option.some.inj hcut
      exact .inr (.inr (isFault_of_sight hsight))
    | read act bytes =>
      rw [hsight] at hcut
      cases act <;> exact .inl hcut
    | _ =>
      rw [hsight] at hcut
      exact .inl hcut
  unfold heard at h
  split at h
  · split at h
    · split at h
      · exact .inl h
      · exact hsee _ _ h
    · exact .inl h
  · exact .inl h

theorem cut_transcript (S : Suite) (id : Nat) (l : Listener) (events : List Event) (t : Transcript)
    {failure : Failure} (h : (transcript S id l events t).cut = some failure) :
    t.cut = some failure ∨ failure = .closed ∨ failure.isFault = true := by
  induction events generalizing l t with
  | nil => exact .inl h
  | cons e events ih =>
    rcases ih (l.apply S e) (l.heard id t e) h with hcut | hrest
    · exact cut_heard l id t e hcut
    · exact .inr hrest

/-- What there is to say of a connection that was taken, in terms of the listener's own identity. -/
theorem oneOutcome_run (S : Suite) (opened : ofRaw identity capacity timeout address = .ok l₀)
    (events : List Event) {id : Nat} (taken : (l₀.run S events).Taken id) :
    OneOutcome S identity (l₀.run S events) id (transcript S id l₀ events {}) := by
  have h := oneOutcome_of_told (told_run (told_opened opened) events id) taken
  rw [settings_run, identity_opened opened] at h
  exact h

/-- Whatever is submitted under a number that was not taken is a failure to take a connection. -/
theorem taken_of_submitted (S : Suite) (opened : ofRaw identity capacity timeout address = .ok l₀)
    (events : List Event) {id : Nat} {outcome : Outcome} (own : ∀ e, outcome ≠ .error (.accept e))
    (submitted : outcome ∈ (l₀.run S events).handoff.submittedBy id) :
    (l₀.run S events).Taken id := by
  by_contra notTaken
  have told : Told S id (l₀.run S events) (transcript S id l₀ events {}) :=
    told_run (told_opened opened) events id
  obtain ⟨_, e, heq⟩ := told.failures notTaken submitted
  exact own e heq

/-- Whatever connection `accept` gives is secured, and its key was opened in the peer's act three. -/
theorem secured_of_answered (S : Suite) (opened : ofRaw identity capacity timeout address = .ok l₀)
    (events : List Event) {call : Nat} {c : SecuredConnection}
    (answered : .answered call (.ok c) ∈ (l₀.run S events).log) :
    c.Secured .responder ∧
      Shown S identity (transcript S c.id l₀ events {}) c.machine c.remoteStatic := by
  have hanswer : (call, .ok c) ∈ (l₀.run S events).front.answers :=
    List.mem_filterMap.2 ⟨_, answered, rfl⟩
  have sourced := sourced_run S (sourced_opened opened) events
  obtain ⟨id, submitted⟩ := (sourced.answered call (.ok c) hanswer).resolve_left (by simp)
  have taken := taken_of_submitted S opened events (by simp) submitted
  have oneOutcome := oneOutcome_run S opened events taken
  obtain ⟨accepted, known, rfl, _⟩ := oneOutcome.secured c submitted
  exact ⟨accepted.coherent.secured accepted.complete known, accepted.shown known⟩

/-- A success that does not know the other side's key is none: where such an error is submitted, the
    machine has refused act three with it. -/
theorem decided_of_submitted (S : Suite)
    (opened : ofRaw identity capacity timeout address = .ok l₀) (events : List Event) {id : Nat}
    {e : HandshakeError} (names : e.act = .three)
    (submitted : .error (.handshake e) ∈ (l₀.run S events).handoff.submittedBy id) :
    ∃ machine three last,
      Decided S identity (transcript S id l₀ events {}) machine three (.error e) last := by
  have taken := taken_of_submitted S opened events (by simp) submitted
  have oneOutcome := oneOutcome_run S opened events taken
  refine decided_of_verdict ((oneOutcome.rejected _).1 submitted).1 names fun hcut => ?_
  rcases cut_transcript S id l₀ events {} hcut with h | h | h
  · cases h
  · cases h
  · cases h

theorem exists_answered {l : Listener} {call : Nat}
    (h : (l.front.answers.any fun a => a.1 == call && a.2.isOk) = true) :
    ∃ c, .answered call (.ok c) ∈ l.log := by
  obtain ⟨⟨n, outcome⟩, hmem, hok⟩ := List.any_eq_true.1 h
  obtain ⟨happening, hlog, hanswer⟩ := List.mem_filterMap.1 hmem
  rw [Bool.and_eq_true, beq_iff_eq] at hok
  obtain ⟨rfl, hok⟩ := hok
  cases outcome with
  | error e => cases hok
  | ok c =>
    refine ⟨c, ?_⟩
    unfold answer? at hanswer
    split at hanswer
    · cases hanswer
      exact hlog
    · cases hanswer

end Listener

/-- **Every secured connection is secured.**  Whatever comes from the other side, and whatever else
    goes on: a connection that `accept` gives holds a responder's machine, and one that a dialer gives
    an initiator's; the machine is done, and holds the keys for what follows and the static key that
    the connection has for the other side's.  On the listener's side that is the key that was opened
    in the act three which was accepted, on the dialer's side the one that was asked for.  A machine
    that has accepted act three knows the other side's key, so that the acts succeed: an error about
    act three is always the machine's own. -/
theorem secured_connections (S : Suite) :
    (∀ (identity : Identity) (capacity timeout : Nat) (address : Except SystemError SocketAddress)
      (l₀ : Listener), Listener.ofRaw identity capacity timeout address = .ok l₀ →
      ∀ events : List Listener.Event,
        (∀ call c, .answered call (.ok c) ∈ (l₀.run S events).log →
          c.Secured .responder ∧
            Shown S identity (Listener.transcript S c.id l₀ events {}) c.machine c.remoteStatic) ∧
        ∀ id (e : HandshakeError), e.act = .three →
          .error (.handshake e) ∈ (l₀.run S events).handoff.submittedBy id →
          ∃ machine three last,
            Decided S identity (Listener.transcript S id l₀ events {}) machine three (.error e)
              last) ∧
    (∀ (l : Listener) id task (machine m : Machine) act,
      machine.receiveActThree S act = (.ok (), m) →
        ∃ remote, m.remoteStatic = some remote ∧
          l.takeActThree S id task machine act = l.succeedActs id task m remote) ∧
    ∀ identity remote peer timeout ephemeral wire now (events : List Dial.Event) c,
      let line : Dial.Line := ⟨Dial.start S identity remote peer timeout ephemeral, wire, now⟩
      (line.run S events).dial.result? = some (.ok c) →
        c.Secured .initiator ∧ c.remoteStatic = remote := by
  refine ⟨fun identity capacity timeout address l₀ opened events => ⟨?_, ?_⟩, ?_, ?_⟩
  · exact fun call c answered => Listener.secured_of_answered S opened events answered
  · exact fun id e names submitted => Listener.decided_of_submitted S opened events names submitted
  · intro l id task machine m act accepted
    obtain ⟨remote, hremote⟩ := Machine.remoteStatic_of_receiveActThree accepted
    refine ⟨remote, hremote, ?_⟩
    rw [Listener.takeActThree, accepted]
    simp only [hremote]
  · intro identity remote peer timeout ephemeral wire now events c line hresult
    have bound : Dial.Bound identity remote (line.run S events).dial :=
      (Dial.bound_start S identity remote peer timeout ephemeral).run events
    exact bound.secured hresult

/-- X25519 on sample secrets: the acts of the initiator as `accept` meets with them, and the
    responder's act two as a dialer does. -/
theorem secured_connections_sample :
    let i : Identity := ⟨Octets.replicate 32 1⟩
    let r : Identity := ⟨Octets.replicate 32 2⟩
    let one : Bytes :=
      [0, 93, 254, 221, 59, 107, 212, 127, 111, 162, 142, 225, 93, 150, 157, 91, 176, 234, 83,
        119, 77, 72, 139, 218, 249, 223, 28, 110, 1, 36, 179, 239, 34, 34, 178, 101, 244, 48, 132,
        5, 188, 208, 200, 47, 122, 226, 120, 232, 3]
    let two : Bytes :=
      [0, 172, 1, 178, 32, 158, 134, 53, 79, 184, 83, 35, 123, 93, 224, 244, 250, 177, 60, 127,
        203, 244, 51, 166, 28, 1, 147, 105, 97, 127, 236, 241, 11, 144, 194, 2, 126, 104, 123, 218,
        97, 210, 68, 129, 35, 52, 145, 202, 242]
    let three : Bytes :=
      [0, 15, 125, 154, 193, 12, 163, 247, 213, 79, 173, 45, 200, 229, 62, 238, 127, 108, 170,
        144, 59, 186, 62, 193, 124, 12, 250, 160, 93, 58, 198, 102, 126, 48, 43, 171, 52, 156, 62,
        193, 124, 205, 244, 86, 33, 176, 194, 227, 9, 112, 77, 227, 148, 80, 229, 246, 132, 160,
        155, 181, 189, 175, 209, 94, 117]
    let home : SocketAddress := ⟨.v4 ⟨127, 0, 0, 1⟩, 9735, 0⟩
    let line : Dial.Line := ⟨.start .unhashed i (r.publicKey .unhashed) home 1000
      (Octets.replicate 32 3), {}, 0⟩
    let dialed := line.run .unhashed [.step, .step, .wire (.send two), .step, .step]
    let heard : List Listener.Event :=
      [.newStream 0, .arrive (.ok ⟨0, home⟩), .step .loop, .step .loop, .startCall 0,
        .step (.call 0), .chance ⟨List.replicate 32 4, []⟩, .step (.task 1), .wire 0 (.send one),
        .step (.task 1), .step (.task 1), .step (.task 1), .wire 0 (.send three), .step (.task 1),
        .step (.task 1), .step (.call 0)]
    (∃ c, dialed.dial.result? = some (.ok c) ∧ c.Secured .initiator ∧
      c.remoteStatic = r.publicKey .unhashed) ∧
    ∃ l₀, Listener.ofRaw r 1 1000 (.ok home) = .ok l₀ ∧
      ∃ c, .answered 0 (.ok c) ∈ (l₀.run .unhashed heard).log ∧ c.Secured .responder ∧
        Shown .unhashed r (Listener.transcript .unhashed c.id l₀ heard {}) c.machine
          c.remoteStatic := by
  obtain ⟨listens, _, dials⟩ := secured_connections .unhashed
  refine ⟨?_, _, rfl, ?_⟩
  · refine (Dial.exists_result (by decide +kernel)).imp fun c hresult => ⟨hresult, ?_⟩
    exact dials _ _ _ _ _ _ _ _ c hresult
  · refine (Listener.exists_answered (by decide +kernel)).imp fun c answered => ⟨answered, ?_⟩
    exact (listens _ 1 1000 (.ok ⟨.v4 ⟨127, 0, 0, 1⟩, 9735, 0⟩) _ rfl _).1 0 c answered

end Gatehouse
