import Gatehouse.Proofs.Dial.Flow
import Gatehouse.Proofs.Dial.Timing
import Gatehouse.Proofs.Handshake.Faults
import Gatehouse.Proofs.Handshake.Nonces

/-!
# What a dialer comes to

Whatever the other side does: a dialer gives a connection just if act one was written, act two was
read in time and accepted, and act three was written (`Dial.Succeeds`), and otherwise the failure of
the first of these steps that fails (`Dial.Fails`).  What it has sent and read is told in full
(`Dial.Account`), on top of which stands `Dial.dial_outcome`.
-/

namespace Gatehouse

namespace Machine

variable {S : Suite} {own : Identity} {remote : PublicKey} {draw : Secret} {m₁ m₂ : Machine}
  {one two : Octets keyActSize}

/-- Act one to a key that does not contribute cannot be made. -/
theorem sendActOne_of_lowOrder (cipher : S.CipherLaws) (own : Identity) (draw : Secret)
    (lowOrder : S.LowOrder remote) :
    ∃ m, (initiator S own remote).sendActOne S draw = (.error (.invalidKey .one), m) := by
  have spec := sendOne_spec cipher (m := initiator S own remote) (e := draw) rfl rfl
  simp only [lowOrder draw, perform] at spec
  rcases made : (initiator S own remote).sendActOne S draw with ⟨e | one, m⟩
  · rw [made] at spec
    cases spec
    exact ⟨m, rfl⟩
  · rw [made] at spec
    cases spec

/-- Act one to any other key can. -/
theorem exists_actOne (cipher : S.CipherLaws) (uniform : S.UniformAgreement) (own : Identity)
    (draw : Secret) (contributes : ¬ S.LowOrder remote) :
    ∃ one m, (initiator S own remote).sendActOne S draw = (.ok one, m) := by
  have spec := sendOne_spec cipher (m := initiator S own remote) (e := draw) rfl rfl
  cases agreed : S.agree draw remote with
  | none => exact absurd (uniform.lowOrder agreed) contributes
  | some shared =>
    simp only [agreed, perform] at spec
    obtain ⟨act, spec⟩ := spec
    rcases made : (initiator S own remote).sendActOne S draw with ⟨e | one, m⟩
    · rw [made] at spec
      cases spec
    · exact ⟨one, m, rfl⟩

/-- Whoever has accepted act two can make act three. -/
theorem exists_actThree (cipher : S.CipherLaws) (uniform : S.UniformAgreement)
    (asked : (initiator S own remote).sendActOne S draw = (.ok one, m₁))
    (accepted : m₁.receiveActTwo S two = (.ok (), m₂)) :
    ∃ three m, m₂.sendActThree S = (.ok three, m) := by
  have asked : (initiator S own remote).perform S (.sendOne draw) = (.ok (.act one.bytes), m₁) := by
    rw [perform, asked]
    rfl
  have accepted : m₁.perform S (.receiveTwo two) = (.ok .accepted, m₂) := by
    rw [perform, accepted]
    rfl
  have fresh : Introduces S (initiator S own remote) := by
    intro key held
    cases held
  have introduces := (fresh.perform uniform (.sendOne draw)).perform uniform (.receiveTwo two)
  have first := perform_spec (S := S) (initiator S own remote) (.sendOne draw)
  have second := perform_spec (S := S) m₁ (.receiveTwo two)
  rw [asked] at first introduces
  rw [accepted] at second introduces
  have coherent := ((coherent_opening (S := S) .initiator own remote).performed first).performed second
  have due : Operation.sendThree.owner = (m₂.role, m₂.stage) := by
    refine Prod.ext coherent.role_eq.symm ?_
    cases second
    rfl
  have sent := due_sendThree cipher introduces due (coherent.supplied due)
  rcases made : m₂.sendActThree S with ⟨e | three, m⟩
  · -- nothing is left that it could fail at
    rw [perform, made] at sent
    cases sent with
    | unknownVersion receipt | badTag receipt | lowOrder receipt => cases receipt
  · exact ⟨three, m, rfl⟩

end Machine

namespace Dial

/-! ## Success and failure -/

/-- Act one is written. -/
def Tale.Wrote (one : Octets keyActSize) (t : Tale) : Prop := t.oneFault = none ∧ t.one = one.bytes

/-- After that, act two is read. -/
def Tale.Heard (one two : Octets keyActSize) (t : Tale) : Prop :=
  t.Wrote one ∧ t.lapse = none ∧ t.two = two.bytes

/-- Both acts are written, and act two was accepted in between; this is the machine that is left. -/
def Succeeds (S : Suite) (m₁ : Machine) (one : Octets keyActSize) (t : Tale) (m : Machine) : Prop :=
  ∃ two three, t.Heard one two ∧ Replied S m₁ two three m ∧
    t.threeFault = none ∧ t.three = three.bytes

/-- A step fails before which the others have not, and with what. -/
inductive Fails (S : Suite) (m₁ : Machine) (one : Octets keyActSize) (t : Tale) : Failure → Prop
  /-- Act one is not written. -/
  | writesOne (e : SystemError) (fault : t.oneFault = some e) : Fails S m₁ one t (.io .one e)
  /-- Act two is not read: the stream ends or breaks, or it is too late. -/
  | readsTwo (lapse : Lapse) (wrote : t.Wrote one) (lapses : t.lapse = some lapse) :
    Fails S m₁ one t lapse.failure
  /-- Act two is refused. -/
  | acceptsTwo (two : Octets keyActSize) (e : HandshakeError) (m : Machine)
      (heard : t.Heard one two) (refused : m₁.receiveActTwo S two = (.error e, m)) :
    Fails S m₁ one t (.handshake e)
  /-- Act three is not written. -/
  | writesThree (two : Octets keyActSize) (three : Octets staticActSize) (m : Machine)
      (e : SystemError) (heard : t.Heard one two) (replied : Replied S m₁ two three m)
      (fault : t.threeFault = some e) : Fails S m₁ one t (.io .three e)

variable {S : Suite} {own : Identity} {remote : PublicKey} {draw : Secret} {t : Tale} {d : Dial}
  {one two : Octets keyActSize} {three : Octets staticActSize} {m₁ m : Machine} {failure : Failure}
  {l : Line} {peer : SocketAddress} {timeout now due : Nat} {wire : Wire} {got : Bytes}
  {events : List Event}

theorem verdict_of_succeeds (asked : Asked S own remote draw one m₁)
    (succeeds : Succeeds S m₁ one t m) : verdict S own remote draw t = .secured m remote := by
  obtain ⟨two, three, ⟨⟨unbroken, wrote⟩, inTime, heard⟩, ⟨m₂, accepted, made⟩, unbroken', wrote'⟩ :=
    succeeds
  rw [verdict_of_asked asked]
  simp only [unbroken, wrote, inTime, heard, Octets.ofBytes?_bytes, accepted, made, unbroken',
    wrote', ne_eq, not_true_eq_false, if_false]

theorem verdict_of_fails (asked : Asked S own remote draw one m₁) (fails : Fails S m₁ one t failure) :
    verdict S own remote draw t = .failed failure := by
  rw [verdict_of_asked asked]
  cases fails with
  | writesOne e fault => simp only [fault]
  | readsTwo lapse wrote lapses =>
    obtain ⟨unbroken, wrote⟩ := wrote
    simp only [unbroken, wrote, lapses, ne_eq, not_true_eq_false, if_false]
  | acceptsTwo two e m heard refused =>
    obtain ⟨⟨unbroken, wrote⟩, inTime, heard⟩ := heard
    simp only [unbroken, wrote, inTime, heard, Octets.ofBytes?_bytes, refused, ne_eq,
      not_true_eq_false, if_false]
  | writesThree two three m e heard replied fault =>
    obtain ⟨⟨unbroken, wrote⟩, inTime, heard⟩ := heard
    obtain ⟨m₂, accepted, made⟩ := replied
    simp only [unbroken, wrote, inTime, heard, Octets.ofBytes?_bytes, accepted, made, fault, ne_eq,
      not_true_eq_false, if_false]

/-- Act one is what the machine makes of it. -/
theorem Asked.unique {one' : Octets keyActSize} {m₁' : Machine}
    (asked : Asked S own remote draw one m₁) (asked' : Asked S own remote draw one' m₁') :
    one' = one ∧ m₁' = m₁ := by
  obtain ⟨same, rfl⟩ := Prod.mk.inj ((Eq.symm asked').trans asked)
  exact ⟨Except.ok.inj same, rfl⟩

namespace Sofar

/-- A dialer whose act one can be made has come to what the reading makes of its tale. -/
theorem course_eq_of_asked (sofar : Sofar S own remote draw t d.phase d.machine)
    (asked : Asked S own remote draw one m₁) (key : d.remoteStatic = remote) :
    d.course = verdict S own remote draw t := by
  by_cases begun : d.phase = .begun draw
  · obtain ⟨peer, known, timeout, machine, phase⟩ := d
    cases begun
    cases sofar with
    | begun =>
      rw [verdict_of_asked asked]
      exact (if_pos fun empty => one.bytes_ne_nil empty.symm).symm
  · exact sofar.course_eq key begun

theorem succeeds (sofar : Sofar S own remote draw t .secured m)
    (asked : Asked S own remote draw one m₁) : Succeeds S m₁ one t m := by
  cases sofar with
  | secured asked' replied =>
    obtain ⟨rfl, rfl⟩ := asked.unique asked'
    exact ⟨_, _, ⟨⟨rfl, rfl⟩, rfl, rfl⟩, replied, rfl, rfl⟩

theorem fails (cipher : S.CipherLaws) (uniform : S.UniformAgreement)
    (sofar : Sofar S own remote draw t (.failed failure) m)
    (asked : Asked S own remote draw one m₁) : Fails S m₁ one t failure := by
  generalize phase_eq : DialPhase.failed failure = phase at sofar
  cases sofar with
  | unasked failed => cases (Eq.symm asked).trans failed
  | brokeOne asked' sent left split more e =>
    cases phase_eq
    exact .writesOne e rfl
  | lapsed asked' got short lapse =>
    obtain ⟨rfl, rfl⟩ := asked.unique asked'
    cases phase_eq
    exact .readsTwo lapse ⟨rfl, rfl⟩ rfl
  | refused asked' refused =>
    obtain ⟨rfl, rfl⟩ := asked.unique asked'
    cases phase_eq
    exact .acceptsTwo _ _ _ ⟨⟨rfl, rfl⟩, rfl, rfl⟩ refused
  | unreplied asked' accepted failed =>
    obtain ⟨three, m, made⟩ := Machine.exists_actThree cipher uniform asked' accepted
    cases failed.symm.trans made
  | brokeThree asked' replied sent left split more e =>
    obtain ⟨rfl, rfl⟩ := asked.unique asked'
    cases phase_eq
    exact .writesThree _ _ _ e ⟨⟨rfl, rfl⟩, rfl, rfl⟩ replied rfl
  | _ => cases phase_eq

/-- A dialer never ends as a listener does that is closed. -/
theorem not_closed (sofar : Sofar S own remote draw t d.phase d.machine) :
    d.phase ≠ .failed .closed := by
  generalize d.phase = phase, d.machine = machine at sofar
  cases sofar with
  | lapsed asked got short lapse =>
    exact fun closed => lapse.failure_ne_closed (DialPhase.failed.inj closed)
  | _ => exact nofun

/-- A dialer that cannot make act one has done nothing, or has failed at once. -/
theorem of_unasked {e : HandshakeError} {m' : Machine}
    (sofar : Sofar S own remote draw t d.phase d.machine)
    (failed : (Machine.initiator S own remote).sendActOne S draw = (.error e, m')) :
    t = {} ∧ (d.phase = .begun draw ∨ d.phase = .failed (.handshake e)) := by
  obtain ⟨peer, known, timeout, machine, phase⟩ := d
  cases sofar with
  | begun => exact ⟨rfl, .inl rfl⟩
  | unasked failed' =>
    obtain ⟨same, _⟩ := Prod.mk.inj (failed.symm.trans failed')
    cases same
    exact ⟨rfl, .inr rfl⟩
  | writeOne asked | readTwo asked | writeThree asked | secured asked | brokeOne asked
  | lapsed asked | refused asked | unreplied asked | brokeThree asked =>
    cases failed.symm.trans asked

end Sofar

/-! ## The result -/

theorem result?_eq_ok {c : SecuredConnection} :
    d.result? = some (.ok c) ↔ d.phase = .secured ∧ c = ⟨0, 0, d.peer, d.remoteStatic, d.machine⟩ := by
  unfold result?
  split
  · rename_i phase_eq
    rw [Option.some.injEq, Except.ok.injEq]
    exact ⟨fun h => ⟨phase_eq, h.symm⟩, fun h => h.2.symm⟩
  · rename_i failure phase_eq
    exact ⟨nofun, fun h => nomatch phase_eq.symm.trans h.1⟩
  · rename_i notSecured _
    exact ⟨nofun, fun h => absurd h.1 notSecured⟩

theorem result?_eq_error : d.result? = some (.error failure) ↔ d.phase = .failed failure := by
  unfold result?
  split
  · rename_i phase_eq
    exact ⟨nofun, fun h => nomatch phase_eq.symm.trans h⟩
  · rename_i failure' phase_eq
    rw [Option.some.injEq, Except.error.injEq]
    exact ⟨fun h => h ▸ phase_eq, fun h => DialPhase.failed.inj (phase_eq.symm.trans h)⟩
  · rename_i notFailed
    exact ⟨nofun, fun h => absurd h (notFailed _)⟩

theorem phase_of_course {remote' : PublicKey} (course : d.course = .secured m remote') :
    d.phase = .secured ∧ d.machine = m := by
  unfold Dial.course at course
  split at course
  · rename_i phase_eq
    cases course
    exact ⟨phase_eq, rfl⟩
  all_goals cases course

theorem phase_of_course_failed (course : d.course = .failed failure) :
    d.phase = .failed failure := by
  unfold Dial.course at course
  split at course
  · cases course
  · rename_i phase_eq
    cases course
    exact phase_eq
  all_goals cases course

/-! ## What there is to say of a dialer -/

/-- A dialer that reads act two, since a turn in which it wrote the last of act one. -/
structure Reads (S : Suite) (l : Line) (events : List Event) (got : Bytes) (due : Nat) : Prop where
  phase_eq : (l.run S events).dial.phase = .readTwo got due
  short : got.length < keyActSize
  begun : ∃ first rest, events = first ++ .step :: rest ∧
    Begins (l.run S first) l.dial.timeout due
  /-- All that has come is what it has read, and what is there to be read. -/
  there : l.wire.inward.unread ++ l.arrived S events = got ++ (l.run S events).wire.inward.unread
  /-- If it is prompt, the time is not over. -/
  inTime : l.Prompt S events → (l.run S events).now ≤ due

/-- What there is to say of a dialer with a tale, after a list of events, if it can make act one. -/
structure Account (S : Suite) (one : Octets keyActSize) (m₁ : Machine) (l : Line)
    (events : List Event) (t : Tale) : Prop where
  /-- It gives a connection just where all steps succeed. -/
  succeeds : ∀ c, (l.run S events).dial.result? = some (.ok c) ↔
    ∃ m, Succeeds S m₁ one t m ∧ c = ⟨0, 0, l.dial.peer, l.dial.remoteStatic, m⟩
  /-- It gives a failure just where a step fails, and no other one than that. -/
  fails : ∀ failure, (l.run S events).dial.result? = some (.error failure) ↔ Fails S m₁ one t failure
  /-- Act one goes out once, as far as it is taken. -/
  actOne : t.one <+: one.bytes
  /-- No more than act two is read of what comes. -/
  actTwo : t.two.length ≤ keyActSize
  /-- Act three goes out once, and after act two was accepted. -/
  actThree : t.three ≠ [] → ∃ two three m, t.Heard one two ∧ Replied S m₁ two three m ∧
    t.three <+: three.bytes
  /-- Nothing else goes out: that is what the other side has taken, or can take. -/
  sent : l.wire.outward.unread ++ (t.one ++ t.three) =
    l.collected S events ++ (l.run S events).wire.outward.unread
  /-- Whatever comes after act two is there to be read, unless the dialer has hung up. -/
  rest : ¬ Failed (l.run S events).dial →
    l.wire.inward.unread ++ l.arrived S events = t.two ++ (l.run S events).wire.inward.unread
  /-- What writing an act fails with was found in a turn. -/
  broken : ∀ act e, t.fault act = some e → ∃ before after, events = before ++ .step :: after ∧
    Breaks (l.run S before) act e
  reads : ∀ got due, (l.run S events).dial.phase = .readTwo got due → Reads S l events got due
  /-- Act two was read, or it turned out that it could not be, in a turn of its own. -/
  decided : t.Decided → ∃ before after got due, events = before ++ .step :: after ∧
    Reads S l before got due ∧ Over (l.run S before) got due t.two t.lapse

namespace Sofar

theorem one_prefix (sofar : Sofar S own remote draw t d.phase d.machine)
    (asked : Asked S own remote draw one m₁) : t.one <+: one.bytes := by
  obtain ⟨peer, known, timeout, machine, phase⟩ := d
  cases sofar with
  | begun | unasked => exact List.nil_prefix
  | writeOne asked' sent left split | brokeOne asked' sent left split =>
    obtain ⟨rfl, rfl⟩ := asked.unique asked'
    exact ⟨left, split⟩
  | readTwo asked' | writeThree asked' | secured asked' | lapsed asked' | refused asked'
  | unreplied asked' | brokeThree asked' =>
    obtain ⟨rfl, rfl⟩ := asked.unique asked'
    exact List.prefix_rfl

theorem length_two_le (sofar : Sofar S own remote draw t d.phase d.machine) :
    t.two.length ≤ keyActSize := by
  obtain ⟨peer, known, timeout, machine, phase⟩ := d
  cases sofar with
  | begun | writeOne | unasked | brokeOne => exact Nat.zero_le _
  | readTwo asked got due short | lapsed asked got short => exact Nat.le_of_lt short
  | @writeThree _ two | @secured _ two | @refused _ two | @unreplied _ two | @brokeThree _ two =>
    exact Nat.le_of_eq two.length_eq

theorem three_prefix (sofar : Sofar S own remote draw t d.phase d.machine)
    (asked : Asked S own remote draw one m₁) (goes : t.three ≠ []) :
    ∃ two three m, t.Heard one two ∧ Replied S m₁ two three m ∧ t.three <+: three.bytes := by
  obtain ⟨peer, known, timeout, machine, phase⟩ := d
  cases sofar with
  | writeThree asked' replied sent left split | brokeThree asked' replied sent left split =>
    obtain ⟨rfl, rfl⟩ := asked.unique asked'
    exact ⟨_, _, _, ⟨⟨rfl, rfl⟩, rfl, rfl⟩, replied, left, split⟩
  | secured asked' replied =>
    obtain ⟨rfl, rfl⟩ := asked.unique asked'
    exact ⟨_, _, _, ⟨⟨rfl, rfl⟩, rfl, rfl⟩, replied, List.prefix_rfl⟩
  | _ => exact absurd rfl goes

theorem two_of_reading (sofar : Sofar S own remote draw t d.phase d.machine)
    (reading : d.phase = .readTwo got due) : t.two = got ∧ got.length < keyActSize := by
  rw [reading] at sofar
  generalize d.machine = machine at sofar
  cases sofar with
  | readTwo asked _ _ short => exact ⟨rfl, short⟩

end Sofar

section Beginning

variable (begun : l.dial.phase = .begun draw)
  (sofar : Sofar S own remote draw {} l.dial.phase l.dial.machine)

include begun sofar

theorem reads_of_reading (reading : (l.run S events).dial.phase = .readTwo got due) :
    Reads S l events got due where
  phase_eq := reading
  short := ((sofar.run events).two_of_reading reading).2
  begun := by
    refine (exists_begun reading).resolve_left ?_
    rintro ⟨got', reading'⟩
    cases begun.symm.trans reading'
  there := by
    have stays : ¬ Failed (l.run S events).dial := by
      rintro ⟨failure, failed⟩
      cases reading.symm.trans failed
    obtain ⟨taken, told, unread⟩ := sofar.inward_run stays
    rw [← ((sofar.run events).two_of_reading reading).1, told]
    exact unread
  inTime prompt := by
    refine Line.InTime.run (fun got' due' reading' => ?_) prompt got due reading
    cases begun.symm.trans reading'

/-- **A dialer that can make act one accounts for all that it does.** -/
theorem account (cipher : S.CipherLaws) (uniform : S.UniformAgreement)
    (asked : Asked S own remote draw one m₁) (key : l.dial.remoteStatic = remote)
    (events : List Event) : Account S one m₁ l events (l.tale S events {}) := by
  obtain ⟨samePeer, sameKey, _⟩ := settings_run S l events
  have sofar' := sofar.run events
  have course := sofar'.course_eq_of_asked asked (sameKey.trans key)
  refine
    { succeeds := fun c => ?_
      fails := fun failure => ?_
      actOne := sofar'.one_prefix asked
      actTwo := sofar'.length_two_le
      actThree := sofar'.three_prefix asked
      sent := ?_
      rest := fun stays => ?_
      broken := fun act e fault => ?_
      reads := fun got due => reads_of_reading begun sofar
      decided := fun decided => ?_ }
  · -- what is reached is what the tale tells of, and the tale decides what is reached
    rw [result?_eq_ok, samePeer, sameKey]
    constructor
    · rintro ⟨phase_eq, rfl⟩
      rw [phase_eq] at sofar'
      exact ⟨_, sofar'.succeeds asked, rfl⟩
    · rintro ⟨m, succeeds, rfl⟩
      obtain ⟨phase_eq, machine⟩ :=
        phase_of_course (course.trans (verdict_of_succeeds asked succeeds))
      exact ⟨phase_eq, by rw [machine]⟩
  · rw [result?_eq_error]
    constructor
    · intro phase_eq
      rw [phase_eq] at sofar'
      exact sofar'.fails cipher uniform asked
    · intro fails
      exact phase_of_course_failed (course.trans (verdict_of_fails asked fails))
  · obtain ⟨put, told, unread⟩ := sofar.outward_run events
    rw [told]
    exact unread
  · obtain ⟨taken, told, unread⟩ := sofar.inward_run stays
    rw [told]
    exact unread
  · -- nothing has failed and nothing is decided at the beginning, so there is a turn that does it
    have whole : Tale.fault {} act ≠ some e := by
      cases act <;> exact nofun
    obtain ⟨before, e', after, split, still, now⟩ := exists_turn (·.fault act = some e) whole fault
    obtain ⟨rfl, breaks⟩ := breaks_of_see still now
    exact ⟨before, after, split, breaks⟩
  · have undecided : ¬ Tale.Decided {} := by
      rintro (lapse | full)
      · exact lapse rfl
      · cases full
    obtain ⟨before, after, got, due, split, reading, ended⟩ := sofar.exists_over undecided decided
    exact ⟨before, after, got, due, split, reads_of_reading begun sofar reading, ended⟩

end Beginning

/-- A dialer that cannot make act one sends nothing, and fails in its first turn. -/
theorem Sofar.refusal {e : HandshakeError} {m' : Machine}
    (sofar : Sofar S own remote draw {} l.dial.phase l.dial.machine)
    (failed : (Machine.initiator S own remote).sendActOne S draw = (.error e, m'))
    (events : List Event) :
    l.wire.outward.unread = l.collected S events ++ (l.run S events).wire.outward.unread ∧
      (.step ∈ events → (l.run S events).dial.result? = some (.error (.handshake e))) := by
  obtain ⟨nothing, phase⟩ := (sofar.run events).of_unasked failed
  constructor
  · obtain ⟨put, told, unread⟩ := sofar.outward_run events
    rw [nothing] at told
    obtain rfl : put = [] := told.symm
    rw [← unread, List.append_nil]
  · intro turn
    rcases phase with unturned | failed
    · exact absurd turn (begun_of_run unturned).2
    · exact result?_eq_error.2 failed

/-- **What dialing comes to.**  Let it depend on the key alone whether a key contributes.  Whoever
    dials, whatever is drawn, and whatever the other side does and when: to a key that does not
    contribute nothing is sent, and the dialer fails for that key.  To any other key act one goes
    out, once, and the dialer accounts for what follows (`Account`): act three goes out only when
    act two was there in time and was accepted; there is a connection just where that is so and both
    acts could be written, and otherwise the failure of the first step that has failed; what comes
    behind act two is left on the stream.  It never ends as a listener does that is closed.  The
    first result is the last, and until there is one the dialer can only be waiting for room to write,
    or for act two while there is time.  Nothing that happens keeps it from being prompt. -/
theorem dial_outcome (publicKey : Secret → PublicKey) (agree : Secret → PublicKey → Option Key)
    (uniform : ∀ a b key, (agree a key).isSome = (agree b key).isSome) (own : Identity)
    (remote : PublicKey) (draw : Secret) (peer : SocketAddress) (timeout : Nat) (wire : Wire)
    (now : Nat) :
    let S := Suite.standard.withAgreement publicKey agree
    let l₀ : Line := ⟨start S own remote peer timeout draw, wire, now⟩
    (S.LowOrder remote → ∀ events,
      l₀.wire.outward.unread = l₀.collected S events ++ (l₀.run S events).wire.outward.unread ∧
      (.step ∈ events →
        (l₀.run S events).dial.result? = some (.error (.handshake (.invalidKey .one))))) ∧
    (¬ S.LowOrder remote → ∃ one m₁, Asked S own remote draw one m₁ ∧
      ∀ events, Account S one m₁ l₀ events (l₀.tale S events {})) ∧
    (∀ events, let l := l₀.run S events
      l.dial.result? ≠ some (.error .closed) ∧
      (l.dial.result?.isSome = true → ∀ more, (l.run S more).dial = l.dial) ∧
      (l.dial.step S l.now l.wire = none → l.dial.result?.isSome = true ∨ Waits l) ∧
      ∃ steps, let l' := l.run S (List.replicate steps .step)
        l'.dial.step S l'.now l'.wire = none) ∧
    ∀ doings : List Event, (∀ ms, .advance ms ∈ doings → ms ≤ 1) →
      ∃ events, l₀.Prompt S events ∧
        events.filter Event.isOutside = doings.filter Event.isOutside ∧
        let l := l₀.run S events
        l.dial.step S l.now l.wire = none := by
  intro S l₀
  have cipher : S.CipherLaws :=
    Suite.withAgreement_cipherLaws Suite.standard_cipherLaws publicKey agree
  have uniform : S.UniformAgreement :=
    Suite.withAgreement_uniformAgreement publicKey uniform
  have begun : l₀.dial.phase = .begun draw := rfl
  have sofar : Sofar S own remote draw {} l₀.dial.phase l₀.dial.machine := .begun
  have unfinished : Unfinished l₀.dial.phase := unfinished_start S own remote peer timeout draw
  refine ⟨fun lowOrder events => ?_, fun contributes => ?_, fun events => ⟨?_, run_of_done,
    done_or_waits, exists_idle S (unfinished.run events)⟩, exists_prompt unfinished⟩
  · obtain ⟨m, failed⟩ := Machine.sendActOne_of_lowOrder cipher own draw lowOrder
    exact sofar.refusal failed events
  · obtain ⟨one, m₁, asked⟩ := Machine.exists_actOne cipher uniform own draw contributes
    exact ⟨one, m₁, asked, account begun sofar cipher uniform asked rfl⟩
  · exact fun closed => (sofar.run events).not_closed (result?_eq_error.1 closed)

/-- A key of zeros, and one that contributes but whose holder keeps silent for a second. -/
theorem dial_outcome_sample :
    let S := Suite.standard.withAgreement Curve25519.publicKey uniformAgree
    let own : Identity := ⟨Octets.replicate 32 1⟩
    let remote := Curve25519.publicKey (Octets.replicate 32 2)
    let draw : Secret := Octets.replicate 32 3
    let home : SocketAddress := ⟨.v4 ⟨127, 0, 0, 1⟩, 9735, 0⟩
    let astray : Line := ⟨start S own (Octets.zero 32) home 1000 draw, {}, 0⟩
    let line : Line := ⟨start S own remote home 1000 draw, {}, 0⟩
    let silence : List Event := [.step, .step, .advance 1000, .step]
    (astray.run S [.step]).dial.result? = some (.error (.handshake (.invalidKey .one))) ∧
      ∃ one m₁, Asked S own remote draw one m₁ ∧
        (line.run S silence).dial.result? = some (.error (.timeout .two)) ∧
        Fails S m₁ one (line.tale S silence {}) (.timeout .two) ∧
        (line.tale S silence {}).one = one.bytes := by
  intro S own remote draw home astray line silence
  have void : (S.agree draw (Octets.zero 32)).isNone = true := by decide +kernel
  have agreed : (S.agree draw remote).isSome = true := by decide +kernel
  have late : (line.run S silence).dial.result? = some (.error (.timeout .two)) := by decide +kernel
  have whole : (line.tale S silence {}).one.length = keyActSize := by decide +kernel
  obtain ⟨refuses, _⟩ := dial_outcome Curve25519.publicKey uniformAgree isSome_uniformAgree own
    (Octets.zero 32) draw home 1000 {} 0
  obtain ⟨_, accounts, _⟩ := dial_outcome Curve25519.publicKey uniformAgree isSome_uniformAgree own
    remote draw home 1000 {} 0
  have uniform : S.UniformAgreement :=
    Suite.withAgreement_uniformAgreement Curve25519.publicKey isSome_uniformAgree
  obtain ⟨one, m₁, asked, account⟩ := accounts fun lowOrder => by
    rw [lowOrder draw] at agreed
    cases agreed
  have lowOrder : S.LowOrder (Octets.zero 32) :=
    uniform.lowOrder (Option.isNone_iff_eq_none.1 void)
  refine ⟨(refuses lowOrder [.step]).2 (List.mem_singleton.2 rfl), one, m₁, asked, late,
    ((account silence).fails _).1 late, ?_⟩
  exact (account silence).actOne.eq_of_length (whole.trans one.length_eq.symm)

end Dial

end Gatehouse
