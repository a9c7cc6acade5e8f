import Gatehouse.Proofs.Encounter.Gate

/-!
# A dialer and a listener agree

Dialed with the listener's public key, and as long as no act is late, no connection breaks and the
shutdown is not fired, the two come to the same connection, however the network cuts the bytes into
pieces.  What carries the proof is an account of all the bytes (`Joined`): what the dialer has sent
is what the handshake has read with what is still on its way or waits to be read, and the other way
round.  So both sides hear honest acts only, and neither can fail.
-/

namespace Gatehouse

namespace Encounter

open Listener

variable {S : Suite} {i r : Identity} {eᵢ : Secret} {m : Encounter} {owner : Option Nat}
  {t : Transcript} {w w' : Wire} {sent got : Bytes} {id : Nat}

/-! ## The account of the bytes -/

/-- The dialer has sent and read so much, the handshake has met with `t`, and every byte is accounted
    for. -/
structure Joined (S : Suite) (i r : Identity) (eᵢ : Secret) (m : Encounter) (t : Transcript)
    (w : Wire) (sent got : Bytes) : Prop where
  found : m.listener.wires.find? m.stream = some w
  through : ∃ A : Acts S i r eᵢ t.draw, m.line.dial.Through A sent got
  clean : m.line.wire.Clean
  /-- What the network has brought to the listener, and what is on its way. -/
  inward : m.carriedIn ++ m.line.wire.outward.unread = sent ++ m.saidIn
  /-- What the network has brought to the dialer, and what is on its way. -/
  outward : m.carriedOut ++ w.outward.unread = t.two ++ m.saidOut
  read : m.carriedOut = got ++ m.line.wire.inward.unread
  heard : t.one ++ t.three <+: m.carriedIn
  whole : t.cut = none
  /-- What was brought to the listener was read or waits to be. -/
  tidy : w.gateOpen = true → w.Clean ∧ m.carriedIn = t.one ++ t.three ++ w.inward.unread
  closed : w.gateOpen = false → verdict S r t ≠ .going
  saidIn : m.saidIn ≠ [] → m.line.dial.phase = .secured
  saidOut : m.saidOut ≠ [] → verdict S r t ≠ .going

namespace Joined

theorem wire_eq (joined : Joined S i r eᵢ m t w sent got) : m.wire = w := by
  rw [Encounter.wire, joined.found, Option.getD_some]

/-- What reaches the listener are the honest acts, and then what is said on the connection. -/
theorem carried_prefix (joined : Joined S i r eᵢ m t w sent got) {eᵣ : Secret}
    {A : Acts S i r eᵢ eᵣ} (through : m.line.dial.Through A sent got) :
    m.carriedIn <+: A.one.bytes ++ (A.three.bytes ++ m.saidIn) := by
  have carried : m.carriedIn <+: sent ++ m.saidIn := ⟨_, joined.inward⟩
  by_cases silent : m.saidIn = []
  · rw [silent, List.append_nil] at carried ⊢
    exact carried.trans through.sent_prefix
  · obtain ⟨rfl, _, _⟩ := through.sent_of_secured (joined.saidIn silent)
    rw [List.append_assoc] at carried
    exact carried

variable {A : Acts S i r eᵢ t.draw}

theorem judged (joined : Joined S i r eᵢ m t w sent got)
    (through : m.line.dial.Through A sent got) : verdict S r t = .going ∨
      t = { one := A.one.bytes, draw := t.draw, two := A.two.bytes, three := A.three.bytes } ∧
        verdict S r t = .secured A.secured (i.publicKey S) :=
  verdict_honest A (joined.heard.trans (joined.carried_prefix through)) joined.whole

/-- What reaches the dialer is the honest act two, and then what is said on the connection. -/
theorem answered_prefix (joined : Joined S i r eᵢ m t w sent got)
    (through : m.line.dial.Through A sent got)
    (attended : Attended S r m.listener m.stream owner t) :
    m.carriedOut <+: A.two.bytes ++ m.saidOut := by
  have carried : m.carriedOut <+: t.two ++ m.saidOut := ⟨_, joined.outward⟩
  by_cases silent : m.saidOut = []
  · rw [silent, List.append_nil] at carried ⊢
    exact carried.trans (attended.answer_prefix A
      (joined.heard.trans (joined.carried_prefix through)) joined.whole)
  · obtain ⟨all, _⟩ := (joined.judged through).resolve_left (joined.saidOut silent)
    have htwo : t.two = A.two.bytes := congrArg Transcript.two all
    rw [htwo] at carried
    exact carried

/-! ## The steps of the two -/

/-- A step of the dialer. -/
theorem stepDial (joined : Joined S i r eᵢ m t w sent got)
    (attended : Attended S r m.listener m.stream owner t) (inTime : m.InTime) :
    ∃ sent' got', Joined S i r eᵢ (m.apply S .dial) t w sent' got' := by
  cases hstep : m.line.dial.step S m.line.now m.line.wire with
  | none =>
    have same : m.apply S .dial = m := by
      rw [apply, Dial.Line.apply, hstep]
    rw [same]
    exact ⟨sent, got, joined⟩
  | some next =>
    obtain ⟨d', wire'⟩ := next
    have same : m.apply S .dial = { m with line := { m.line with dial := d', wire := wire' } } := by
      rw [apply, Dial.Line.apply, hstep]
    rw [same]
    obtain ⟨A, through⟩ := joined.through
    have heard : got ++ m.line.wire.inward.unread <+: A.two.bytes ++ m.saidOut := by
      rw [← joined.read]
      exact joined.answered_prefix through attended
    obtain ⟨put, taken, used, through'⟩ :=
      through.step (Dial.step_spec hstep) joined.clean inTime.dialer heard
    -- nobody has sent anything on the connection as long as the dialer has a step left
    have silent : m.saidIn = [] := by
      by_contra said
      rw [Dial.step, joined.saidIn said] at hstep
      cases hstep
    refine ⟨sent ++ put, got ++ taken, { joined with
      through := ⟨A, through'⟩
      clean := used.clean joined.clean
      inward := ?_
      read := ?_
      saidIn := fun said => absurd silent said }⟩
    · have inward := joined.inward
      rw [silent, List.append_nil] at inward
      show m.carriedIn ++ wire'.outward.unread = sent ++ put ++ m.saidIn
      rw [used.outward, silent, List.append_nil, ← List.append_assoc, inward]
    · show m.carriedOut = got ++ taken ++ wire'.inward.unread
      rw [joined.read, used.inward, List.append_assoc]

/-- A step of the handshake at the acts: it reads and writes just those bytes that it takes from the
    stream and puts on it, and the machine accepts them. -/
theorem stepActs (agreement : S.AgreementLaws) (cipher : S.CipherLaws)
    (joined : Joined S i r eᵢ m t w sent got)
    (attended : Attended S r m.listener m.stream (some id) t) (inTime : m.InTime)
    {task : HandshakeTask} (held : m.listener.tasks.find? id = some task)
    (going : verdict S r t = .going) {l' : Listener}
    (stepped : TaskStepped S m.listener id task (m.listener.sight task) l') :
    ∃ w', Joined S i r eᵢ { m with listener := l' }
      (t.see m.listener.chance.takeSecret.1 (m.listener.sight task)) w' sent got := by
  have isOpen : w.gateOpen = true := by
    by_contra closed
    exact joined.closed (Bool.eq_false_iff.2 closed) going
  have silent : m.saidOut = [] := by
    by_contra said
    exact joined.saidOut said going
  obtain ⟨clean, carried⟩ := joined.tidy isOpen
  have stream_eq := attended.sole.stream_eq attended.orderly held
  have found : m.listener.wires.find? task.stream = some w := by
    rw [stream_eq]
    exact joined.found
  have punctual : task.phase.Punctual m.listener.now w.inward.unread := by
    rw [← joined.wire_eq]
    exact inTime.gate _ (Roster.mem_of_find? held) stream_eq
  have sofar := attended.told_owner.sofar held (by rw [attended.identity]; exact going)
  obtain ⟨taken, put, hears, ⟨rest, hrest⟩, outcome⟩ :=
    hears_stepTask sofar attended.isOpen found clean punctual stepped
  rw [attended.identity] at outcome
  generalize t.see m.listener.chance.takeSecret.1 (m.listener.sight task) = t' at hears outcome ⊢
  -- another secret may be drawn as long as nothing that was made of one has gone out
  obtain ⟨A, through⟩ : ∃ A : Acts S i r eᵢ t'.draw, m.line.dial.Through A sent got := by
    obtain ⟨A, through⟩ := joined.through
    rcases hears.draw with same | unsaid
    · rw [same]
      exact ⟨A, through⟩
    · obtain ⟨B⟩ := Acts.exists_acts agreement cipher i r eᵢ t'.draw
      have outward := joined.outward
      rw [unsaid, silent, List.append_nil] at outward
      have read := joined.read
      rw [(List.append_eq_nil_iff.1 outward).1] at read
      obtain rfl : got = [] := (List.append_eq_nil_iff.1 read.symm).1
      exact ⟨B, through.redraw B⟩
  have heard : t'.one ++ t'.three <+: m.carriedIn := by
    rw [hears.read, carried, ← hrest, ← List.append_assoc]
    exact List.prefix_append _ _
  have whole : t'.cut = none := hears.whole.trans joined.whole
  -- what comes from the dialer is not refused
  obtain ⟨w', found', used⟩ : ∃ w', l'.wires.find? task.stream = some w' ∧
      w.Used w' taken put := by
    refine outcome.resolve_left fun ⟨failure, failed⟩ => ?_
    rcases verdict_honest A (heard.trans (joined.carried_prefix through)) whole with
      going' | ⟨_, secured⟩
    · cases failed.symm.trans going'
    · cases failed.symm.trans secured
  have clean' := used.clean clean
  refine ⟨w', { joined with
    found := ?_
    through := ⟨A, through⟩
    outward := ?_
    heard := heard
    whole := whole
    tidy := fun _ => ⟨clean', ?_⟩
    closed := fun closed => absurd (closed.symm.trans clean'.isOpen) Bool.false_ne_true
    saidOut := fun said => absurd silent said }⟩
  · rw [stream_eq] at found'
    exact found'
  · have outward := joined.outward
    show m.carriedOut ++ w'.outward.unread = t'.two ++ m.saidOut
    rw [silent, List.append_nil] at outward ⊢
    rw [used.outward, hears.written, ← List.append_assoc, outward]
  · show m.carriedIn = t'.one ++ t'.three ++ w'.inward.unread
    rw [carried, used.inward, hears.read, ← List.append_assoc]

/-- A step of the handshake. -/
theorem stepTask (agreement : S.AgreementLaws) (cipher : S.CipherLaws)
    (joined : Joined S i r eᵢ m t w sent got)
    (attended : Attended S r m.listener m.stream (some id) t) (inTime : m.InTime) :
    ∃ w', Joined S i r eᵢ (m.apply S (.listen (.step (.task id))))
      (m.listener.heard id t (.step (.task id))) w' sent got := by
  rcases apply_task S m.listener id t with
    ⟨same, hheard⟩ | ⟨task, l', held, happly, hheard, stepped⟩
  · rw [apply, same, hheard]
    exact ⟨w, joined⟩
  · rw [apply, happly]
    by_cases going : verdict S r t = .going
    · rw [hheard]
      exact joined.stepActs agreement cipher attended inTime held going stepped
    · have done : verdict S m.listener.settings.identity t ≠ .going := by
        rw [attended.identity]
        exact going
      have wires := (attended.told_owner.report_of_open done held attended.isOpen stepped).1
      rw [attended.told_owner.heard_eq done]
      refine ⟨w, { joined with found := ?_ }⟩
      show l'.wires.find? m.stream = some w
      rw [wires]
      exact joined.found

/-! ## The network, and everything else -/

/-- What happens elsewhere changes the stream only if it hangs up on a connection that is there. -/
theorem keep (joined : Joined S i r eᵢ m t w sent got) {l' : Listener}
    (kept : Attended.Kept S r t (m.listener.wires.find? m.stream) (l'.wires.find? m.stream)) :
    ∃ w', Joined S i r eᵢ { m with listener := l' } t w' sent got := by
  cases kept with
  | same same => exact ⟨w, { joined with found := same.trans joined.found }⟩
  | dropped done closed =>
    have shut := Wire.gateOpen_closeGate w
    have outward : w.closeGate.outward.unread = w.outward.unread := by
      unfold Wire.closeGate
      split <;> rfl
    refine ⟨w.closeGate, { joined with
      found := ?_
      outward := ?_
      tidy := fun isOpen => absurd (isOpen.symm.trans shut) Bool.noConfusion
      closed := fun _ => done }⟩
    · show l'.wires.find? m.stream = some w.closeGate
      rw [closed, joined.found]
      rfl
    · show m.carriedOut ++ w.closeGate.outward.unread = _
      rw [outward]
      exact joined.outward

theorem found_onWire (joined : Joined S i r eᵢ m t w sent got) (f : Wire → Wire) :
    (m.listener.onWire m.stream f).wires.find? m.stream = some (f w) := by
  rw [find?_onWire, if_pos rfl, joined.found]
  rfl

theorem bringIn (joined : Joined S i r eᵢ m t w sent got) (count : Nat) :
    ∃ w', Joined S i r eᵢ (m.apply S (.bringIn count)) t w' sent got := by
  have unread : (m.line.wire.change (.read count)).outward.unread =
      m.line.wire.outward.unread.drop count := Pipe.unread_read _ count
  refine ⟨w.change (.send (m.line.wire.outward.unread.take count)), { joined with
    found := joined.found_onWire _
    clean := joined.clean.setOutward (Pipe.refusal_read _ count)
    inward := ?_
    heard := joined.heard.trans (List.prefix_append _ _)
    tidy := fun isOpen => ?_
    closed := fun closed => joined.closed ((w.gateOpen_change _).symm.trans closed) }⟩
  · show m.carriedIn ++ _ ++ (m.line.wire.change (.read count)).outward.unread = sent ++ m.saidIn
    rw [unread, List.append_assoc, List.take_append_drop]
    exact joined.inward
  · obtain ⟨clean, carried⟩ := joined.tidy ((w.gateOpen_change _).symm.trans isOpen)
    obtain ⟨clean', unread'⟩ := clean.send (m.line.wire.outward.unread.take count)
    refine ⟨clean', ?_⟩
    show m.carriedIn ++ _ = _
    rw [unread', carried, List.append_assoc]

theorem bringOut (joined : Joined S i r eᵢ m t w sent got) (count : Nat) :
    ∃ w', Joined S i r eᵢ (m.apply S (.bringOut count)) t w' sent got := by
  have unread : (w.change (.read count)).outward.unread = w.outward.unread.drop count :=
    Pipe.unread_read _ count
  obtain ⟨clean, sent'⟩ := joined.clean.send (m.wire.outward.unread.take count)
  refine ⟨w.change (.read count), { joined with
    found := joined.found_onWire _
    clean := clean
    outward := ?_
    read := ?_
    tidy := fun isOpen => ?_
    closed := fun closed => joined.closed ((w.gateOpen_change _).symm.trans closed) }⟩
  · show m.carriedOut ++ m.wire.outward.unread.take count ++ _ = t.two ++ m.saidOut
    rw [unread, joined.wire_eq, List.append_assoc, List.take_append_drop]
    exact joined.outward
  · show m.carriedOut ++ _ = got ++ (m.line.wire.change (.send _)).inward.unread
    rw [sent', ← List.append_assoc, ← joined.read]
  · obtain ⟨clean, carried⟩ := joined.tidy isOpen
    exact ⟨clean.setOutward (Pipe.refusal_read _ count), carried⟩

theorem roomOut (joined : Joined S i r eᵢ m t w sent got) (room : Option Nat) :
    ∃ w', Joined S i r eᵢ (m.apply S (.roomOut room)) t w' sent got :=
  ⟨w.change (.roomOutward room), { joined with
    found := joined.found_onWire _
    tidy := fun isOpen => (joined.tidy isOpen).imp_left fun clean => clean.setOutward rfl }⟩

theorem sayIn (joined : Joined S i r eᵢ m t w sent got) (bytes : Bytes) :
    Joined S i r eᵢ (m.apply S (.sayIn bytes)) t w sent got := by
  rw [apply]
  split
  · rename_i secured
    refine { joined with
      clean := joined.clean.setOutward (Pipe.refusal_write _ bytes)
      inward := ?_
      saidIn := fun _ => secured }
    show m.carriedIn ++ (m.line.wire.outward.write bytes).2.unread = sent ++ (m.saidIn ++ _)
    rw [Pipe.unread_write, ← List.append_assoc, joined.inward, List.append_assoc]
  · exact joined

/-- Whoever was given the connection can send on it: by then the acts are over. -/
theorem done_of_isTaken (attended : Attended S r m.listener m.stream owner t)
    (isTaken : m.isTaken = true) : verdict S r t ≠ .going := by
  obtain ⟨line, hmem, hline⟩ := List.any_eq_true.1 isTaken
  split at hline
  · rename_i call connection
    have answered : (call, .ok connection) ∈ m.listener.front.answers :=
      List.mem_filterMap.2 ⟨_, hmem, rfl⟩
    rcases attended.orderly.sourced.answered _ _ answered with heq | ⟨k, submitted⟩
    · cases heq
    · have noted := attended.orderly.submitted submitted
      rw [eq_of_beq hline] at noted
      obtain rfl := (attended.sole.named k).1 noted
      have judged := attended.told_owner.secured_of_submitted submitted
      rw [attended.identity] at judged
      rw [judged]
      exact Course.noConfusion
  · cases hline

theorem sayOut (joined : Joined S i r eᵢ m t w sent got)
    (attended : Attended S r m.listener m.stream owner t) (bytes : Bytes) :
    ∃ w', Joined S i r eᵢ (m.apply S (.sayOut bytes)) t w' sent got := by
  rw [apply]
  split
  · rename_i isTaken
    refine ⟨{ w with outward := (w.outward.write bytes).2 }, { joined with
      found := joined.found_onWire _
      outward := ?_
      tidy := fun isOpen => (joined.tidy isOpen).imp_left fun clean =>
        clean.setOutward (Pipe.refusal_write _ bytes)
      saidOut := fun _ => done_of_isTaken attended isTaken }⟩
    show m.carriedOut ++ (w.outward.write bytes).2.unread = t.two ++ (m.saidOut ++ _)
    rw [Pipe.unread_write, joined.wire_eq, ← List.append_assoc, joined.outward, List.append_assoc]
  · exact ⟨w, joined⟩

end Joined

/-! ## Along a run -/

/-- The two are on their way to the same connection, or there. -/
structure Accord (S : Suite) (i r : Identity) (eᵢ : Secret) (m : Encounter)
    (owner : Option Nat) : Prop where
  bound : Dial.Bound i (r.publicKey S) m.line.dial
  course : ∃ t w sent got, Attended S r m.listener m.stream owner t ∧
    Joined S i r eᵢ m t w sent got

/-- What an event makes of whose the connection is: the accept loop may take it. -/
def Succeeds (m : Encounter) (e : Event) (owner owner' : Option Nat) : Prop :=
  owner' = owner ∨
    owner = none ∧ e = .listen (.step .loop) ∧ owner' = some (m.listener.connections + 1)

theorem stream_apply (S : Suite) (m : Encounter) (e : Event) : (m.apply S e).stream = m.stream := by
  cases e with
  | sayIn | sayOut =>
    rw [apply]
    split <;> rfl
  | _ => rfl

theorem Accord.apply (agreement : S.AgreementLaws) (cipher : S.CipherLaws)
    (accord : Accord S i r eᵢ m owner) (inTime : m.InTime) {e : Event}
    (harmless : e.Harmless m.stream) :
    ∃ owner', Accord S i r eᵢ (m.apply S e) owner' ∧ m.Succeeds e owner owner' := by
  obtain ⟨bound, t, w, sent, got, attended, joined⟩ := accord
  cases e with
  | dial =>
    obtain ⟨sent', got', joined'⟩ := joined.stepDial attended inTime
    exact ⟨owner, ⟨bound.apply .step, t, w, sent', got', attended, joined'⟩, .inl rfl⟩
  | wait ms => exact ⟨owner, ⟨bound, t, w, sent, got, attended, { joined with }⟩, .inl rfl⟩
  | listen e =>
    rcases attended.apply harmless with ⟨id, rfl, rfl, attended'⟩ | ⟨⟨owner', attended', same⟩, kept⟩
    · obtain ⟨w', joined'⟩ := joined.stepTask agreement cipher attended inTime
      exact ⟨_, ⟨bound, _, w', sent, got, attended', joined'⟩, .inl rfl⟩
    · obtain ⟨w', joined'⟩ := joined.keep kept
      refine ⟨owner', ⟨bound, t, w', sent, got, attended', joined'⟩, same.imp_right ?_⟩
      rintro ⟨none, rfl, taken⟩
      exact ⟨none, rfl, taken⟩
  | bringIn count =>
    obtain ⟨w', joined'⟩ := joined.bringIn count
    exact ⟨owner, ⟨bound, t, w', sent, got, attended.onWire _ _, joined'⟩, .inl rfl⟩
  | bringOut count =>
    obtain ⟨w', joined'⟩ := joined.bringOut count
    exact ⟨owner, ⟨bound, t, w', sent, got, attended.onWire _ _, joined'⟩, .inl rfl⟩
  | roomIn room =>
    refine ⟨owner, ⟨bound, t, w, sent, got, attended, { joined with clean := ?_ }⟩, .inl rfl⟩
    exact joined.clean.setOutward rfl
  | roomOut room =>
    obtain ⟨w', joined'⟩ := joined.roomOut room
    exact ⟨owner, ⟨bound, t, w', sent, got, attended.onWire _ _, joined'⟩, .inl rfl⟩
  | sayIn bytes =>
    have same : (m.apply S (.sayIn bytes)).listener = m.listener ∧
        (m.apply S (.sayIn bytes)).line.dial = m.line.dial := by
      rw [Encounter.apply]
      split <;> exact ⟨rfl, rfl⟩
    refine ⟨owner, ⟨?_, t, w, sent, got, ?_, joined.sayIn bytes⟩, .inl rfl⟩
    · rw [same.2]
      exact bound
    · rw [same.1, stream_apply]
      exact attended
  | sayOut bytes =>
    have same : (m.apply S (.sayOut bytes)).line = m.line := by
      rw [Encounter.apply]
      split <;> rfl
    have attended' : Attended S r (m.apply S (.sayOut bytes)).listener m.stream owner t := by
      rw [Encounter.apply]
      split
      · exact attended.onWire _ _
      · exact attended
    obtain ⟨w', joined'⟩ := joined.sayOut attended bytes
    refine ⟨owner, ⟨?_, t, w', sent, got, ?_, joined'⟩, .inl rfl⟩
    · rw [same]
      exact bound
    · rw [stream_apply]
      exact attended'

theorem stream_run (S : Suite) (m : Encounter) (events : List Event) :
    (m.run S events).stream = m.stream := by
  induction events generalizing m with
  | nil => rfl
  | cons e events ih => exact (ih (m.apply S e)).trans (stream_apply S m e)

/-- What holds of a run: nothing disturbs the connection, and no act is late at any time. -/
structure Undisturbed (S : Suite) (m : Encounter) (events : List Event) : Prop where
  harmless : ∀ e ∈ events, e.Harmless m.stream
  inTime : ∀ first, first <+: events → (m.run S first).InTime

theorem Undisturbed.tail {e : Event} {events : List Event}
    (undisturbed : m.Undisturbed S (e :: events)) : (m.apply S e).Undisturbed S events where
  harmless := by
    rw [stream_apply]
    exact fun e' he' => undisturbed.harmless e' (List.mem_cons_of_mem _ he')
  inTime := fun first hfirst =>
    undisturbed.inTime (e :: first) (List.cons_prefix_cons.2 ⟨rfl, hfirst⟩)

/-- A dialer that has just reached a listener that goes on. -/
theorem accord_start (agreement : S.AgreementLaws) (cipher : S.CipherLaws) {l : Listener}
    {stream : Nat} (i : Identity) (eᵢ : Secret) (orderly : Orderly S l) (unfired : l.fired = false)
    (unused : Unused l stream) (source peer : SocketAddress) (timeout now : Nat) :
    Accord S i l.settings.identity eᵢ
      (start S l ⟨Dial.start S i (l.settings.identity.publicKey S) peer timeout eᵢ, {}, now⟩ stream
        source) none := by
  obtain ⟨attended, found⟩ := attended_arrive orderly unfired unused source
  obtain ⟨A⟩ := Acts.exists_acts agreement cipher i l.settings.identity eᵢ
    ({} : Transcript).draw
  have clean : ({} : Wire).Clean := ⟨rfl, rfl, rfl, rfl, rfl, rfl⟩
  refine ⟨Dial.bound_start S i _ peer timeout eᵢ, {}, {}, [], [], attended, ?_⟩
  exact {
    found := found
    through := ⟨A, Dial.through_start A peer timeout⟩
    clean := clean
    inward := rfl
    outward := rfl
    read := rfl
    heard := List.nil_prefix
    whole := rfl
    tidy := fun _ => ⟨clean, rfl⟩
    closed := fun closed => by cases closed
    saidIn := fun said => absurd rfl said
    saidOut := fun said => absurd rfl said }

end Encounter

end Gatehouse
