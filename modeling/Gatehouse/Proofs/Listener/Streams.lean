import Gatehouse.Proofs.Listener.Front

/-!
# Who touches a stream

A step of a handshake touches the stream of its own connection only, the accept loop touches those
that wait in the socket and no others, and a call touches the one that it was given and nobody wants
any more (`Event.Touches`).  No stream is forgotten, one that the gate has hung up on stays so, and
where it is put on record that a stream was hung up, it was, if it was there (`wired_apply`).
-/

namespace Gatehouse

namespace Wire

theorem gateOpen_closeGate (w : Wire) : w.closeGate.gateOpen = false := by
  unfold closeGate
  split
  · rfl
  · rename_i h
    exact Bool.eq_false_iff.2 h

end Wire

namespace Listener

variable {S : Suite} {l l' l'' : Listener} {id stream : Nat} {task : HandshakeTask}
  {T T' : Nat → Prop}

/-! ## What is hung up -/

theorem log_onWire (l : Listener) (stream : Nat) (f : Wire → Wire) :
    (l.onWire stream f).log = l.log := by
  unfold onWire
  split <;> rfl

theorem closeStream_log (l : Listener) (stream : Nat) :
    (l.closeStream stream).log = .streamClosed stream :: l.log := by
  show _ :: (l.onWire stream Wire.closeGate).log = _
  rw [log_onWire]

theorem rejectActs_log (l : Listener) (id : Nat) (task : HandshakeTask) (failure : Failure) :
    (l.rejectActs id task failure).log =
      .entered id .rejected :: .streamClosed task.stream :: l.log :=
  congrArg _ (closeStream_log l task.stream)

/-- The gate has hung up on a stream that is there. -/
def Shut (l : Listener) (stream : Nat) : Prop :=
  ∃ w, l.wires.find? stream = some w ∧ w.gateOpen = false

/-- A stream is hung up between two moments. -/
def Closes (l l' : Listener) (stream : Nat) : Prop :=
  ∃ news, l'.log = news ++ l.log ∧ .streamClosed stream ∈ news

theorem closes_closeStream (l : Listener) (stream : Nat) :
    Closes l (l.closeStream stream) stream :=
  ⟨[.streamClosed stream], closeStream_log l stream, List.mem_cons_self⟩

theorem closes_rejectActs (l : Listener) (id : Nat) (task : HandshakeTask) (failure : Failure) :
    Closes l (l.rejectActs id task failure) task.stream :=
  ⟨[.entered id .rejected, .streamClosed task.stream], rejectActs_log l id task failure,
    List.mem_cons_of_mem _ List.mem_cons_self⟩

namespace Closes

theorem before (closes : Closes l' l'' stream) (log : l.log <:+ l'.log) : Closes l l'' stream := by
  obtain ⟨news, hlog, closed⟩ := closes
  obtain ⟨older, holder⟩ := log
  exact ⟨news ++ older, by rw [hlog, ← holder, List.append_assoc], List.mem_append_left _ closed⟩

theorem after (closes : Closes l l' stream) (log : l'.log <:+ l''.log) : Closes l l'' stream := by
  obtain ⟨news, hlog, closed⟩ := closes
  obtain ⟨newer, hnewer⟩ := log
  exact ⟨newer ++ news, by rw [← hnewer, hlog, List.append_assoc], List.mem_append_right _ closed⟩

end Closes

/-- A stream has been hung up by a later moment: that is on record, and if the stream was there, it
    is shut. -/
structure HangsUp (l l' : Listener) (stream : Nat) : Prop where
  noted : .streamClosed stream ∈ l'.log
  shut : (l.wires.find? stream).isSome = true → l'.Shut stream

/-! ## What is touched -/

/-- Only streams of some kind are touched, and those as they may be. -/
structure Wired (T : Nat → Prop) (l l' : Listener) : Prop where
  same : ∀ stream, ¬ T stream → l'.wires.find? stream = l.wires.find? stream
  /-- No stream goes, and none is opened again. -/
  kept : ∀ stream w, l.wires.find? stream = some w →
    ∃ w', l'.wires.find? stream = some w' ∧ (w.gateOpen = false → w'.gateOpen = false)
  /-- What is said to be hung up now is, if it is there. -/
  closed : ∃ news, l'.log = news ++ l.log ∧ ∀ stream, .streamClosed stream ∈ news →
    (l.wires.find? stream).isSome = true → l'.Shut stream

namespace Wired

theorem present (wired : Wired T l l') (there : (l.wires.find? stream).isSome = true) :
    (l'.wires.find? stream).isSome = true := by
  obtain ⟨w, found⟩ := Option.isSome_iff_exists.1 there
  obtain ⟨w', found', _⟩ := wired.kept stream w found
  exact Option.isSome_iff_exists.2 ⟨w', found'⟩

theorem shut (wired : Wired T l l') (shut : l.Shut stream) : l'.Shut stream := by
  obtain ⟨w, found, closed⟩ := shut
  obtain ⟨w', found', keeps⟩ := wired.kept stream w found
  exact ⟨w', found', keeps closed⟩

theorem trans (wired : Wired T l l') (wired' : Wired T l' l'') : Wired T l l'' where
  same := fun stream untouched =>
    (wired'.same stream untouched).trans (wired.same stream untouched)
  kept := by
    intro stream w found
    obtain ⟨w', found', keeps⟩ := wired.kept stream w found
    obtain ⟨w'', found'', keeps'⟩ := wired'.kept stream w' found'
    exact ⟨w'', found'', fun h => keeps' (keeps h)⟩
  closed := by
    obtain ⟨news, hlog, closed⟩ := wired.closed
    obtain ⟨news', hlog', closed'⟩ := wired'.closed
    refine ⟨news' ++ news, by rw [hlog', hlog, List.append_assoc], fun stream hmem there => ?_⟩
    rcases List.mem_append.1 hmem with hmem | hmem
    · exact closed' stream hmem (wired.present there)
    · exact wired'.shut (closed stream hmem there)

theorem mono (wired : Wired T l l') (h : ∀ stream, T stream → T' stream) : Wired T' l l' where
  same := fun stream untouched => wired.same stream fun touched => untouched (h stream touched)
  kept := wired.kept
  closed := wired.closed

/-- What is on record stays there. -/
theorem log (wired : Wired T l l') : l.log <:+ l'.log := by
  obtain ⟨news, hlog, _⟩ := wired.closed
  exact ⟨news, hlog.symm⟩

/-- Where it is put on record that a stream is hung up, it is. -/
theorem hangsUp (wired : Wired T l l') (closes : Closes l l' stream) : HangsUp l l' stream := by
  obtain ⟨news, hlog, closed⟩ := wired.closed
  obtain ⟨news', hlog', hmem⟩ := closes
  obtain rfl : news' = news := List.append_cancel_right (hlog'.symm.trans hlog)
  refine ⟨?_, closed stream hmem⟩
  rw [hlog]
  exact List.mem_append_left _ hmem

end Wired

namespace HangsUp

theorem before (hangsUp : HangsUp l' l'' stream) (wired : Wired T l l') : HangsUp l l'' stream where
  noted := hangsUp.noted
  shut := fun there => hangsUp.shut (wired.present there)

theorem after (hangsUp : HangsUp l l' stream) (wired : Wired T l' l'') : HangsUp l l'' stream where
  noted := wired.log.subset hangsUp.noted
  shut := fun there => wired.shut (hangsUp.shut there)

end HangsUp

/-- The streams are left alone, and nothing is said about them. -/
theorem wired_of_log {news : List Happening} (wires : l'.wires = l.wires)
    (log : l'.log = news ++ l.log) (other : ∀ stream, .streamClosed stream ∉ news) :
    Wired T l l' where
  same := by
    rw [wires]
    exact fun _ _ => rfl
  kept := by
    rw [wires]
    exact fun _ w found => ⟨w, found, fun h => h⟩
  closed := ⟨news, log, fun stream hmem => absurd hmem (other stream)⟩

theorem wired_of_wires (wires : l'.wires = l.wires) (log : l'.log = l.log) : Wired T l l' :=
  wired_of_log wires (show l'.log = [] ++ l.log from log) fun _ => List.not_mem_nil

theorem wired_of_noted {h : Happening} (wires : l'.wires = l.wires) (log : l'.log = h :: l.log)
    (other : ∀ stream, .streamClosed stream ≠ h) : Wired T l l' :=
  wired_of_log wires (show l'.log = [h] ++ l.log from log) fun stream hmem =>
    other stream (List.mem_singleton.1 hmem)

/-! ## Single streams -/

theorem find?_onWire (l : Listener) (stream : Nat) (f : Wire → Wire) (k : Nat) :
    (l.onWire stream f).wires.find? k =
      if k = stream then (l.wires.find? k).map f else l.wires.find? k := by
  unfold onWire
  split
  · rename_i absent
    split
    · rename_i heq
      rw [heq, absent]
      rfl
    · rfl
  · rename_i w found
    show (l.wires.update stream (f w)).find? k = _
    rw [Roster.find?_update]
    split
    · rename_i heq
      rw [heq, found]
      rfl
    · rfl

theorem wired_onWire (l : Listener) (stream : Nat) {f : Wire → Wire}
    (keeps : ∀ w, w.gateOpen = false → (f w).gateOpen = false) :
    Wired (· = stream) l (l.onWire stream f) where
  same := by
    intro k untouched
    rw [find?_onWire, if_neg untouched]
  kept := by
    intro k w found
    rw [find?_onWire]
    split
    · rw [found]
      exact ⟨f w, rfl, keeps w⟩
    · exact ⟨w, found, fun h => h⟩
  closed := ⟨[], log_onWire l stream f, fun _ hmem => absurd hmem List.not_mem_nil⟩

theorem wired_closeStream (l : Listener) (stream : Nat) :
    Wired (· = stream) l (l.closeStream stream) := by
  have wired := wired_onWire l stream fun w _ => Wire.gateOpen_closeGate w
  refine ⟨wired.same, wired.kept, [.streamClosed stream], closeStream_log l stream, ?_⟩
  intro k hmem there
  cases List.mem_singleton.1 hmem
  obtain ⟨w, found⟩ := Option.isSome_iff_exists.1 there
  refine ⟨w.closeGate, ?_, Wire.gateOpen_closeGate w⟩
  show (l.onWire stream Wire.closeGate).wires.find? stream = _
  rw [find?_onWire, if_pos rfl, found]
  rfl

/-- The gate reads or writes. -/
theorem wired_use {wire wire' : Wire} (found : l.wires.find? stream = some wire)
    (gate : wire'.gateOpen = wire.gateOpen) :
    Wired (· = stream) l { l with wires := l.wires.update stream wire' } where
  same := by
    intro k untouched
    show (l.wires.update stream wire').find? k = _
    rw [Roster.find?_update, if_neg untouched]
  kept := by
    intro k w hw
    show ∃ w', (l.wires.update stream wire').find? k = some w' ∧ _
    rw [Roster.find?_update]
    split
    · rename_i heq
      subst heq
      cases found.symm.trans hw
      rw [found]
      exact ⟨wire', rfl, gate.trans⟩
    · exact ⟨w, hw, fun h => h⟩
  closed := ⟨[], rfl, fun _ hmem => absurd hmem List.not_mem_nil⟩

theorem wired_dropOutcome (l : Listener) (outcome : Outcome) :
    Wired (fun k => ∃ c, outcome = .ok c ∧ c.stream = k) l (l.dropOutcome outcome) := by
  cases outcome with
  | ok connection =>
    refine (wired_closeStream l connection.stream).mono ?_
    rintro k rfl
    exact ⟨connection, rfl, rfl⟩
  | error failure => exact wired_of_wires rfl rfl

/-! ## The handshakes -/

theorem wired_endTask (l : Listener) (id : Nat) : Wired T l (l.endTask id) :=
  wired_of_noted rfl rfl fun _ => Happening.noConfusion

theorem wired_submitOutcome (l : Listener) (id : Nat) (task : HandshakeTask) (outcome : Outcome) :
    Wired T l (l.submitOutcome id task outcome) :=
  wired_of_noted rfl rfl fun _ => Happening.noConfusion

theorem wired_rejectActs (l : Listener) (id : Nat) (task : HandshakeTask) (failure : Failure) :
    Wired (· = task.stream) l (l.rejectActs id task failure) :=
  (wired_closeStream l task.stream).trans <| wired_of_noted rfl rfl fun _ => Happening.noConfusion

theorem wired_failActs (l : Listener) (id : Nat) (task : HandshakeTask) (failure : Failure) :
    Wired (· = task.stream) l (l.failActs id task failure) := by
  have rejected := wired_rejectActs l id task failure
  rcases failActs_cases l id task failure with ⟨_, heq⟩ | ⟨_, heq⟩
  · rw [heq]
    exact rejected.trans (wired_endTask _ id)
  · rw [heq]
    exact rejected.trans (wired_submitOutcome _ id task _)

theorem wired_takeActOne (S : Suite) (l : Listener) (id : Nat) (task : HandshakeTask)
    (machine : Machine) (act : Octets keyActSize) :
    Wired (· = task.stream) l (l.takeActOne S id task machine act) := by
  have drawn : ∀ chance, Wired (· = task.stream) l { l with chance } :=
    fun _ => wired_of_wires rfl rfl
  rcases takeActOne_cases (S := S) l id task machine act with
    ⟨e, m, _, htake⟩ | ⟨m₁, _, ⟨e, m₂, _, htake⟩ | ⟨two, m₂, _, htake⟩⟩
  · rw [htake]
    exact wired_failActs l id task _
  · rw [htake]
    exact (drawn _).trans (wired_failActs _ id task _)
  · rw [htake]
    exact wired_of_wires rfl rfl

theorem wired_takeActThree (S : Suite) (l : Listener) (id : Nat) (task : HandshakeTask)
    (machine : Machine) (act : Octets staticActSize) :
    Wired (· = task.stream) l (l.takeActThree S id task machine act) := by
  rcases takeActThree_cases (S := S) l id task machine act with
    ⟨e, m, _, htake⟩ | ⟨m, _, ⟨_, htake⟩ | ⟨remote, _, htake⟩⟩
  · rw [htake]
    exact wired_failActs l id task _
  · rw [htake]
    exact wired_failActs l id task _
  · rw [htake, succeedActs_eq]
    have secured : Wired (· = task.stream) l (l.secureActs id) :=
      wired_of_noted rfl rfl fun _ => Happening.noConfusion
    exact secured.trans (wired_submitOutcome _ id task _)

theorem wired_readAct {act : Act} {size : Nat} {got : Bytes} {timer : Timer}
    {more : Listener → Bytes → Listener} {full : Listener → Octets size → Listener}
    (hmore : ∀ l b, Wired (· = task.stream) l (more l b))
    (hfull : ∀ l b, Wired (· = task.stream) l (full l b))
    (h : l.readAct id task act size got timer more full = some l') :
    Wired (· = task.stream) l l' := by
  unfold readAct at h
  cases found : l.wires.find? task.stream with
  | none =>
    rw [found] at h
    cases h
  | some wire =>
    simp only [found] at h
    rcases hread : wire.inward.read (size - got.length) with ⟨seen, inward⟩
    simp only [hread] at h
    have used : Wired (· = task.stream) l
        { l with wires := l.wires.update task.stream { wire with inward } } :=
      wired_use found rfl
    cases seen with
    | bytes b =>
      simp only at h
      split at h
      · cases h
        exact used.trans (hfull _ _)
      · cases h
        exact used.trans (hmore _ _)
    | fault e =>
      cases h
      exact used.trans (wired_failActs _ id task _)
    | ended =>
      cases h
      exact used.trans (wired_failActs _ id task _)
    | nothing =>
      simp only at h
      split at h
      · cases h
        exact wired_failActs l id task _
      · cases h

theorem wired_writeActTwo {machine : Machine} {left : Bytes}
    (h : l.writeActTwo id task machine left = some l') : Wired (· = task.stream) l l' := by
  unfold writeActTwo at h
  cases found : l.wires.find? task.stream with
  | none =>
    rw [found] at h
    cases h
  | some wire =>
    simp only [found] at h
    rcases hwrite : wire.outward.write left with ⟨result, outward⟩
    simp only [hwrite] at h
    have used : Wired (· = task.stream) l
        { l with wires := l.wires.update task.stream { wire with outward } } :=
      wired_use found rfl
    have goesOn : ∀ (l : Listener) (phase : Phase),
        Wired (· = task.stream) l (l.setPhase id task phase) :=
      fun _ _ => wired_of_wires rfl rfl
    split at h
    · cases h
    · cases h
      exact used.trans (wired_failActs _ id task _)
    · cases h
      exact used.trans (goesOn _ _)
    · cases h
      exact used.trans (goesOn _ _)

/-- The streams that a handshake has: the one of its connection, which it may have submitted. -/
def TaskTouches (l : Listener) (id : Nat) (task : HandshakeTask) (stream : Nat) : Prop :=
  stream = task.stream ∨ ∃ c, l.handoff.producers.find? id = some (.ok c) ∧ c.stream = stream

theorem wired_reportOutcome (h : l.reportOutcome id = some l') :
    Wired (fun k => ∃ c, l.handoff.producers.find? id = some (.ok c) ∧ c.stream = k) l l' := by
  have polled : ∀ (T : Nat → Prop) (handoff : Handoff Outcome), Wired T l { l with handoff } :=
    fun _ _ => wired_of_wires rfl rfl
  unfold reportOutcome at h
  split at h
  · simp only at h
    split at h
    · cases h
      exact polled _ _
    · cases h
      exact (polled _ _).trans (wired_endTask _ id)
    · rename_i handoff _
      cases h
      cases held : l.handoff.producers.find? id with
      | none => exact (polled _ handoff).trans (wired_endTask _ id)
      | some outcome =>
        have dropped : Wired (fun k => ∃ c, some outcome = some (Except.ok c) ∧ c.stream = k) _
            ({ l with handoff : Listener }.dropOutcome outcome) :=
          (wired_dropOutcome { l with handoff } outcome).mono
            fun k ⟨c, heq, hc⟩ => ⟨c, congrArg some heq, hc⟩
        exact ((polled _ handoff).trans dropped).trans (wired_endTask _ id)
  · cases h

theorem wired_stepTask (held : l.tasks.find? id = some task) (h : l.stepTask S id = some l') :
    Wired (l.TaskTouches id task) l l' := by
  have own : ∀ {l'}, Wired (· = task.stream) l l' → Wired (l.TaskTouches id task) l l' :=
    fun wired => wired.mono fun _ heq => .inl heq
  have notes : ∀ (l : Listener) (k : Nat) (state : HandshakeState),
      Wired (· = task.stream) l (l.enter k state) :=
    fun l _ _ => wired_of_noted rfl rfl fun _ => Happening.noConfusion
  have goesOn : ∀ (l : Listener) (phase : Phase),
      Wired (· = task.stream) l (l.setPhase id task phase) :=
    fun _ _ => wired_of_wires rfl rfl
  unfold stepTask at h
  simp only [held] at h
  split at h
  · cases h
    apply own
    unfold beginActs
    simp only
    split
    · exact (((notes l id .init).trans (notes _ id .rejected)).trans (wired_endTask _ id)).trans
        (wired_closeStream _ task.stream)
    · have began : Wired (· = task.stream) (l.enter id .init)
          ({ l.enter id .init with tally := l.tally.start }.enter id .awaitActOne) :=
        wired_of_noted rfl rfl fun _ => Happening.noConfusion
      exact ((notes l id .init).trans began).trans (wired_of_wires rfl rfl)
  · split at h
    · cases h
      exact own (wired_failActs l id task _)
    · exact own (wired_readAct (fun l _ => goesOn l _)
        (fun l act => wired_takeActOne S l id task _ act) h)
  · split at h
    · cases h
      exact own (wired_failActs l id task _)
    · exact own (wired_writeActTwo h)
  · cases h
    apply own
    unfold awaitActThree
    split
    · exact wired_failActs l id task _
    · exact (notes l id .awaitActThree).trans (wired_of_wires rfl rfl)
  · split at h
    · cases h
      exact own (wired_failActs l id task _)
    · exact own (wired_readAct (fun l _ => goesOn l _)
        (fun l act => wired_takeActThree S l id task _ act) h)
  · exact (wired_reportOutcome h).mono fun _ hc => .inr hc

/-! ## The other parties -/

/-- A connection on this stream waits in the socket. -/
def Waits (l : Listener) (stream : Nat) : Prop :=
  ∃ arrival ∈ l.socket.waiting, arrival.stream = stream

theorem wired_closeSocket (l : Listener) : Wired l.Waits l l.closeSocket := by
  have streams : ∀ (arrivals : List Arrival) (l : Listener),
      Wired (fun k => ∃ arrival ∈ arrivals, arrival.stream = k) l
        (arrivals.foldl (fun l arrival => l.closeStream arrival.stream) l) := by
    intro arrivals
    induction arrivals with
    | nil => exact fun _ => wired_of_wires rfl rfl
    | cons arrival arrivals ih =>
      intro l
      have first : Wired (fun k => ∃ a ∈ arrival :: arrivals, a.stream = k) l
          (l.closeStream arrival.stream) :=
        (wired_closeStream l arrival.stream).mono
          fun k heq => ⟨arrival, List.mem_cons_self, heq.symm⟩
      exact first.trans ((ih _).mono fun k ⟨a, ha, hk⟩ => ⟨a, List.mem_cons_of_mem _ ha, hk⟩)
  unfold closeSocket
  split
  · exact wired_of_wires rfl rfl
  · exact (streams l.socket.waiting l).trans (wired_of_noted rfl rfl fun _ => Happening.noConfusion)

theorem wired_stopLoop (l : Listener) : Wired l.Waits l l.stopLoop :=
  (wired_closeSocket l).trans (wired_of_noted rfl rfl fun _ => Happening.noConfusion)

theorem wired_reportRefusal (l : Listener) (error : SystemError) :
    Wired T l (l.reportRefusal error) := by
  unfold reportRefusal
  simp only
  split
  · rename_i range _
    exact wired_of_log rfl (show _ = [.refused error, .jitter range] ++ l.log from rfl) (by simp)
  · exact wired_of_noted rfl rfl fun _ => Happening.noConfusion

/-- The accept loop leaves the streams alone, but for those in the socket when it returns. -/
theorem wired_stepLoop (stepped : LoopStepped l l') :
    Wired (fun k => l.fired = true ∧ l.Waits k) l l' := by
  have same : ∀ {T : Nat → Prop} {l₁ : Listener}, l₁.wires = l.wires → l₁.log = l.log →
      Wired T l l₁ := wired_of_wires
  cases stepped with
  | stops idle fired => exact (wired_stopLoop l).mono fun _ waits => ⟨fired, waits⟩
  | withdraws queued fired =>
    have left : Wired l.Waits l { l with pool := l.pool.withdraw .loop } := same rfl rfl
    have stopped : Wired l.Waits { l with pool := l.pool.withdraw .loop } _ :=
      wired_stopLoop { l with pool := l.pool.withdraw .loop }
    exact (left.trans stopped).mono fun _ waits => ⟨fired, waits⟩
  | returns listening fired =>
    have released : Wired l.Waits l l.releaseLoopToken :=
      wired_of_noted rfl rfl fun _ => Happening.noConfusion
    have stopped : Wired l.Waits l.releaseLoopToken _ := wired_stopLoop l.releaseLoopToken
    exact (released.trans stopped).mono fun _ waits => ⟨fired, waits⟩
  | refuses error socket listening going polled =>
    have answered : Wired (fun k => l.fired = true ∧ l.Waits k) l { l with socket } := same rfl rfl
    exact answered.trans (wired_reportRefusal _ error)
  | takes arrival socket listening going polled =>
    exact wired_of_noted rfl rfl fun _ => Happening.noConfusion
  | pauses =>
    exact wired_of_noted rfl rfl fun _ => Happening.noConfusion
  | queues | draws | picksUp | holds | resumes => exact same rfl rfl

/-- A call has been given a connection on this stream. -/
def Given (l : Listener) (call stream : Nat) : Prop :=
  ∃ c, l.handoff.consumers.find? call = some (.filled (.ok c)) ∧ c.stream = stream

theorem wired_dropFilled {call : Nat} {outcome : Outcome} {handoff : Handoff Outcome}
    (filled : l.handoff.consumers.find? call = some (.filled outcome)) :
    Wired (l.Given call) l ({ l with handoff : Listener }.dropOutcome outcome) := by
  have same : Wired (l.Given call) l { l with handoff } := wired_of_wires rfl rfl
  refine same.trans ((wired_dropOutcome { l with handoff } outcome).mono ?_)
  rintro k ⟨c, rfl, hc⟩
  exact ⟨c, filled, hc⟩

/-- A call drops what it was given only when it learns of the shutdown. -/
theorem wired_stepCall {call : Nat} (stepped : CallStepped l call l') :
    Wired (fun k => l.fired = true ∧ l.Given call k) l l' := by
  have answered : ∀ (l : Listener) {T : Nat → Prop} (outcome : Outcome),
      Wired T l (l.note (.answered call outcome)) :=
    fun l _ _ => wired_of_noted rfl rfl fun _ => Happening.noConfusion
  have same : ∀ {T : Nat → Prop} {handoff : Handoff Outcome}, Wired T l { l with handoff } :=
    wired_of_wires rfl rfl
  cases stepped with
  | waits handoff polled => exact same
  | answers outcome handoff polled => exact same.trans (answered _ _)
  | closes handoff l₁ polled dropped =>
    rcases dropped with rfl | ⟨outcome, filled, rfl⟩
    · exact same.trans (answered _ _)
    · -- a call that finds its slot filled is answered, unless the shutdown has been fired
      have fired : l.handoff.fired = true := by
        by_contra going
        rw [Handoff.pollConsumer, filled] at polled
        simp only at polled
        rw [if_neg going] at polled
        cases polled
      exact ((wired_dropFilled filled).mono fun _ given => ⟨fired, given⟩).trans (answered _ _)

theorem wired_abandonCall (l : Listener) (call : Nat) :
    Wired (l.Given call) l (l.abandonCall call) := by
  unfold abandonCall
  simp only
  split
  · exact wired_dropFilled ‹_›
  · exact wired_of_wires rfl rfl

theorem wired_stepDrain {drain : Nat} (stepped : DrainStepped l drain l') : Wired T l l' := by
  cases stepped with
  | asks => exact wired_of_wires rfl rfl
  | drains =>
    exact wired_of_noted rfl rfl fun _ => Happening.noConfusion

/-! ## All events -/

/-- The streams that an event may touch. -/
def Event.Touches (l : Listener) (stream : Nat) : Event → Prop
  | .step (.task id) => ∃ task, l.tasks.find? id = some task ∧ l.TaskTouches id task stream
  | .step .loop => l.fired = true ∧ l.Waits stream
  | .step (.call call) => l.fired = true ∧ l.Given call stream
  | .abandonCall call => l.Given call stream
  | .closeSocket => l.Waits stream
  | .newStream k => stream = k
  | .wire k _ => stream = k
  | _ => False

theorem wired_apply (S : Suite) (l : Listener) (e : Event) :
    Wired (fun stream => e.Touches l stream) l (l.apply S e) := by
  have same : ∀ {T : Nat → Prop} {l₁ : Listener}, l₁.wires = l.wires → l₁.log = l.log →
      Wired T l l₁ := wired_of_wires
  cases e with
  | step party =>
    rcases apply_step S l party with ⟨_, unchanged⟩ | ⟨l', happly, taken⟩
    · rw [unchanged]
      exact same rfl rfl
    · rw [happly]
      cases taken with
      | loop step => exact wired_stepLoop (stepLoop_spec step)
      | task task held step =>
        exact (wired_stepTask held step).mono fun _ touched => ⟨task, held, touched⟩
      | call step => exact wired_stepCall (stepCall_spec step)
      | drain step => exact wired_stepDrain (stepDrain_spec step)
  | abandonCall call => exact wired_abandonCall l call
  | closeSocket => exact wired_closeSocket l
  | wire k change =>
    exact wired_onWire l k fun w closed => (Wire.gateOpen_change w change).trans closed
  | newStream k =>
    refine ⟨fun stream untouched => ?_, fun stream w found => ?_, [], rfl,
      fun _ hmem => absurd hmem List.not_mem_nil⟩
    · exact Roster.find?_enter_of_ne l.wires untouched {}
    · exact ⟨w, Roster.find?_enter_of_some found k _, fun h => h⟩
  | startCall _ | startDrain _ | abandonDrain _ | trigger | arrive _ | advance _ | chance _ =>
    exact same rfl rfl

/-- What is there stays there, and what is shut stays shut. -/
theorem shut_run (S : Suite) (shut : l.Shut stream) (events : List Event) :
    (l.run S events).Shut stream :=
  run_induction (P := fun l => l.Shut stream) shut
    (fun l e shut => (wired_apply S l e).shut shut) events

end Listener

end Gatehouse
