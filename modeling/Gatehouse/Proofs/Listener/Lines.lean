import Gatehouse.Proofs.Listener.Streams

/-!
# Who writes what into the log

A line in the log is written by the party that it is about, at a step of its own; only what is closed
may be closed by anybody (`Event.Writes`).  So a connection is on record as taken just when the
accept loop has taken it from the socket (`spawned_of_taken`).
-/

namespace Gatehouse

/-- The party that a line in the log is about.  What is closed may be closed by any of them. -/
def Happening.writer? : Happening → Option Listener.Party
  | .taken _ _ | .refused _ | .jitter _ | .loopTokenReturned | .loopStopped => some .loop
  | .entered id _ | .submitted id _ | .tokenReturned id => some (.task id)
  | .answered call _ => some (.call call)
  | .drained id => some (.drain id)
  | .streamClosed _ | .socketClosed => none

namespace Listener

variable {S : Suite} {l l' l'' : Listener} {id : Nat} {task : HandshakeTask} {P : Happening → Prop}

/-- New lines are all of some kind. -/
def Wrote (P : Happening → Prop) (l l' : Listener) : Prop :=
  ∃ news, l'.log = news ++ l.log ∧ ∀ h ∈ news, P h

namespace Wrote

theorem trans (wrote : Wrote P l l') (wrote' : Wrote P l' l'') : Wrote P l l'' := by
  obtain ⟨news, log, all⟩ := wrote
  obtain ⟨news', log', all'⟩ := wrote'
  refine ⟨news' ++ news, by rw [log', log, List.append_assoc], fun h hmem => ?_⟩
  rcases List.mem_append.1 hmem with hmem | hmem
  · exact all' h hmem
  · exact all h hmem

theorem mono {Q : Happening → Prop} (wrote : Wrote P l l') (h : ∀ line, P line → Q line) :
    Wrote Q l l' := by
  obtain ⟨news, log, all⟩ := wrote
  exact ⟨news, log, fun line hmem => h line (all line hmem)⟩

theorem of_mem (wrote : Wrote P l l') {h : Happening} (hmem : h ∈ l'.log) : h ∈ l.log ∨ P h := by
  obtain ⟨news, log, all⟩ := wrote
  rw [log] at hmem
  rcases List.mem_append.1 hmem with hmem | hmem
  · exact .inr (all h hmem)
  · exact .inl hmem

end Wrote

theorem wrote_of_log (log : l'.log = l.log) : Wrote P l l' :=
  ⟨[], log, fun _ hmem => absurd hmem List.not_mem_nil⟩

theorem wrote_of_noted {h : Happening} (log : l'.log = h :: l.log) (kind : P h) : Wrote P l l' :=
  ⟨[h], log, fun _ hmem => List.mem_singleton.1 hmem ▸ kind⟩

/-! ## Closing -/

section Closing

variable (closing : ∀ h : Happening, h.writer? = none → P h)

include closing

theorem wrote_closeStream (l : Listener) (stream : Nat) : Wrote P l (l.closeStream stream) :=
  wrote_of_noted (closeStream_log l stream) (closing _ rfl)

theorem wrote_dropOutcome (l : Listener) (outcome : Outcome) :
    Wrote P l (l.dropOutcome outcome) := by
  cases outcome with
  | ok connection => exact wrote_closeStream closing l connection.stream
  | error _ => exact wrote_of_log rfl

theorem wrote_closeSocket (l : Listener) : Wrote P l l.closeSocket := by
  have streams : ∀ (arrivals : List Arrival) (l : Listener),
      Wrote P l (arrivals.foldl (fun l arrival => l.closeStream arrival.stream) l) := by
    intro arrivals
    induction arrivals with
    | nil => exact fun _ => wrote_of_log rfl
    | cons arrival arrivals ih => exact fun l => (wrote_closeStream closing l _).trans (ih _)
  unfold closeSocket
  split
  · exact wrote_of_log rfl
  · exact (streams l.socket.waiting l).trans (wrote_of_noted rfl (closing _ rfl))

theorem wrote_of_dropped {l₁ : Listener} {Held : Outcome → Prop}
    (dropped : l₁ = l ∨ ∃ outcome, Held outcome ∧ l₁ = l.dropOutcome outcome) : Wrote P l l₁ := by
  rcases dropped with rfl | ⟨outcome, _, rfl⟩
  · exact wrote_of_log rfl
  · exact wrote_dropOutcome closing l outcome

end Closing

/-! ## The parties -/

/-- A line that a party may write: it is about the party, or about something closed. -/
def Party.May (p : Party) (h : Happening) : Prop := h.writer? = none ∨ h.writer? = some p

theorem wrote_failActs (l : Listener) (id : Nat) (task : HandshakeTask) (failure : Failure) :
    Wrote (Party.task id).May l (l.failActs id task failure) := by
  have rejected : Wrote (Party.task id).May l (l.rejectActs id task failure) :=
    (wrote_closeStream (fun _ => .inl) l task.stream).trans (wrote_of_noted rfl (.inr rfl))
  rcases failActs_cases l id task failure with ⟨_, heq⟩ | ⟨_, heq⟩
  · rw [heq]
    exact rejected.trans (wrote_of_noted rfl (.inr rfl))
  · rw [heq]
    exact rejected.trans (wrote_of_noted rfl (.inr rfl))

theorem wrote_stepTask {sight : Sight} (stepped : TaskStepped S l id task sight l') :
    Wrote (Party.task id).May l l' := by
  have closing : ∀ h : Happening, h.writer? = none → (Party.task id).May h := fun _ => .inl
  have entered : ∀ (l : Listener) (state : HandshakeState),
      Wrote (Party.task id).May l (l.enter id state) := fun _ _ => wrote_of_noted rfl (.inr rfl)
  have ended : ∀ l : Listener, Wrote (Party.task id).May l (l.endTask id) :=
    fun _ => wrote_of_noted rfl (.inr rfl)
  have polled : ∀ handoff : Handoff Outcome, Wrote (Party.task id).May l { l with handoff } :=
    fun _ => wrote_of_log rfl
  cases stepped with
  | aborts =>
    exact (((entered l .init).trans (entered _ .rejected)).trans (ended _)).trans
      (wrote_closeStream closing _ _)
  | begins =>
    have began : Wrote (Party.task id).May (l.enter id .init)
        ({ l.enter id .init with tally := l.tally.start }.enter id .awaitActOne) :=
      wrote_of_noted rfl (.inr rfl)
    exact ((entered l .init).trans began).trans (wrote_of_log rfl)
  | shut => exact wrote_failActs l id task _
  | breaks failure wires => exact wrote_failActs { l with wires } id task failure
  | readsOne | writes | readsThree => exact wrote_of_log rfl
  | takesOne machine got bytes timer wire inward act =>
    rcases takeActOne_cases (S := S) (l.withWire task.stream { wire with inward }) id task machine
      act with ⟨e, m, _, htake⟩ | ⟨m₁, _, ⟨e, m₂, _, htake⟩ | ⟨two, m₂, _, htake⟩⟩
    · rw [htake]
      exact wrote_failActs (l.withWire task.stream { wire with inward }) id task _
    · rw [htake]
      exact wrote_failActs { l.withWire task.stream { wire with inward } with
        chance := _ } id task _
    · rw [htake]
      exact wrote_of_log rfl
  | awaits => exact (entered l .awaitActThree).trans (wrote_of_log rfl)
  | takesThree machine got bytes timer wire inward act =>
    rcases takeActThree_cases (S := S) (l.withWire task.stream { wire with inward }) id task machine
      act with ⟨e, m, _, htake⟩ | ⟨m, _, ⟨_, htake⟩ | ⟨remote, _, htake⟩⟩
    · rw [htake]
      exact wrote_failActs (l.withWire task.stream { wire with inward }) id task _
    · rw [htake]
      exact wrote_failActs (l.withWire task.stream { wire with inward }) id task _
    · rw [htake]
      have secured : Wrote (Party.task id).May l
          ((l.withWire task.stream { wire with inward }).secureActs id) :=
        wrote_of_noted rfl (.inr rfl)
      exact secured.trans (wrote_of_noted rfl (.inr rfl))
  | holds handoff => exact polled handoff
  | delivers handoff => exact (polled handoff).trans (ended _)
  | drops outcome handoff =>
    exact ((polled handoff).trans (wrote_dropOutcome closing _ outcome)).trans (ended _)

/-- A line of the accept loop's that takes no connection. -/
def LoopLine (h : Happening) : Prop :=
  Party.loop.May h ∧ ∀ id stream, h ≠ .taken id stream

theorem loopLine_of_closing (h : Happening) (closing : h.writer? = none) : LoopLine h := by
  refine ⟨.inl closing, ?_⟩
  rintro id stream rfl
  cases closing

theorem wrote_stopLoop (l : Listener) : Wrote LoopLine l l.stopLoop :=
  (wrote_closeSocket loopLine_of_closing l).trans
    (wrote_of_noted rfl ⟨.inr rfl, fun _ _ => Happening.noConfusion⟩)

theorem wrote_reportRefusal (l : Listener) (error : SystemError) :
    Wrote LoopLine l (l.reportRefusal error) := by
  have refused : LoopLine (.refused error) := ⟨.inr rfl, fun _ _ => Happening.noConfusion⟩
  unfold reportRefusal
  simp only
  split
  · rename_i range _
    have drawn : LoopLine (.jitter range) := ⟨.inr rfl, fun _ _ => Happening.noConfusion⟩
    exact ⟨[.refused error, .jitter range], rfl,
      List.forall_mem_cons.2 ⟨refused, List.forall_mem_singleton.2 drawn⟩⟩
  · exact wrote_of_noted rfl refused

/-- A step of the accept loop takes a connection from the socket, or none is put on record. -/
theorem wrote_stepLoop (stepped : LoopStepped l l') :
    Wrote LoopLine l l' ∨ ∃ arrival socket, l.socket.poll = (.ready (.ok arrival), socket) ∧
      l' = { l with socket }.spawnTask arrival := by
  have returned : LoopLine .loopTokenReturned := ⟨.inr rfl, fun _ _ => Happening.noConfusion⟩
  cases stepped with
  | stops => exact .inl (wrote_stopLoop l)
  | withdraws => exact .inl (wrote_stopLoop { l with pool := l.pool.withdraw .loop })
  | returns =>
    have released : Wrote LoopLine l l.releaseLoopToken := wrote_of_noted rfl returned
    exact .inl (released.trans (wrote_stopLoop _))
  | refuses error socket => exact .inl (wrote_reportRefusal { l with socket } error)
  | takes arrival socket _ _ polled => exact .inr ⟨arrival, socket, polled, rfl⟩
  | pauses => exact .inl (wrote_of_noted rfl returned)
  | queues | draws | picksUp | holds | resumes => exact .inl (wrote_of_log rfl)

theorem wrote_stepCall {call : Nat} (stepped : CallStepped l call l') :
    Wrote (Party.call call).May l l' := by
  have answered : ∀ (l : Listener) (outcome : Outcome),
      Wrote (Party.call call).May l (l.note (.answered call outcome)) :=
    fun _ _ => wrote_of_noted rfl (.inr rfl)
  have polled : ∀ handoff : Handoff Outcome, Wrote (Party.call call).May l { l with handoff } :=
    fun _ => wrote_of_log rfl
  cases stepped with
  | waits handoff => exact polled handoff
  | answers outcome handoff => exact (polled handoff).trans (answered _ _)
  | closes handoff l₁ _ dropped =>
    exact ((polled handoff).trans (wrote_of_dropped (fun _ => .inl) dropped)).trans (answered _ _)

theorem wrote_abandonCall (l : Listener) (call : Nat) :
    Wrote (fun h => h.writer? = none) l (l.abandonCall call) := by
  unfold abandonCall
  simp only
  split
  · exact wrote_dropOutcome (fun _ closing => closing) { l with handoff := _ } _
  · exact wrote_of_log rfl

theorem wrote_stepDrain {drain : Nat} (stepped : DrainStepped l drain l') :
    Wrote (Party.drain drain).May l l' := by
  cases stepped with
  | asks => exact wrote_of_log rfl
  | drains => exact wrote_of_noted rfl (.inr rfl)

/-! ## All events -/

/-- The lines that an event may write. -/
def Event.Writes (e : Event) (h : Happening) : Prop :=
  h.writer? = none ∨ ∃ p, h.writer? = some p ∧ e = .step p

/-- Whatever a line is about writes it itself. -/
theorem wrote_apply (S : Suite) (l : Listener) (e : Event) : Wrote e.Writes l (l.apply S e) := by
  have own : ∀ {p : Party} {l' : Listener}, Wrote p.May l l' → Wrote (Event.step p).Writes l l' :=
    fun wrote => wrote.mono fun _ may => may.imp_right fun h => ⟨_, h, rfl⟩
  cases e with
  | step party =>
    rcases apply_step S l party with ⟨_, same⟩ | ⟨l', happly, taken⟩
    · rw [same]
      exact wrote_of_log rfl
    · rw [happly]
      cases taken with
      | loop step =>
        rcases wrote_stepLoop (stepLoop_spec step) with wrote | ⟨arrival, socket, _, rfl⟩
        · exact own (wrote.mono fun _ line => line.1)
        · exact own (wrote_of_noted rfl (.inr rfl))
      | task task held step => exact own (wrote_stepTask (stepTask_spec held step))
      | call step => exact own (wrote_stepCall (stepCall_spec step))
      | drain step => exact own (wrote_stepDrain (stepDrain_spec step))
  | abandonCall call => exact (wrote_abandonCall l call).mono fun _ => .inl
  | closeSocket => exact wrote_closeSocket (fun _ => .inl) l
  | wire stream change => exact wrote_of_log (log_onWire l stream _)
  | startCall _ | startDrain _ | abandonDrain _ | trigger | arrive _ | newStream _ | advance _
  | chance _ => exact wrote_of_log rfl

/-- A connection comes on record as taken when the accept loop takes it from the socket. -/
theorem spawned_of_taken {e : Event} {stream : Nat}
    (taken : .taken id stream ∈ (l.apply S e).log) :
    .taken id stream ∈ l.log ∨
      ∃ arrival socket, e = .step .loop ∧ l.socket.poll = (.ready (.ok arrival), socket) ∧
        l.apply S e = { l with socket }.spawnTask arrival ∧
        id = l.connections + 1 ∧ stream = arrival.stream := by
  rcases (wrote_apply S l e).of_mem taken with old | closing | ⟨p, writer, rfl⟩
  · exact .inl old
  · cases closing
  · cases writer
    rcases apply_step S l .loop with ⟨_, same⟩ | ⟨l', happly, ⟨step⟩⟩
    · rw [same] at taken
      exact .inl taken
    · rw [happly] at taken ⊢
      rcases wrote_stepLoop (stepLoop_spec step) with wrote | ⟨arrival, socket, polled, rfl⟩
      · exact .inl ((wrote.of_mem taken).resolve_right fun line => line.2 id stream rfl)
      · rcases List.mem_cons.1 taken with new | old
        · obtain ⟨hid, hstream⟩ := Happening.taken.inj new
          exact .inr ⟨arrival, socket, rfl, polled, rfl, hid, hstream⟩
        · exact .inl old

end Listener

end Gatehouse
