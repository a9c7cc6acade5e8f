import Gatehouse.Proofs.Backoff
import Gatehouse.Proofs.Listener.Rounds

/-!
# Failures to take a connection

What the accept loop has made of the answers of the socket, at every moment of every run in which
nobody closes the listener (`Scene.Reports`): it has met with them one after the other, every failure
is counted, submitted once and handed over once, and the pause after it goes by the failures in a row.
An event changes that in the few ways in which a round of the loop goes on (`Proceeds`).
-/

namespace Gatehouse

namespace Backoff

/-! ## The pause after a failure -/

/-- The shift stops growing long after the limit has been reached. -/
theorem cap_standard (k : Nat) : cap 5 1000 k = min (5 * 2 ^ (k - 1)) 1000 := by
  unfold cap
  by_cases small : k - 1 ≤ 32
  · rw [Nat.min_eq_left small]
  · have power : 2 ^ 32 ≤ 2 ^ (k - 1) := Nat.pow_le_pow_right (by omega) (by omega)
    rw [Nat.min_eq_right (by omega : 32 ≤ k - 1), Nat.min_eq_right (by decide), Nat.min_eq_right]
    omega

/-- How long a pause after the `k`-th failure in a row can be, in milliseconds. -/
structure PauseAfter (k pause : Nat) : Prop where
  failed : 1 ≤ k
  jitter : ∃ jitter, pause = min (5 * 2 ^ (k - 1)) 1000 + jitter ∧
    (jitter = 0 ∨ jitter < min (5 * 2 ^ (k - 1)) 1000 / 10)
  least : 5 ≤ pause
  most : pause ≤ 1099

theorem Decided.pauseAfter {k : Nat} {chance rest : Chance} {pause : Pause}
    (decided : Decided 5 1000 k chance pause rest) (failed : 1 ≤ k) :
    PauseAfter k (pause.length.getD 0).toNat := by
  obtain ⟨length, hlength⟩ := Option.ne_none_iff_exists'.1 (decided.fits (by decide))
  obtain ⟨least, most⟩ := decided.bounds length hlength
  have power : 1 ≤ 2 ^ (k - 1) := Nat.one_le_two_pow
  rw [cap_standard] at least most
  rw [hlength, Option.getD_some]
  refine ⟨failed, ⟨length.toNat - min (5 * 2 ^ (k - 1)) 1000, ?_, ?_⟩, ?_, ?_⟩
  all_goals omega

end Backoff

namespace Listener

variable {S : Suite} {l l' : Listener} {capacity : Nat}
  {brought arrived : List (Except SystemError Arrival)}

/-! ## The state of a round -/

namespace Round

/-- The failures to take a connection, the latest first. -/
def refusals (r : Round) : List SystemError :=
  r.attempts.filterMap fun
    | .error error => some error
    | .ok _ => none

/-- What has happened to the back-off, the latest first. -/
def life (r : Round) : List Backoffs.Deed :=
  r.attempts.map fun
    | .error _ => .failed
    | .ok _ => .reset

/-- How many failures there have been in a row, since the last connection that was taken. -/
def row (r : Round) : Nat := Backoffs.streak r.life

/-- What holds of the rounds of an accept loop at a time. -/
structure Sound (now : Nat) (r : Round) : Prop where
  /-- Every failure has been submitted once, with its own error and in the order of the failures. -/
  submitted : r.dealings.submitted = r.refusals.map fun error => .error (.accept error)
  /-- Every token came back for a failure that was delivered, -/
  told : r.dealings.told = List.replicate r.returns true
  /-- and that is every failure but the one that is being handed over. -/
  returned : r.returns + (if r.loop.isReporting = true then 1 else 0) = r.refusals.length
  counted : r.acceptErrors = r.refusals.length
  /-- Only connections that were taken have been given numbers. -/
  connections : r.connections = r.attempts.countP (·.isOk)
  backoff : Backoffs.Member 5 1000 r.life r.backoff
  running : r.loop ≠ .stopped
  /-- The failure that is being handed over is the last one. -/
  reporting : ∀ pause, r.loop = .reporting pause → Backoff.PauseAfter r.row pause ∧
    ∃ error, r.refusals.head? = some error ∧ r.dealings.held = some (.error (.accept error))
  /-- A pause begins when the failure before it has been handed over, and lasts as long as was decided
      on then. -/
  pausing : ∀ timer, r.loop = .pausing timer → r.dealings.held = none ∧
    ∃ began pause, Backoff.PauseAfter r.row pause ∧ began ≤ now ∧ timer.due = began + pause

namespace Sound

variable {r : Round} {now now' : Nat}

theorem all_returned (sound : r.Sound now) (quiet : r.loop.isReporting = false) :
    r.returns = r.refusals.length := by
  have returned := sound.returned
  rw [quiet] at returned
  exact returned

/-- A loop that has nothing to hand over may look for the next connection. -/
theorem looks (sound : r.Sound now) (quiet : r.loop.isReporting = false) {phase : LoopPhase}
    (next : phase = .seeking ∨ phase = .queued ∨ phase = .listening) :
    { r with loop := phase }.Sound now' := by
  have returned := sound.all_returned quiet
  rcases next with rfl | rfl | rfl
  all_goals
    exact ⟨sound.submitted, sound.told, returned, sound.counted, sound.connections, sound.backoff,
      LoopPhase.noConfusion, fun _ => LoopPhase.noConfusion, fun _ => LoopPhase.noConfusion⟩

end Sound

end Round

/-- An event that goes one of the ways keeps the rounds sound. -/
theorem Turned.sound (turned : Turned l l' brought) (sound : l.round.Sound l.now) :
    l'.round.Sound l'.now := by
  cases turned with
  | stays _ round _ now =>
    -- only time has passed
    rw [round]
    refine { sound with pausing := fun timer pausing => ?_ }
    obtain ⟨held, began, pause, after, past, due⟩ := sound.pausing timer pausing
    exact ⟨held, began, pause, after, past.trans now, due⟩
  | looks phase looking next round _ =>
    rw [round]
    refine sound.looks ?_ (.inr next)
    rcases looking with h | h <;> exact congrArg LoopPhase.isReporting h
  | takes arrival listening _ round =>
    have returned := sound.all_returned (congrArg LoopPhase.isReporting listening)
    rw [round]
    refine ⟨sound.submitted, sound.told, returned, sound.counted, ?_, sound.backoff.resets,
      LoopPhase.noConfusion, fun _ => LoopPhase.noConfusion, fun _ => LoopPhase.noConfusion⟩
    exact (congrArg (· + 1) sound.connections).trans (List.countP_cons_of_pos rfl).symm
  | refuses error listening _ round _ _ =>
    have returned := sound.all_returned (congrArg LoopPhase.isReporting listening)
    obtain ⟨decided, member⟩ := sound.backoff.fails l.chance
    rw [round]
    refine ⟨congrArg (_ :: ·) sound.submitted, sound.told, congrArg (· + 1) returned,
      congrArg (· + 1) sound.counted, sound.connections, member, LoopPhase.noConfusion, ?_,
      fun _ => LoopPhase.noConfusion⟩
    intro pause reporting
    rw [← LoopPhase.reporting.inj reporting]
    exact ⟨decided.pauseAfter (Nat.le_add_left _ _), error, rfl, rfl⟩
  | delivers pause reporting round _ now _ =>
    have returned := sound.returned
    have before : l.round.loop.isReporting = true := congrArg LoopPhase.isReporting reporting
    -- the failure whose token was still out is the one that has been delivered
    rw [before] at returned
    rw [round, now]
    refine ⟨sound.submitted, congrArg (true :: ·) sound.told, returned, sound.counted,
      sound.connections, sound.backoff, LoopPhase.noConfusion, fun _ => LoopPhase.noConfusion, ?_⟩
    intro timer pausing
    rw [← LoopPhase.pausing.inj pausing]
    exact ⟨rfl, l.now, pause, (sound.reporting pause reporting).1, Nat.le_refl _, rfl⟩
  | resumes timer pausing _ round _ =>
    rw [round]
    exact sound.looks (congrArg LoopPhase.isReporting pausing) (.inl rfl)

/-- The loop has met with what the socket was given, one after the other, and the rest waits in the
    socket. -/
def InOrder (arrived : List (Except SystemError Arrival)) (l : Listener) : Prop :=
  arrived.map (·.map Arrival.stream) =
    l.attempts.reverse ++ l.socket.answers.map (·.map Arrival.stream)

theorem Turned.inOrder (turned : Turned l l' brought) (isOpen : l.socket.isOpen = true)
    (inOrder : l.InOrder arrived) : l'.InOrder (arrived ++ brought) := by
  have same : ∀ {loop : LoopPhase} {backoff acceptErrors dealings returns connections},
      l'.round = ⟨loop, backoff, acceptErrors, dealings, l.attempts, returns, connections⟩ →
      l'.socket = l.socket → l'.InOrder (arrived ++ []) := by
    intro loop backoff acceptErrors dealings returns connections round socket
    have attempts : l'.attempts = l.attempts := congrArg Round.attempts round
    rw [InOrder, List.append_nil, attempts, socket]
    exact inOrder
  -- what the socket answers next passes over to the attempts
  have next : ∀ {attempt : Except SystemError Arrival},
      l.socket.poll = (.ready attempt, l'.socket) →
      l'.attempts = attempt.map Arrival.stream :: l.attempts → l'.InOrder (arrived ++ []) := by
    intro attempt polled attempts
    unfold InOrder at inOrder ⊢
    rw [List.append_nil, inOrder, attempts, SocketSlot.answers_of_polled isOpen polled,
      List.reverse_cons, List.append_assoc]
    rfl
  cases turned with
  | stays _ round socket _ =>
    have attempts : l'.attempts = l.attempts := congrArg Round.attempts round
    unfold InOrder at inOrder ⊢
    rw [attempts, socket, SocketSlot.answers_pushAll isOpen, List.map_append, List.map_append,
      inOrder, List.append_assoc]
  | takes arrival _ polled round => exact next polled (congrArg Round.attempts round)
  | refuses error _ polled round => exact next polled (congrArg Round.attempts round)
  | looks _ _ _ round socket | delivers _ _ round _ _ socket | resumes _ _ _ round socket =>
    exact same round socket

/-- Nobody but the loop submits failures to take a connection. -/
def Front.Foreign (f : Front) : Prop :=
  ∀ k ≠ loopProducer, ∀ error, .error (.accept error) ∉ f.handoff.submittedBy k

theorem Front.Foreign.move {f f' : Front} (foreign : f.Foreign) (move : f.Move f') : f'.Foreign := by
  intro k other error hmem
  refine foreign k other error ?_
  cases move with
  | serves serve => exact serve.refusals hmem
  | refuses own socket polled =>
    have hmem : _ ∈ (f.handoff.submit loopProducer (.error (.accept own))).submittedBy k := hmem
    rw [Handoff.submittedBy_submit, if_neg (Ne.symm other)] at hmem
    exact hmem
  | arrives | fires | empties | takes => exact hmem

/-! ## What an event does -/

/-- How a round of the accept loop goes on at an event. -/
structure Proceeds (l l' : Listener) : Prop where
  /-- There is at most one more attempt to take a connection, -/
  attempted : l'.attempts = l.attempts ∨
    l.loop = .listening ∧ ∃ attempt, l'.attempts = attempt :: l.attempts
  /-- and one that fails starts no handshake: the loop keeps its token and has a failure to hand
      over. -/
  refused : ∀ error, l'.attempts = .error error :: l.attempts →
    (∃ pause, l'.loop = .reporting pause) ∧ l'.pool = l.pool ∧ l'.tasks = l.tasks ∧
      l'.connections = l.connections
  /-- One that succeeds ends the row of failures. -/
  taken : ∀ stream, l'.attempts = .ok stream :: l.attempts →
    l'.round.row = 0 ∧ l'.backoff.failures = 0
  /-- The loop hands its failure over until that is delivered.  Then it gives its token back, and the
      pause that was decided on begins. -/
  reported : ∀ pause, l.loop = .reporting pause →
    l'.loop = .reporting pause ∧ l'.round.dealings = l.round.dealings ∧
        l'.loopReturns = l.loopReturns ∨
      l'.loop = .pausing ⟨l.now + pause, l.armed⟩ ∧ l'.now = l.now ∧
        l'.round.dealings.told = true :: l.round.dealings.told ∧ l'.pool = l.pool.release 1 ∧
          l'.loopReturns = l.loopReturns + 1
  /-- It does nothing else before the pause is over, and then asks for a token. -/
  paused : ∀ timer, l.loop = .pausing timer →
    l'.loop = .pausing timer ∨ timer.due ≤ l.now ∧ l'.loop = .seeking

namespace Turned

variable (turned : Turned l l' brought)

include turned

theorem attempted : l'.attempts = l.attempts ∨
    l.loop = .listening ∧ ∃ attempt, l'.attempts = attempt :: l.attempts := by
  cases turned with
  | takes _ listening _ round | refuses _ listening _ round =>
    exact .inr ⟨listening, _, congrArg Round.attempts round⟩
  | stays _ round | looks _ _ _ round | delivers _ _ round | resumes _ _ _ round =>
    exact .inl (congrArg Round.attempts round)

theorem refused {error : SystemError} (failed : l'.attempts = .error error :: l.attempts) :
    (∃ pause, l'.loop = .reporting pause) ∧ l'.pool = l.pool ∧ l'.tasks = l.tasks ∧
      l'.connections = l.connections := by
  cases turned with
  | refuses own _ _ round pool tasks =>
    exact ⟨⟨_, congrArg Round.loop round⟩, pool, tasks, congrArg Round.connections round⟩
  | takes _ _ _ round => cases (congrArg Round.attempts round).symm.trans failed
  | stays _ round | looks _ _ _ round | delivers _ _ round | resumes _ _ _ round =>
    exact absurd ((congrArg Round.attempts round).symm.trans failed) List.ne_cons_self

theorem taken {stream : Nat} (succeeded : l'.attempts = .ok stream :: l.attempts) :
    l'.round.row = 0 ∧ l'.backoff.failures = 0 := by
  cases turned with
  | takes arrival _ _ round =>
    refine ⟨?_, congrArg (·.backoff.failures) round⟩
    rw [round]
    rfl
  | refuses _ _ _ round => cases (congrArg Round.attempts round).symm.trans succeeded
  | stays _ round | looks _ _ _ round | delivers _ _ round | resumes _ _ _ round =>
    exact absurd ((congrArg Round.attempts round).symm.trans succeeded) List.ne_cons_self

theorem reported {pause : Nat} (reporting : l.loop = .reporting pause) :
    l'.loop = .reporting pause ∧ l'.round.dealings = l.round.dealings ∧
        l'.loopReturns = l.loopReturns ∨
      l'.loop = .pausing ⟨l.now + pause, l.armed⟩ ∧ l'.now = l.now ∧
        l'.round.dealings.told = true :: l.round.dealings.told ∧ l'.pool = l.pool.release 1 ∧
          l'.loopReturns = l.loopReturns + 1 := by
  cases turned with
  | stays _ round =>
    refine .inl ⟨(congrArg Round.loop round).trans reporting, ?_, congrArg Round.returns round⟩
    rw [round]
  | delivers other same round pool now =>
    cases reporting.symm.trans same
    refine .inr ⟨congrArg Round.loop round, now, ?_, pool, congrArg Round.returns round⟩
    rw [round]
    rfl
  | looks _ looking => rcases looking with h | h <;> cases h.symm.trans reporting
  | takes _ listening | refuses _ listening => cases listening.symm.trans reporting
  | resumes _ pausing => cases pausing.symm.trans reporting

theorem paused {timer : Timer} (pausing : l.loop = .pausing timer) :
    l'.loop = .pausing timer ∨ timer.due ≤ l.now ∧ l'.loop = .seeking := by
  cases turned with
  | stays _ round => exact .inl ((congrArg Round.loop round).trans pausing)
  | resumes other same elapsed round =>
    cases pausing.symm.trans same
    exact .inr ⟨elapsed, congrArg Round.loop round⟩
  | looks _ looking => rcases looking with h | h <;> cases h.symm.trans pausing
  | takes _ listening | refuses _ listening => cases listening.symm.trans pausing
  | delivers _ reporting => cases reporting.symm.trans pausing

theorem proceeds : Proceeds l l' where
  attempted := turned.attempted
  refused := fun _ => turned.refused
  taken := fun _ => turned.taken
  reported := fun _ => turned.reported
  paused := fun _ => turned.paused

end Turned

/-! ## Every run -/

namespace Scene

variable {s : Scene}

/-- What holds along every run of a scene in which nobody closes the listener. -/
structure Reports (capacity : Nat) (arrived : List (Except SystemError Arrival)) (s : Scene) : Prop
    extends OnDuty capacity s where
  sound : s.listener.round.Sound s.listener.now
  inOrder : s.listener.InOrder arrived
  foreign : s.listener.front.Foreign

namespace Reports

theorem apply (reports : Reports capacity arrived s) (e : Event)
    (going : (s.apply S e).listener.fired = false) :
    Reports capacity (arrived ++ e.brought) (s.apply S e) := by
  obtain ⟨turned, _⟩ := reports.toOnDuty.turned e going
  exact ⟨reports.toOnDuty.apply e going, turned.sound reports.sound,
    turned.inOrder reports.isOpen reports.inOrder, reports.foreign.move (move_apply S s e)⟩

theorem run (reports : Reports capacity arrived s) (events : List Event)
    (going : (s.run S events).listener.fired = false) :
    Reports capacity (arrived ++ Scene.arrived events) (s.run S events) := by
  induction events generalizing s arrived with
  | nil => exact (List.append_nil arrived).symm ▸ reports
  | cons e events ih =>
    have next := reports.apply e (fired_of_run going)
    have last := ih next going
    rw [List.append_assoc] at last
    exact last

theorem opened {identity : Identity} {timeout : Nat} {address : Except SystemError SocketAddress}
    (opened : ofRaw identity capacity timeout address = .ok l) :
    Reports capacity [] { listener := l } := by
  have onDuty := OnDuty.opened opened
  obtain ⟨_, _, _, rfl⟩ := eq_of_opened opened
  refine ⟨onDuty, ⟨rfl, rfl, rfl, rfl, rfl, ⟨rfl, rfl, rfl⟩, LoopPhase.noConfusion,
    fun _ => LoopPhase.noConfusion, fun _ => LoopPhase.noConfusion⟩, rfl, ?_⟩
  exact fun _ _ _ => List.not_mem_nil

end Reports

end Scene

end Listener

end Gatehouse
