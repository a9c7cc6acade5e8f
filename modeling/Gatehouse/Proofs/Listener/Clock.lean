import Gatehouse.Proofs.Listener.Steps

/-!
# The clock of a listener

Only waiting takes time: no step of a party moves the clock (`now_apply`).
-/

namespace Gatehouse.Listener

variable {S : Suite} {l l' : Listener} {id : Nat} {task : HandshakeTask} {sight : Sight}

/-- How much time passes at an event. -/
def Event.elapsed : Event → Nat
  | .advance milliseconds => milliseconds
  | _ => 0

@[simp] theorem now_onWire (l : Listener) (stream : Nat) (f : Wire → Wire) :
    (l.onWire stream f).now = l.now := by
  unfold onWire
  split <;> rfl

@[simp] theorem now_closeStream (l : Listener) (stream : Nat) :
    (l.closeStream stream).now = l.now :=
  now_onWire l stream Wire.closeGate

@[simp] theorem now_dropOutcome (l : Listener) (outcome : Outcome) :
    (l.dropOutcome outcome).now = l.now := by
  cases outcome with
  | ok connection => exact now_closeStream l connection.stream
  | error _ => rfl

@[simp] theorem now_closeSocket (l : Listener) : l.closeSocket.now = l.now := by
  have streams : ∀ (arrivals : List Arrival) (l : Listener),
      (arrivals.foldl (fun l arrival => l.closeStream arrival.stream) l).now = l.now := by
    intro arrivals
    induction arrivals with
    | nil => exact fun _ => rfl
    | cons arrival arrivals ih =>
      intro l
      rw [List.foldl_cons, ih, now_closeStream]
  unfold closeSocket
  split
  · rfl
  · exact streams _ l

theorem now_stopLoop (l : Listener) : l.stopLoop.now = l.now := now_closeSocket l

theorem now_reportRefusal (l : Listener) (error : SystemError) :
    (l.reportRefusal error).now = l.now := by
  unfold reportRefusal
  simp only
  split <;> rfl

theorem now_stepLoop (stepped : LoopStepped l l') : l'.now = l.now := by
  cases stepped with
  | stops => exact now_stopLoop l
  | withdraws => exact now_stopLoop { l with pool := l.pool.withdraw .loop }
  | returns => exact now_stopLoop l.releaseLoopToken
  | refuses error socket => exact now_reportRefusal { l with socket } error
  | queues | draws | picksUp | takes | holds | pauses | resumes => rfl

theorem now_failActs (l : Listener) (id : Nat) (task : HandshakeTask) (failure : Failure) :
    (l.failActs id task failure).now = l.now := by
  have rejected : (l.rejectActs id task failure).now = l.now := now_closeStream l task.stream
  rcases failActs_cases l id task failure with ⟨_, heq⟩ | ⟨_, heq⟩
  · rw [heq]
    exact rejected
  · rw [heq]
    exact rejected

theorem now_stepTask (stepped : TaskStepped S l id task sight l') : l'.now = l.now := by
  cases stepped with
  | aborts => exact now_closeStream _ task.stream
  | shut => exact now_failActs l id task .closed
  | breaks failure wires => exact now_failActs { l with wires } id task failure
  | takesOne machine got bytes timer wire inward act =>
    rcases takeActOne_cases (S := S) (l.withWire task.stream { wire with inward }) id task machine
      act with ⟨_, _, _, heq⟩ | ⟨_, _, ⟨_, _, _, heq⟩ | ⟨_, _, _, heq⟩⟩
    · rw [heq]
      exact now_failActs _ id task _
    · rw [heq]
      exact now_failActs _ id task _
    · rw [heq]
      rfl
  | takesThree machine got bytes timer wire inward act =>
    rcases takeActThree_cases (S := S) (l.withWire task.stream { wire with inward }) id task machine
      act with ⟨_, _, _, heq⟩ | ⟨_, _, ⟨_, heq⟩ | ⟨_, _, heq⟩⟩
    · rw [heq]
      exact now_failActs _ id task _
    · rw [heq]
      exact now_failActs _ id task _
    · rw [heq]
      rfl
  | drops outcome handoff => exact now_dropOutcome { l with handoff } outcome
  | begins | readsOne | writes | awaits | readsThree | holds | delivers => rfl

theorem now_stepCall {call : Nat} (stepped : CallStepped l call l') : l'.now = l.now := by
  cases stepped with
  | waits | answers => rfl
  | closes handoff l₁ polled dropped =>
    rcases dropped with rfl | ⟨outcome, _, rfl⟩
    · rfl
    · exact now_dropOutcome { l with handoff } outcome

theorem now_abandonCall (l : Listener) (call : Nat) : (l.abandonCall call).now = l.now := by
  unfold abandonCall
  simp only
  split
  · exact now_dropOutcome _ _
  · rfl

/-- **Only waiting takes time.** -/
theorem now_apply (S : Suite) (l : Listener) (e : Event) :
    (l.apply S e).now = l.now + e.elapsed := by
  cases e with
  | step party =>
    rcases apply_step S l party with ⟨_, same⟩ | ⟨l', happly, taken⟩
    · rw [same]
      rfl
    · rw [happly]
      cases taken with
      | loop step => exact now_stepLoop (stepLoop_spec step)
      | task task held step => exact now_stepTask (stepTask_spec held step)
      | call step => exact now_stepCall (stepCall_spec step)
      | drain step => cases stepDrain_spec step <;> rfl
  | abandonCall call => exact now_abandonCall l call
  | closeSocket => exact now_closeSocket l
  | wire stream change => exact now_onWire l stream _
  | startCall _ | startDrain _ | abandonDrain _ | trigger | arrive _ | newStream _ | advance _
  | chance _ => rfl

end Gatehouse.Listener
