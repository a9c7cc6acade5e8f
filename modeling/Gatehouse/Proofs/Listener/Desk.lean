import Gatehouse.Proofs.Handoff.Dealings
import Gatehouse.Proofs.Listener.Apart
import Gatehouse.Proofs.Listener.Clock

/-!
# What is the accept loop's own

Where the accept loop stands, its back-off, the count of failures and its dealings with the handoff
are its own: handshakes, calls and waits leave them alone (`aside_apply`), and nobody but the loop
writes about them into the log.  Handshakes and calls do have to do with the handoff, but only as
others than the loop (`Handoff.Elsewhere`).
-/

namespace Gatehouse.Listener

variable {S : Suite} {l l' : Listener} {id : Nat} {task : HandshakeTask}

/-- What the accept loop has before it. -/
structure Desk where
  loop : LoopPhase
  backoff : Backoff
  acceptErrors : Nat
  handoff : Handoff Outcome

/-- What the accept loop of a listener has before it. -/
def desk (l : Listener) : Desk where
  loop := l.loop
  backoff := l.backoff
  acceptErrors := l.tally.acceptErrors
  handoff := l.handoff

/-! ## What is nothing to the loop -/

theorem desk_onWire (l : Listener) (stream : Nat) (f : Wire → Wire) :
    (l.onWire stream f).desk = l.desk := by
  unfold onWire
  split <;> rfl

theorem desk_closeStream (l : Listener) (stream : Nat) : (l.closeStream stream).desk = l.desk :=
  desk_onWire l stream Wire.closeGate

theorem desk_dropOutcome (l : Listener) (outcome : Outcome) :
    (l.dropOutcome outcome).desk = l.desk := by
  cases outcome with
  | ok connection => exact desk_closeStream l connection.stream
  | error _ => rfl

theorem desk_of_dropped {Held : Outcome → Prop}
    (dropped : l' = l ∨ ∃ outcome, Held outcome ∧ l' = l.dropOutcome outcome) :
    l'.desk = l.desk := by
  rcases dropped with rfl | ⟨outcome, _, rfl⟩
  · rfl
  · exact desk_dropOutcome l outcome

theorem desk_rejectActs (l : Listener) (id : Nat) (task : HandshakeTask) (failure : Failure) :
    (l.rejectActs id task failure).desk = l.desk :=
  desk_closeStream l task.stream

/-- The loop is left alone: what happens with the handoff is the others' business. -/
structure Aside (l l' : Listener) : Prop where
  loop : l'.loop = l.loop
  backoff : l'.backoff = l.backoff
  acceptErrors : l'.tally.acceptErrors = l.tally.acceptErrors
  handoff : l.handoff.Elsewhere loopProducer l'.handoff

theorem aside_of_desk {handoff : Handoff Outcome}
    (elsewhere : l.handoff.Elsewhere loopProducer handoff)
    (same : l'.desk = { l.desk with handoff }) : Aside l l' where
  loop := congrArg Desk.loop same
  backoff := congrArg Desk.backoff same
  acceptErrors := congrArg Desk.acceptErrors same
  handoff := by
    have hhandoff : l'.handoff = handoff := congrArg Desk.handoff same
    rw [hhandoff]
    exact elsewhere

theorem aside_of_same (same : l'.desk = l.desk) : Aside l l' := aside_of_desk .still same

/-! ## The handshakes -/

section Handshakes

variable (other : id ≠ loopProducer)

include other

theorem aside_submitOutcome {outcome : Outcome} (same : l'.desk = l.desk) :
    Aside l (l'.submitOutcome id task outcome) := by
  have hdesk : (l'.submitOutcome id task outcome).desk =
      { l'.desk with handoff := l'.desk.handoff.submit id outcome } := rfl
  rw [same] at hdesk
  exact aside_of_desk (.submits id other outcome) hdesk

theorem aside_failActs {failure : Failure} (same : l'.desk = l.desk) :
    Aside l (l'.failActs id task failure) := by
  have rejected : (l'.rejectActs id task failure).desk = l.desk :=
    (desk_rejectActs l' id task failure).trans same
  rcases failActs_cases l' id task failure with ⟨_, heq⟩ | ⟨_, heq⟩
  · rw [heq]
    exact aside_of_same rejected
  · rw [heq]
    exact aside_submitOutcome other rejected

theorem aside_polled {answer : Poll Bool} {handoff : Handoff Outcome}
    (polled : l.handoff.pollProducer id = (answer, handoff))
    (same : l'.desk = { l.desk with handoff }) : Aside l l' := by
  have elsewhere : l.handoff.Elsewhere loopProducer (l.handoff.pollProducer id).2 :=
    .produces id other
  rw [polled] at elsewhere
  exact aside_of_desk elsewhere same

/-- A handshake's step is nothing to the loop. -/
theorem aside_stepTask {sight : Sight} (stepped : TaskStepped S l id task sight l') :
    Aside l l' := by
  cases stepped with
  | aborts => exact aside_of_same (desk_closeStream _ task.stream)
  | shut => exact aside_failActs other rfl
  | breaks failure wires => exact aside_failActs other rfl
  | takesOne machine got bytes timer wire inward act =>
    rcases takeActOne_cases (S := S) (l.withWire task.stream { wire with inward }) id task machine
      act with ⟨e, m, _, htake⟩ | ⟨m₁, _, ⟨e, m₂, _, htake⟩ | ⟨two, m₂, _, htake⟩⟩
    · rw [htake]
      exact aside_failActs other rfl
    · rw [htake]
      exact aside_failActs other rfl
    · rw [htake]
      exact aside_of_same rfl
  | takesThree machine got bytes timer wire inward act =>
    rcases takeActThree_cases (S := S) (l.withWire task.stream { wire with inward }) id task machine
      act with ⟨e, m, _, htake⟩ | ⟨m, _, ⟨_, htake⟩ | ⟨remote, _, htake⟩⟩
    · rw [htake]
      exact aside_failActs other rfl
    · rw [htake]
      exact aside_failActs other rfl
    · rw [htake, succeedActs_eq]
      exact aside_submitOutcome other rfl
  | holds handoff _ polled => exact aside_polled other polled rfl
  | delivers handoff _ polled => exact aside_polled other polled rfl
  | drops outcome handoff _ _ polled =>
    exact aside_polled other polled (desk_dropOutcome { l with handoff } outcome)
  | begins | readsOne | writes | awaits | readsThree => exact aside_of_same rfl

end Handshakes

/-! ## Calls and waits -/

theorem aside_stepCall {call : Nat} (stepped : CallStepped l call l') : Aside l l' := by
  have consumes : ∀ {answer : Poll (Option Outcome)} {handoff : Handoff Outcome},
      l.handoff.pollConsumer call = (answer, handoff) →
        ∀ {l₁ : Listener}, l₁.desk = { l.desk with handoff } → Aside l l₁ := by
    intro answer handoff polled l₁ same
    have elsewhere : l.handoff.Elsewhere loopProducer (l.handoff.pollConsumer call).2 :=
      .consumes call
    rw [polled] at elsewhere
    exact aside_of_desk elsewhere same
  cases stepped with
  | waits handoff polled => exact consumes polled rfl
  | answers outcome handoff polled => exact consumes polled rfl
  | closes handoff l₁ polled dropped =>
    have same : l₁.desk = { l with handoff : Listener }.desk := desk_of_dropped dropped
    exact consumes polled same

theorem aside_abandonCall (l : Listener) (call : Nat) : Aside l (l.abandonCall call) := by
  refine aside_of_desk (.abandons call) ?_
  unfold abandonCall
  simp only
  split
  · exact desk_dropOutcome _ _
  · rfl

/-! ## Every event but the loop's own steps -/

theorem desk_closeSocket (l : Listener) : l.closeSocket.desk = l.desk := by
  have streams : ∀ (arrivals : List Arrival) (l : Listener),
      (arrivals.foldl (fun l arrival => l.closeStream arrival.stream) l).desk = l.desk := by
    intro arrivals
    induction arrivals with
    | nil => exact fun _ => rfl
    | cons arrival arrivals ih => exact fun l => (ih _).trans (desk_closeStream l arrival.stream)
  unfold closeSocket
  split
  · rfl
  · exact streams l.socket.waiting l

/-- **What the accept loop has before it is its own.**  No other party's step and nothing from
    outside changes it. -/
theorem aside_apply (S : Suite) (l : Listener) {e : Event} (notLoop : e ≠ .step .loop)
    (noTask : l.tasks.find? loopProducer = none) : Aside l (l.apply S e) := by
  cases e with
  | step party =>
    rcases apply_step S l party with ⟨_, same⟩ | ⟨l', happly, taken⟩
    · rw [same]
      exact aside_of_same rfl
    · rw [happly]
      cases taken with
      | loop _ => exact absurd rfl notLoop
      | @task k _ task held step =>
        have other : k ≠ loopProducer := by
          rintro rfl
          cases noTask.symm.trans held
        exact aside_stepTask other (stepTask_spec held step)
      | call step => exact aside_stepCall (stepCall_spec step)
      | drain step => cases stepDrain_spec step <;> exact aside_of_same rfl
  | startCall call => exact aside_of_desk (.requests call) rfl
  | abandonCall call => exact aside_abandonCall l call
  | trigger => exact aside_of_desk .shuts rfl
  | closeSocket => exact aside_of_same (desk_closeSocket l)
  | wire stream change => exact aside_of_same (desk_onWire l stream _)
  | startDrain _ | abandonDrain _ | arrive _ | newStream _ | advance _ | chance _ =>
    exact aside_of_same rfl

end Gatehouse.Listener
