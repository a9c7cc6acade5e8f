import Gatehouse.Handoff

/-!
# Handoffs by hand

A handoff whose producers and consumers are numbered together in the order of their making, with
commands that poll them one by one or until nothing more comes of it.
-/

namespace Gatehouse.Handoff

variable {α : Type}

/-- A handoff and the number that the next producer or consumer gets. -/
structure Script (α : Type) where
  handoff : Handoff α := {}
  next : Nat := 0

/-- The result of a producer or consumer. -/
inductive Done (α : Type)
  /-- A producer's: was the outcome delivered? -/
  | delivered (value : Bool)
  /-- A consumer's: an outcome, or none because the channel is closed. -/
  | outcome (value : Option α)

/-- What can be done in a script. -/
inductive Command (α : Type)
  | recv
  | send (outcome : α)
  | poll (id : Nat)
  | settle
  | drop (id : Nat)
  | shutdown
  | dropSender
  | dropReceiver

/-- What a command answers. -/
inductive Reply (α : Type)
  /-- The number of a new producer or consumer. -/
  | id (value : Nat)
  /-- There is no such producer or consumer, or no such half. -/
  | gone
  /-- Not done yet. -/
  | pending
  /-- Done. -/
  | done (result : Done α)
  /-- All that were done, in the order in which they were. -/
  | settled (results : List (Nat × Done α))
  /-- Was this the command that fired the shutdown? -/
  | fired (value : Bool)
  /-- Nothing to say. -/
  | ok

namespace Script

/-- Poll the producer or consumer with this number. -/
def poll (s : Script α) (id : Nat) : Reply α × Script α :=
  if (s.handoff.producers.find? id).isSome then
    match s.handoff.pollProducer id with
    | (.pending, handoff) => (.pending, { s with handoff })
    | (.ready b, handoff) => (.done (.delivered b), { s with handoff })
  else if (s.handoff.consumers.find? id).isSome then
    match s.handoff.pollConsumer id with
    | (.pending, handoff) => (.pending, { s with handoff })
    | (.ready o, handoff) => (.done (.outcome o), { s with handoff })
  else (.gone, s)

/-- Poll these one after another: the results of those that were done. -/
def pollEach (s : Script α) : List Nat → List (Nat × Done α) × Script α
  | [] => ([], s)
  | id :: ids =>
    let (reply, s₁) := s.poll id
    let (results, s₂) := s₁.pollEach ids
    match reply with
    | .done r => ((id, r) :: results, s₂)
    | _ => (results, s₂)

/-- Poll all in rounds until a round finds none that is done, at most `rounds` times. -/
def pollRounds : (rounds : Nat) → Script α → List (Nat × Done α) × Script α
  | 0, s => ([], s)
  | rounds + 1, s =>
    let (results, s₁) := s.pollEach (List.range s.next)
    if results.isEmpty then ([], s₁)
    else
      let (more, s₂) := pollRounds rounds s₁
      (results ++ more, s₂)

/-- Carry out a command. -/
def perform (s : Script α) : Command α → Reply α × Script α
  | .recv =>
    if s.handoff.receiverAlive then
      (.id s.next, { handoff := s.handoff.request s.next, next := s.next + 1 })
    else (.gone, s)
  | .send outcome =>
    if s.handoff.senderAlive then
      (.id s.next, { handoff := s.handoff.submit s.next outcome, next := s.next + 1 })
    else (.gone, s)
  | .poll id => s.poll id
  | .settle =>
    let (results, s) := pollRounds (s.next + 1) s
    (.settled results, s)
  | .drop id =>
    (.ok, { s with handoff := (s.handoff.abandonProducer id).abandonConsumer id })
  | .shutdown => (.fired (!s.handoff.fired), { s with handoff := s.handoff.shut })
  | .dropSender => (.ok, { s with handoff := s.handoff.dropSender })
  | .dropReceiver => (.ok, { s with handoff := s.handoff.dropReceiver })

end Script

end Gatehouse.Handoff
