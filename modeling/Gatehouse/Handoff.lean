import Gatehouse.Poll
import Gatehouse.Roster

/-!
# The handoff

Outcomes go from producers to consumers one at a time and are never stored in between.  A consumer
registers a slot; producers stand in line, and the first of them fills the slots in the order of
their registration, passing over those whose consumer has gone.  A shutdown ends every wait on
either side, and what was not handed over by then is spilled.

Nothing happens to a producer or consumer until it is polled, and every poll is one step here: a
run of the channel is any sequence of steps.
-/

namespace Gatehouse

/-- How far an unfinished consumer has come. -/
inductive Consumer (α : Type)
  /-- Not polled yet. -/
  | fresh
  /-- Its slot is registered. -/
  | waiting
  /-- Its slot has been filled. -/
  | filled (outcome : α)
deriving DecidableEq, Repr

/-- What has happened in a handoff. -/
inductive Handoff.Event (α : Type)
  /-- A producer came with an outcome. -/
  | submitted (producer : Nat) (outcome : α)
  /-- A producer is done and was told whether its outcome was delivered. -/
  | told (producer : Nat) (delivered : Bool)
  /-- A consumer is done: with an outcome, or because the channel is closed. -/
  | gave (consumer : Nat) (outcome : Option α)
  /-- An outcome was dropped. -/
  | spilled (outcome : α)
deriving DecidableEq, Repr

/-- The state of a handoff. -/
structure Handoff (α : Type) where
  /-- Has the shutdown been fired? -/
  fired : Bool := false
  /-- Is the half that producers use still there? -/
  senderAlive : Bool := true
  /-- Is the half that consumers use still there? -/
  receiverAlive : Bool := true
  /-- The unfinished producers, each with its outcome. -/
  producers : Roster α := []
  /-- The unfinished consumers. -/
  consumers : Roster (Consumer α) := []
  /-- The producers in line; the first one's turn it is. -/
  line : List Nat := []
  /-- The consumers whose slots are registered and not taken, also those that have gone since. -/
  slots : List Nat := []
  /-- All that has happened, the latest first. -/
  history : List (Handoff.Event α) := []
deriving DecidableEq, Repr

namespace Handoff

variable {α : Type}

/-- Add to the history. -/
def note (h : Handoff α) (e : Event α) : Handoff α := { h with history := e :: h.history }

/-- A producer comes with an outcome. -/
def submit (h : Handoff α) (id : Nat) (outcome : α) : Handoff α :=
  { h with producers := h.producers.enter id outcome }.note (.submitted id outcome)

/-- A consumer comes. -/
def request (h : Handoff α) (id : Nat) : Handoff α :=
  { h with consumers := h.consumers.enter id .fresh }

/-- Strike out a producer, also from the line. -/
def removeProducer (h : Handoff α) (id : Nat) : Handoff α :=
  { h with producers := h.producers.erase id, line := h.line.filter (· != id) }

/-- Strike out a consumer; its slot stays behind. -/
def removeConsumer (h : Handoff α) (id : Nat) : Handoff α :=
  { h with consumers := h.consumers.erase id }

/-- A producer ends and spills its outcome. -/
def failProducer (h : Handoff α) (id : Nat) (outcome : α) : Handoff α :=
  ((h.removeProducer id).note (.spilled outcome)).note (.told id false)

/-- Is the slot with this number one that can be filled? -/
def isLive (h : Handoff α) (slot : Nat) : Bool :=
  match h.consumers.find? slot with
  | some .waiting => true
  | _ => false

/-- Stand in line, once. -/
def joinLine (h : Handoff α) (id : Nat) : Handoff α :=
  if id ∈ h.line then h else { h with line := h.line ++ [id] }

/-- Fill the first slot whose consumer is there.  The slots in front of it are used up; with no
    such slot the producer waits, unless no consumer can ever come. -/
def fill (h : Handoff α) (id : Nat) (outcome : α) : Poll Bool × Handoff α :=
  match h.slots.dropWhile (fun slot => !h.isLive slot) with
  | slot :: slots =>
    -- the line moves on: the next producer finds the slots behind this one
    (.ready true,
      (({ h with slots, consumers := h.consumers.update slot (.filled outcome) }.removeProducer id).note
        (.told id true)))
  | [] =>
    -- still first in line, so that no later producer can overtake
    if h.receiverAlive then (.pending, { h with slots := [] })
    else (.ready false, { h with slots := [] }.failProducer id outcome)

/-- Poll a producer: it ends when the shutdown has been fired, else it stands in line, and fills a
    slot when its turn has come. -/
def pollProducer (h : Handoff α) (id : Nat) : Poll Bool × Handoff α :=
  match h.producers.find? id with
  | none => (.pending, h)
  | some outcome =>
    if h.fired then (.ready false, h.failProducer id outcome)
    else
      let h := h.joinLine id
      if h.line.head? = some id then h.fill id outcome else (.pending, h)

/-- A consumer ends with nothing; an outcome in its slot is spilled. -/
def closeConsumer (h : Handoff α) (id : Nat) (consumer : Consumer α) : Handoff α :=
  let h := h.removeConsumer id
  let h := match consumer with
    | .filled outcome => h.note (.spilled outcome)
    | _ => h
  h.note (.gave id none)

/-- Poll a consumer: it ends when the shutdown has been fired or no producer can ever come, else
    it registers its slot, and ends with the outcome once that is filled. -/
def pollConsumer (h : Handoff α) (id : Nat) : Poll (Option α) × Handoff α :=
  match h.consumers.find? id with
  | none => (.pending, h)
  | some consumer =>
    -- the shutdown is looked at before the slot: even one that is filled is spilled
    if h.fired then (.ready none, h.closeConsumer id consumer)
    else
      match consumer with
      | .fresh =>
        if h.senderAlive then
          (.pending, { h with consumers := h.consumers.update id .waiting, slots := h.slots ++ [id] })
        else (.ready none, h.closeConsumer id consumer)
      | .waiting =>
        if h.senderAlive then (.pending, h) else (.ready none, h.closeConsumer id consumer)
      | .filled outcome => (.ready (some outcome), (h.removeConsumer id).note (.gave id (some outcome)))

/-- A producer is given up before it is done. -/
def abandonProducer (h : Handoff α) (id : Nat) : Handoff α :=
  match h.producers.find? id with
  | none => h
  | some outcome => (h.removeProducer id).note (.spilled outcome)

/-- A consumer is given up before it is done. -/
def abandonConsumer (h : Handoff α) (id : Nat) : Handoff α :=
  match h.consumers.find? id with
  | none => h
  | some (.filled outcome) => (h.removeConsumer id).note (.spilled outcome)
  | some _ => h.removeConsumer id

/-- Fire the shutdown. -/
def shut (h : Handoff α) : Handoff α := { h with fired := true }

/-- Drop the producers' half with every unfinished producer, and the slots with it. -/
def dropSender (h : Handoff α) : Handoff α :=
  { h.producers.ids.foldl abandonProducer h with senderAlive := false, slots := [] }

/-- Drop the consumers' half with every unfinished consumer. -/
def dropReceiver (h : Handoff α) : Handoff α :=
  { h.consumers.ids.foldl abandonConsumer h with receiverAlive := false }

/-- Is there anything for this producer to do? -/
def producerRunnable (h : Handoff α) (id : Nat) : Bool :=
  (h.producers.find? id).isSome &&
    (h.fired || !h.line.contains id ||
      (h.line.head? == some id && (!h.slots.isEmpty || !h.receiverAlive)))

/-- Is there anything for this consumer to do? -/
def consumerRunnable (h : Handoff α) (id : Nat) : Bool :=
  match h.consumers.find? id with
  | none => false
  | some .waiting => h.fired || !h.senderAlive
  | some _ => true

/-- A step of a handoff. -/
inductive Step (α : Type)
  | submit (producer : Nat) (outcome : α)
  | request (consumer : Nat)
  | pollProducer (producer : Nat)
  | pollConsumer (consumer : Nat)
  | abandonProducer (producer : Nat)
  | abandonConsumer (consumer : Nat)
  | shut
  | dropSender
  | dropReceiver
deriving DecidableEq, Repr

/-- Take a step. -/
def step (h : Handoff α) : Step α → Handoff α
  | .submit id outcome => h.submit id outcome
  | .request id => h.request id
  | .pollProducer id => (h.pollProducer id).2
  | .pollConsumer id => (h.pollConsumer id).2
  | .abandonProducer id => h.abandonProducer id
  | .abandonConsumer id => h.abandonConsumer id
  | .shut => h.shut
  | .dropSender => h.dropSender
  | .dropReceiver => h.dropReceiver

end Handoff

end Gatehouse
