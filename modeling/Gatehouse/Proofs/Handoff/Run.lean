import Gatehouse.Handoff
import Gatehouse.Proofs.Roster
import Mathlib.Data.List.TakeWhile

/-!
# Runs of the handoff

What a poll can do is said once, as one constructor for each way that it can go (`ProducerPolled`,
`ConsumerPolled`).  A run is any sequence of steps that can happen at all (`admits`): a half that is
gone makes nothing new, and nobody comes under a number that stands for somebody else.
-/

namespace Gatehouse.Handoff

variable {α : Type}

/-! ## What a poll can do -/

/-- The line is all that changes when a producer joins it. -/
theorem joinLine_eq (h : Handoff α) (id : Nat) :
    h.joinLine id = { h with line := (h.joinLine id).line } := by
  unfold joinLine
  split
  · rfl
  · rfl

theorem isLive_iff {h : Handoff α} {slot : Nat} :
    h.isLive slot = true ↔ h.consumers.find? slot = some .waiting := by
  unfold isLive
  constructor
  · intro hlive
    split at hlive
    · assumption
    · cases hlive
  · intro hfind
    rw [hfind]

/-- The ways that a poll of a producer can go. -/
inductive ProducerPolled (h : Handoff α) (id : Nat) : Poll Bool → Handoff α → Prop
  /-- There is no such producer. -/
  | unknown (absent : h.producers.find? id = none) : ProducerPolled h id .pending h
  /-- The shutdown has been fired. -/
  | shut (outcome : α) (held : h.producers.find? id = some outcome) (fired : h.fired = true) :
    ProducerPolled h id (.ready false) (h.failProducer id outcome)
  /-- It stands in line behind another. -/
  | queued (outcome : α) (held : h.producers.find? id = some outcome) (going : h.fired = false)
      (behind : (h.joinLine id).line.head? ≠ some id) :
    ProducerPolled h id .pending (h.joinLine id)
  /-- It is first in line, but there is no consumer. -/
  | idle (outcome : α) (held : h.producers.find? id = some outcome) (going : h.fired = false)
      (first : (h.joinLine id).line.head? = some id) (dead : ∀ s ∈ h.slots, h.isLive s = false)
      (alive : h.receiverAlive = true) :
    ProducerPolled h id .pending { h.joinLine id with slots := [] }
  /-- It is first in line, and there will never be a consumer. -/
  | closed (outcome : α) (held : h.producers.find? id = some outcome) (going : h.fired = false)
      (first : (h.joinLine id).line.head? = some id) (dead : ∀ s ∈ h.slots, h.isLive s = false)
      (gone : h.receiverAlive = false) :
    ProducerPolled h id (.ready false) ({ h.joinLine id with slots := [] }.failProducer id outcome)
  /-- It is first in line and fills the first slot whose consumer is there. -/
  | delivers (outcome : α) (held : h.producers.find? id = some outcome) (going : h.fired = false)
      (first : (h.joinLine id).line.head? = some id) (passed : List Nat) (slot : Nat)
      (rest : List Nat) (slots_eq : h.slots = passed ++ slot :: rest)
      (dead : ∀ s ∈ passed, h.isLive s = false) (live : h.consumers.find? slot = some .waiting) :
    ProducerPolled h id (.ready true)
      (({ h.joinLine id with
          slots := rest
          consumers := h.consumers.update slot (.filled outcome) }.removeProducer id).note
        (.told id true))

theorem fill_spec {h : Handoff α} {id : Nat} {outcome : α}
    (held : h.producers.find? id = some outcome) (going : h.fired = false)
    (first : (h.joinLine id).line.head? = some id) :
    h.ProducerPolled id ((h.joinLine id).fill id outcome).1
      ((h.joinLine id).fill id outcome).2 := by
  have hlive : (h.joinLine id).isLive = h.isLive := by rw [joinLine_eq]; rfl
  have hslots : (h.joinLine id).slots = h.slots := by rw [joinLine_eq]
  have halive : (h.joinLine id).receiverAlive = h.receiverAlive := by rw [joinLine_eq]
  have hconsumers : (h.joinLine id).consumers = h.consumers := by rw [joinLine_eq]
  unfold fill
  rw [hlive, hslots]
  cases hdrop : h.slots.dropWhile (fun s => !h.isLive s) with
  | nil =>
    have dead : ∀ s ∈ h.slots, h.isLive s = false := by
      intro s hs
      have := List.dropWhile_eq_nil_iff.1 hdrop s hs
      simpa using this
    simp only
    cases hgone : h.receiverAlive with
    | true =>
      rw [if_pos (halive.trans hgone)]
      exact .idle outcome held going first dead hgone
    | false =>
      rw [if_neg (by rw [halive, hgone]; decide)]
      exact .closed outcome held going first dead hgone
  | cons slot rest =>
    have hcut := List.takeWhile_append_dropWhile (p := fun s => !h.isLive s) (l := h.slots)
    rw [hdrop] at hcut
    have dead : ∀ s ∈ h.slots.takeWhile (fun s => !h.isLive s), h.isLive s = false := by
      intro s hs
      have := List.mem_takeWhile_imp hs
      simpa using this
    have live : h.isLive slot = true := by
      have := List.head?_dropWhile_not (fun s => !h.isLive s) h.slots
      rw [hdrop] at this
      simpa using this
    simp only
    rw [hconsumers]
    exact .delivers outcome held going first _ slot rest hcut.symm dead (isLive_iff.1 live)

/-- Every poll of a producer goes one of the ways. -/
theorem pollProducer_spec (h : Handoff α) (id : Nat) :
    h.ProducerPolled id (h.pollProducer id).1 (h.pollProducer id).2 := by
  unfold pollProducer
  cases held : h.producers.find? id with
  | none => exact .unknown held
  | some outcome =>
    cases going : h.fired with
    | true => exact .shut outcome held going
    | false =>
      by_cases first : (h.joinLine id).line.head? = some id
      · simp only [Bool.false_eq_true, if_false, if_pos first]
        exact fill_spec held going first
      · simp only [Bool.false_eq_true, if_false, if_neg first]
        exact .queued outcome held going first

/-- The ways that a poll of a consumer can go. -/
inductive ConsumerPolled (h : Handoff α) (id : Nat) : Poll (Option α) → Handoff α → Prop
  /-- There is no such consumer. -/
  | unknown (absent : h.consumers.find? id = none) : ConsumerPolled h id .pending h
  /-- The shutdown has been fired. -/
  | shut (consumer : Consumer α) (held : h.consumers.find? id = some consumer)
      (fired : h.fired = true) : ConsumerPolled h id (.ready none) (h.closeConsumer id consumer)
  /-- It registers its slot. -/
  | registers (held : h.consumers.find? id = some .fresh) (going : h.fired = false)
      (alive : h.senderAlive = true) :
    ConsumerPolled h id .pending
      { h with consumers := h.consumers.update id .waiting, slots := h.slots ++ [id] }
  /-- Its slot is still empty. -/
  | waits (held : h.consumers.find? id = some .waiting) (going : h.fired = false)
      (alive : h.senderAlive = true) : ConsumerPolled h id .pending h
  /-- Its slot is empty, and there will never be a producer. -/
  | closed (consumer : Consumer α) (held : h.consumers.find? id = some consumer)
      (going : h.fired = false) (gone : h.senderAlive = false)
      (empty : ∀ outcome, consumer ≠ .filled outcome) :
    ConsumerPolled h id (.ready none) (h.closeConsumer id consumer)
  /-- It takes the outcome out of its slot. -/
  | returns (outcome : α) (held : h.consumers.find? id = some (.filled outcome))
      (going : h.fired = false) :
    ConsumerPolled h id (.ready (some outcome))
      ((h.removeConsumer id).note (.gave id (some outcome)))

/-- Every poll of a consumer goes one of the ways. -/
theorem pollConsumer_spec (h : Handoff α) (id : Nat) :
    h.ConsumerPolled id (h.pollConsumer id).1 (h.pollConsumer id).2 := by
  unfold pollConsumer
  cases held : h.consumers.find? id with
  | none => exact .unknown held
  | some consumer =>
    by_cases fired : h.fired = true
    · simp only [if_pos fired]
      exact .shut consumer held fired
    have going : h.fired = false := Bool.eq_false_iff.2 fired
    simp only [if_neg fired]
    by_cases alive : h.senderAlive = true
    · cases consumer with
      | fresh =>
        simp only [if_pos alive]
        exact .registers held going alive
      | waiting =>
        simp only [if_pos alive]
        exact .waits held going alive
      | filled outcome => exact .returns outcome held going
    · have gone : h.senderAlive = false := Bool.eq_false_iff.2 alive
      cases consumer with
      | fresh =>
        simp only [if_neg alive]
        exact .closed .fresh held going gone (by simp)
      | waiting =>
        simp only [if_neg alive]
        exact .closed .waiting held going gone (by simp)
      | filled outcome => exact .returns outcome held going

/-! ## Runs -/

/-- What the consumer with this number was given at its end, the latest first. -/
def answers (h : Handoff α) (id : Nat) : List (Option α) :=
  h.history.filterMap fun
    | .gave consumer outcome => if consumer = id then some outcome else none
    | _ => none

/-- Can this step happen?  A half that is gone makes nothing new.  A number of a producer that has
    ended may be used again, but a consumer's number stands for it ever after. -/
def admits (h : Handoff α) : Step α → Bool
  | .submit id _ => h.senderAlive && !(h.producers.ids.contains id)
  | .request id =>
    h.receiverAlive && !(h.consumers.ids.contains id) && !(h.slots.contains id)
      && (h.answers id).isEmpty
  | _ => true

/-- Take a step if it can happen. -/
def advance (h : Handoff α) (st : Step α) : Handoff α := if h.admits st then h.step st else h

/-- Take steps one after another. -/
def run (h : Handoff α) (steps : List (Step α)) : Handoff α := steps.foldl advance h

/-- The handoff after steps from its beginning. -/
def after (steps : List (Step α)) : Handoff α := run {} steps

theorem run_cons (h : Handoff α) (st : Step α) (steps : List (Step α)) :
    h.run (st :: steps) = (h.advance st).run steps := rfl

theorem run_append (h : Handoff α) (steps more : List (Step α)) :
    h.run (steps ++ more) = (h.run steps).run more := List.foldl_append

/-- What every step preserves holds along every run. -/
theorem run_induction {P : Handoff α → Prop} {h : Handoff α}
    (hstep : ∀ h st, P h → h.admits st = true → P (h.step st)) (hstart : P h)
    (steps : List (Step α)) : P (h.run steps) := by
  induction steps generalizing h with
  | nil => exact hstart
  | cons st steps ih =>
    rw [run_cons]
    apply ih
    unfold advance
    split
    · exact hstep h st hstart ‹_›
    · exact hstart

end Gatehouse.Handoff
