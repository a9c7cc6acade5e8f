import Gatehouse.Proofs.Handoff.Progress
import Gatehouse.Proofs.Handoff.Submissions

/-!
# One producer among the others

What a producer has to do with the handoff is the outcome that it has there, what it was told of
those before, and all that it has ever submitted (`dealings`).  Nothing that anybody else does
(`Elsewhere`) changes that, and nobody who stands behind a producer in line gets in front of it
(`Elsewhere.place`).  As long as a consumer waits, the poll of the first in line hands its outcome
over (`delivers_of_first`), and then those behind it stand one place further in front.
-/

namespace Gatehouse.Handoff

variable {α : Type} {h h' : Handoff α} {id k : Nat} {outcome : α}

/-! ## Dealings -/

/-- What a producer was told, the latest first. -/
def toldTo (h : Handoff α) (id : Nat) : List Bool :=
  h.history.filterMap fun
    | .told producer delivered => if producer = id then some delivered else none
    | _ => none

/-- What a producer has to do with a handoff. -/
structure Dealings (α : Type) where
  /-- The outcome that it has there. -/
  held : Option α
  /-- Whether its earlier outcomes were delivered, the latest first. -/
  told : List Bool
  /-- All that it has submitted, the latest first. -/
  submitted : List α

/-- What a producer has to do with this handoff. -/
def dealings (h : Handoff α) (id : Nat) : Dealings α where
  held := h.producers.find? id
  told := h.toldTo id
  submitted := h.submittedBy id

theorem dealings_congr (held : h'.producers.find? id = h.producers.find? id)
    (told : h'.toldTo id = h.toldTo id) (submitted : h'.submittedBy id = h.submittedBy id) :
    h'.dealings id = h.dealings id := by
  rw [dealings, held, told, submitted]
  rfl

theorem toldTo_told_of_ne (h : Handoff α) (other : k ≠ id) (delivered : Bool) :
    (h.note (.told k delivered)).toldTo id = h.toldTo id := by
  unfold toldTo note
  rw [List.filterMap_cons]
  simp only [if_neg other]

theorem toldTo_told (h : Handoff α) (id : Nat) (delivered : Bool) :
    (h.note (.told id delivered)).toldTo id = delivered :: h.toldTo id := by
  unfold toldTo note
  rw [List.filterMap_cons]
  simp only [if_pos]

/-- A producer that had nothing there comes with an outcome. -/
theorem dealings_submit (fresh : h.producers.find? id = none) (outcome : α) :
    (h.submit id outcome).dealings id =
      ⟨some outcome, h.toldTo id, outcome :: h.submittedBy id⟩ := by
  have held : (h.submit id outcome).producers.find? id = some outcome := by
    show (h.producers.enter id outcome).find? id = some outcome
    rw [Roster.find?_enter _ _ _ _ fresh, if_pos rfl]
  rw [dealings, held, submittedBy_submit, if_pos rfl]
  rfl

/-- At its own poll a producer waits on, or it is told what has become of its outcome. -/
theorem dealings_producerPolled {answer : Poll Bool} (polled : h.ProducerPolled id answer h') :
    answer = .pending ∧ h'.dealings id = h.dealings id ∨
      ∃ delivered, answer = .ready delivered ∧
        h'.dealings id = ⟨none, delivered :: h.toldTo id, h.submittedBy id⟩ := by
  have joined : h.joinLine id = { h with line := (h.joinLine id).line } := joinLine_eq h id
  have gone : ∀ producers : Roster α, (producers.erase id).find? id = none := fun producers => by
    rw [Roster.find?_erase, if_pos rfl]
  -- who is told something has nothing there any more
  have ends : ∀ {h₁ : Handoff α} {delivered : Bool}, h₁.producers.find? id = none →
      h₁.toldTo id = h.toldTo id → h₁.submittedBy id = h.submittedBy id →
      (h₁.note (.told id delivered)).dealings id =
        ⟨none, delivered :: h.toldTo id, h.submittedBy id⟩ := by
    intro h₁ delivered held told submitted
    rw [← told, ← submitted, ← toldTo_told, ← held]
    rfl
  cases polled with
  | unknown absent => exact .inl ⟨rfl, rfl⟩
  | shut outcome held fired => exact .inr ⟨false, rfl, ends (gone _) rfl rfl⟩
  | queued outcome held going behind =>
    rw [joined]
    exact .inl ⟨rfl, rfl⟩
  | idle outcome held going first dead alive =>
    rw [joined]
    exact .inl ⟨rfl, rfl⟩
  | closed outcome held going first dead alive =>
    rw [joined]
    exact .inr ⟨false, rfl, ends (gone _) rfl rfl⟩
  | delivers outcome held going first passed slot rest slots_eq dead live =>
    rw [joined]
    exact .inr ⟨true, rfl, ends (gone _) rfl rfl⟩

theorem dealings_producerPolled_of_ne {answer : Poll Bool} (other : k ≠ id)
    (polled : h.ProducerPolled k answer h') : h'.dealings id = h.dealings id := by
  have joined : h.joinLine k = { h with line := (h.joinLine k).line } := joinLine_eq h k
  have erased : (h.producers.erase k).find? id = h.producers.find? id := by
    rw [Roster.find?_erase, if_neg (Ne.symm other)]
  have submitted := submittedBy_producerPolled polled id
  cases polled with
  | unknown absent => rfl
  | shut outcome held fired =>
    exact dealings_congr erased (toldTo_told_of_ne _ other false) submitted
  | queued outcome held going behind =>
    rw [joined]
    rfl
  | idle outcome held going first dead alive =>
    rw [joined]
    rfl
  | closed outcome held going first dead alive =>
    rw [joined] at submitted ⊢
    exact dealings_congr erased (toldTo_told_of_ne _ other false) submitted
  | delivers outcome held going first passed slot rest slots_eq dead live =>
    rw [joined] at submitted ⊢
    exact dealings_congr erased (toldTo_told_of_ne _ other true) submitted

theorem toldTo_abandonConsumer (h : Handoff α) (consumer : Nat) :
    (h.abandonConsumer consumer).toldTo id = h.toldTo id := by
  unfold abandonConsumer
  cases h.consumers.find? consumer with
  | none => rfl
  | some state => cases state <;> rfl

theorem dealings_abandonConsumer (h : Handoff α) (consumer : Nat) :
    (h.abandonConsumer consumer).dealings id = h.dealings id := by
  refine dealings_congr ?_ (toldTo_abandonConsumer h consumer)
    (submittedBy_abandonConsumer h consumer id)
  rw [producers_abandonConsumer]

theorem dealings_consumerPolled {answer : Poll (Option α)} (polled : h.ConsumerPolled k answer h') :
    h'.dealings id = h.dealings id := by
  have closed : ∀ {consumer}, h.consumers.find? k = some consumer →
      (h.closeConsumer k consumer).dealings id = h.dealings id := by
    intro consumer held
    rw [closeConsumer_eq held]
    exact dealings_abandonConsumer h k
  cases polled with
  | shut consumer held fired => exact closed held
  | closed consumer held going gone empty => exact closed held
  | unknown | registers | waits | returns => rfl

/-! ## What the others do -/

/-- What everybody but this producer can do in a handoff of which both halves are there. -/
inductive Elsewhere (id : Nat) (h : Handoff α) : Handoff α → Prop
  | still : Elsewhere id h h
  | requests (consumer : Nat) : Elsewhere id h (h.request consumer)
  | abandons (consumer : Nat) : Elsewhere id h (h.abandonConsumer consumer)
  | consumes (consumer : Nat) : Elsewhere id h (h.pollConsumer consumer).2
  | submits (k : Nat) (other : k ≠ id) (outcome : α) : Elsewhere id h (h.submit k outcome)
  | produces (k : Nat) (other : k ≠ id) : Elsewhere id h (h.pollProducer k).2
  | shuts : Elsewhere id h h.shut

theorem Elsewhere.dealings (elsewhere : h.Elsewhere id h') : h'.dealings id = h.dealings id := by
  cases elsewhere with
  | abandons consumer => exact dealings_abandonConsumer h consumer
  | consumes consumer => exact dealings_consumerPolled (h.pollConsumer_spec consumer)
  | submits k other outcome =>
    refine dealings_congr ?_ rfl ?_
    · exact Roster.find?_enter_of_ne h.producers (Ne.symm other) outcome
    · rw [submittedBy_submit, if_neg other]
  | produces k other => exact dealings_producerPolled_of_ne other (h.pollProducer_spec k)
  | still | requests | shuts => rfl

/-! ## Places in line -/

/-- Nobody is further back when another one goes. -/
theorem idxOf_filter_le (other : k ≠ id) (line : List Nat) :
    (line.filter (· != k)).idxOf id ≤ line.idxOf id := by
  induction line with
  | nil => exact Nat.le_refl _
  | cons first line ih =>
    by_cases gone : first = k
    · subst gone
      rw [List.filter_cons, if_neg (by simp), List.idxOf_cons_ne line other]
      omega
    · rw [List.filter_cons, if_pos (bne_iff_ne.2 gone)]
      by_cases own : first = id
      · rw [own, List.idxOf_cons_self, List.idxOf_cons_self]
      · rw [List.idxOf_cons_ne _ own, List.idxOf_cons_ne _ own]
        omega

/-- Behind the first in line, everybody moves up when that one goes. -/
theorem idxOf_filter_lt (first : h.line.head? = some k) (other : k ≠ id) :
    (h.line.filter (· != k)).idxOf id < h.line.idxOf id := by
  obtain ⟨rest, hline⟩ := List.head?_eq_some_iff.1 first
  have moved := idxOf_filter_le other rest
  rw [hline, List.filter_cons, if_neg (by simp), List.idxOf_cons_ne rest other]
  omega

/-- What a poll of a producer leaves of the line. -/
theorem line_producerPolled {answer : Poll Bool} (polled : h.ProducerPolled k answer h') :
    h'.line = h.line ∨ h'.line = (h.joinLine k).line ∨
      h'.line = h.line.filter (· != k) ∨ h'.line = (h.joinLine k).line.filter (· != k) := by
  cases polled with
  | unknown => exact .inl rfl
  | shut => exact .inr (.inr (.inl rfl))
  | queued | idle => exact .inr (.inl rfl)
  | closed | delivers => exact .inr (.inr (.inr rfl))

theorem joinLine_of_mem (inLine : id ∈ h.line) : h.joinLine id = h := by
  rw [joinLine, if_pos inLine]

/-- Whoever joins the line stands behind those who are there. -/
theorem idxOf_joinLine (inLine : id ∈ h.line) :
    id ∈ (h.joinLine k).line ∧ (h.joinLine k).line.idxOf id = h.line.idxOf id := by
  unfold joinLine
  split
  · exact ⟨inLine, rfl⟩
  · exact ⟨List.mem_append_left _ inLine, List.idxOf_append_of_mem inLine⟩

theorem line_consumerPolled {answer : Poll (Option α)} (polled : h.ConsumerPolled k answer h') :
    h'.line = h.line := by
  have closed : ∀ {consumer}, h.consumers.find? k = some consumer →
      (h.closeConsumer k consumer).line = h.line := by
    intro consumer held
    rw [closeConsumer_eq held]
    exact (places_abandonConsumer h k).1
  cases polled with
  | shut consumer held fired => exact closed held
  | closed consumer held going gone empty => exact closed held
  | unknown | registers | waits | returns => rfl

/-- Nobody gets past a producer that stands in line. -/
theorem Elsewhere.place (elsewhere : h.Elsewhere id h') (inLine : id ∈ h.line) :
    id ∈ h'.line ∧ h'.line.idxOf id ≤ h.line.idxOf id := by
  have same : ∀ {h₁ : Handoff α}, h₁.line = h.line →
      id ∈ h₁.line ∧ h₁.line.idxOf id ≤ h.line.idxOf id := by
    intro h₁ line
    rw [line]
    exact ⟨inLine, Nat.le_refl _⟩
  cases elsewhere with
  | abandons consumer => exact same (places_abandonConsumer h consumer).1
  | consumes consumer => exact same (line_consumerPolled (h.pollConsumer_spec consumer))
  | produces k other =>
    have stays : (id != k) = true := bne_iff_ne.2 (Ne.symm other)
    obtain ⟨joined, behind⟩ := idxOf_joinLine (k := k) inLine
    rcases line_producerPolled (h.pollProducer_spec k) with line | line | line | line
    · exact same line
    · rw [line, behind]
      exact ⟨joined, Nat.le_refl _⟩
    · rw [line]
      exact ⟨List.mem_filter.2 ⟨inLine, stays⟩, idxOf_filter_le other h.line⟩
    · rw [line]
      have moved := idxOf_filter_le other (h.joinLine k).line
      exact ⟨List.mem_filter.2 ⟨joined, stays⟩, behind ▸ moved⟩
  | still | requests | submits | shuts => exact same rfl

/-- Whoever joins the line has nobody in front but those who are there. -/
theorem place_joinLine (h : Handoff α) (id : Nat) :
    id ∈ (h.joinLine id).line ∧ (h.joinLine id).line.idxOf id ≤ h.line.length := by
  unfold joinLine
  split
  · rename_i inLine
    exact ⟨inLine, List.idxOf_le_length⟩
  · rename_i absent
    refine ⟨List.mem_append_right _ List.mem_cons_self, ?_⟩
    rw [List.idxOf_append_of_notMem absent, List.idxOf_cons_self]
    exact Nat.le_refl _

/-- A producer that has to wait has joined the line. -/
theorem line_of_pending (held : h.producers.find? id = some outcome)
    (polled : h.ProducerPolled id .pending h') : h'.line = (h.joinLine id).line := by
  cases polled with
  | unknown absent => cases absent.symm.trans held
  | queued | idle => rfl

/-! ## The first in line -/

/-- Does a consumer wait? -/
def isAwaited (h : Handoff α) : Bool := h.consumers.ids.any h.isLive

theorem isAwaited_iff : h.isAwaited = true ↔ ∃ c, h.consumers.find? c = some .waiting := by
  rw [isAwaited, List.any_eq_true]
  constructor
  · rintro ⟨c, _, live⟩
    exact ⟨c, isLive_iff.1 live⟩
  · rintro ⟨c, waiting⟩
    exact ⟨c, Roster.mem_ids_of_find? waiting, isLive_iff.2 waiting⟩

section First

variable (kept : Kept h) (isOpen : Open h) (first : h.line.head? = some k)
  (awaited : h.isAwaited = true)

include kept first

/-- Whoever is first in line has an outcome. -/
theorem find?_of_first : ∃ outcome, h.producers.find? k = some outcome :=
  Option.isSome_iff_exists.1
    (Roster.find?_isSome_iff.2 (kept.line_unfinished k (List.mem_of_mem_head? first)))

include isOpen awaited

theorem producerRunnable_of_first : h.producerRunnable k = true := by
  obtain ⟨outcome, held⟩ := find?_of_first kept first
  obtain ⟨c, waiting⟩ := isAwaited_iff.1 awaited
  have registered : c ∈ h.slots := kept.waiting_registered isOpen.sender c waiting
  have some : h.slots.isEmpty = false := by
    cases hslots : h.slots with
    | nil =>
      rw [hslots] at registered
      cases registered
    | cons _ _ => rfl
  simp [producerRunnable, held, first, some]

/-- With a consumer that waits, the poll of the first in line hands its outcome over. -/
theorem delivers_of_first :
    (h.pollProducer k).1 = .ready true ∧ (h.pollProducer k).2.line = h.line.filter (· != k) := by
  obtain ⟨outcome, held⟩ := find?_of_first kept first
  obtain ⟨c, waiting⟩ := isAwaited_iff.1 awaited
  have registered : c ∈ h.slots := kept.waiting_registered isOpen.sender c waiting
  have live : h.isLive c = true := isLive_iff.2 waiting
  have joined : h.joinLine k = h := joinLine_of_mem (List.mem_of_mem_head? first)
  have polled := h.pollProducer_spec k
  generalize h.pollProducer k = after at polled
  obtain ⟨answer, h'⟩ := after
  cases polled with
  | unknown absent => cases absent.symm.trans held
  | shut outcome held fired => cases isOpen.going.symm.trans fired
  | queued outcome held going behind =>
    rw [joined] at behind
    exact absurd first behind
  | idle outcome held going first dead alive =>
    cases (dead c registered).symm.trans live
  | closed outcome held going first dead gone =>
    cases (dead c registered).symm.trans live
  | delivers outcome held going first passed slot rest slots_eq dead live =>
    refine ⟨rfl, ?_⟩
    show (h.joinLine k).line.filter (· != k) = _
    rw [joined]

end First

/-! ## Nobody is forgotten -/

theorem Kept.submit (kept : Kept h) (id : Nat) (outcome : α) : Kept (h.submit id outcome) :=
  ⟨fun p hp => Roster.mem_ids_enter.2 (Or.inl (kept.line_unfinished p hp)),
    kept.waiting_registered⟩

/-- A number may even be used again. -/
theorem Kept.request (kept : Kept h) (consumer : Nat) : Kept (h.request consumer) := by
  refine kept.congr rfl rfl rfl (fun alive => alive) fun c waiting => ?_
  rcases Roster.find?_enter_cases waiting with old | ⟨_, new⟩
  · exact old
  · cases new

theorem Kept.elsewhere (kept : Kept h) (elsewhere : h.Elsewhere id h') : Kept h' := by
  cases elsewhere with
  | still => exact kept
  | requests consumer => exact kept.request consumer
  | abandons consumer => exact kept.abandonConsumer consumer
  | consumes consumer => exact kept.consumerPolled (h.pollConsumer_spec consumer)
  | submits k other outcome => exact kept.submit k outcome
  | produces k other => exact kept.producerPolled (h.pollProducer_spec k)
  | shuts => exact kept.congr rfl rfl rfl (fun alive => alive) fun _ waiting => waiting

end Gatehouse.Handoff
