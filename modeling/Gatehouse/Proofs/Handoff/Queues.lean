import Gatehouse.Proofs.Handoff.Books
import Mathlib.Data.List.Induction

/-!
# The line and the slots

Producers queue when they are first polled, and consumers register when they are first polled
(`queued`, `registered`: who came, in the order of coming, and whoever has gone since).  The line
holds just those queued producers that are unfinished (`LineInOrder`), and the slots that are live
are just the live ones of those registered (`SlotsInOrder`), each in order: that is what every step
preserves, whoever is given up on the way (`lineInOrder_after`, `slotsInOrder_after`).
-/

namespace Gatehouse.Handoff

variable {α : Type}

/-! ## Who comes, queues and registers -/

/-- The number of a new producer. -/
def Step.newProducer : Step α → Option Nat
  | .submit id _ => some id
  | _ => none

/-- The number of a new consumer. -/
def Step.newConsumer : Step α → Option Nat
  | .request id => some id
  | _ => none

/-- No number stands for two producers or for two consumers. -/
structure Distinct (steps : List (Step α)) : Prop where
  producers : (steps.filterMap Step.newProducer).Nodup
  consumers : (steps.filterMap Step.newConsumer).Nodup

/-- Is there an unfinished producer under this number? -/
def unfinished (h : Handoff α) (id : Nat) : Bool := (h.producers.find? id).isSome

/-- The producer that a step polls, if it goes on. -/
def queuer (h : Handoff α) : Step α → Option Nat
  | .pollProducer id => if !h.fired && h.unfinished id then some id else none
  | _ => none

/-- The consumer that a step polls, if it goes on. -/
def registrant (h : Handoff α) : Step α → Option Nat
  | .pollConsumer id =>
    if !h.fired && h.senderAlive && (h.consumers.find? id).isSome then some id else none
  | _ => none

/-- Somebody joins those seen before, unless seen before. -/
def joined (seen : List Nat) : Option Nat → List Nat
  | none => seen
  | some id => if id ∈ seen then seen else seen ++ [id]

/-- Those whom `who` names along a run, each where it is named first. -/
def firsts (who : Handoff α → Step α → Option Nat) :
    Handoff α → List Nat → List (Step α) → List Nat
  | _, seen, [] => seen
  | h, seen, st :: steps => firsts who (h.advance st) (joined seen (who h st)) steps

/-- The producers in the order in which they were first polled. -/
def queued (steps : List (Step α)) : List Nat := firsts queuer {} [] steps

/-- The consumers in the order in which they registered their slots. -/
def registered (steps : List (Step α)) : List Nat := firsts registrant {} [] steps

section Firsts

variable {who : Handoff α → Step α → Option Nat} {seen : List Nat}

theorem prefix_joined (seen : List Nat) (id : Option Nat) : seen <+: joined seen id := by
  cases id with
  | none => exact List.prefix_rfl
  | some id =>
    by_cases hid : id ∈ seen
    · have hsame : joined seen (some id) = seen := if_pos hid
      exact hsame.symm ▸ List.prefix_rfl
    · rw [joined, if_neg hid]
      exact List.prefix_append seen [id]

theorem nodup_joined (nodup : seen.Nodup) (id : Option Nat) : (joined seen id).Nodup := by
  cases id with
  | none => exact nodup
  | some id =>
    by_cases hid : id ∈ seen
    · rw [joined, if_pos hid]
      exact nodup
    · rw [joined, if_neg hid, List.nodup_append]
      refine ⟨nodup, by simp, fun a ha b hb => ?_⟩
      rw [List.mem_singleton.1 hb]
      exact fun heq => hid (heq ▸ ha)

theorem firsts_append (h : Handoff α) (seen : List Nat) (steps more : List (Step α)) :
    firsts who h seen (steps ++ more) = firsts who (h.run steps) (firsts who h seen steps) more := by
  induction steps generalizing h seen with
  | nil => rfl
  | cons st steps ih => exact ih (h.advance st) (joined seen (who h st))

theorem prefix_firsts (h : Handoff α) (seen : List Nat) (steps : List (Step α)) :
    seen <+: firsts who h seen steps := by
  induction steps generalizing h seen with
  | nil => exact List.prefix_rfl
  | cons st steps ih => exact (prefix_joined seen (who h st)).trans (ih _ _)

theorem nodup_firsts (h : Handoff α) (nodup : seen.Nodup) (steps : List (Step α)) :
    (firsts who h seen steps).Nodup := by
  induction steps generalizing h seen with
  | nil => exact nodup
  | cons st steps ih => exact ih _ (nodup_joined nodup _)

theorem queued_concat (steps : List (Step α)) (st : Step α) :
    queued (steps ++ [st]) = joined (queued steps) (queuer (after steps) st) :=
  firsts_append {} [] steps [st]

theorem registered_concat (steps : List (Step α)) (st : Step α) :
    registered (steps ++ [st]) = joined (registered steps) (registrant (after steps) st) :=
  firsts_append {} [] steps [st]

theorem after_concat (steps : List (Step α)) (st : Step α) :
    after (steps ++ [st]) = (after steps).advance st :=
  run_append {} steps [st]

end Firsts

/-! ## The line -/

/-- The line is made of the queued producers that are unfinished, in order; and all of them are
    among those that came. -/
structure LineInOrder (h : Handoff α) (queue came : List Nat) : Prop where
  line_eq : h.line = queue.filter h.unfinished
  queue_came : ∀ p ∈ queue, p ∈ came
  unfinished_came : ∀ p, h.unfinished p = true → p ∈ came

namespace LineInOrder

variable {h h' : Handoff α} {queue came : List Nat} {id : Nat}

theorem start : LineInOrder ({} : Handoff α) [] [] :=
  ⟨rfl, fun _ hp => hp, fun _ hp => by cases hp⟩

/-- Nothing happens to producers. -/
theorem congr (inOrder : LineInOrder h queue came) (hline : h'.line = h.line)
    (hproducers : h'.producers = h.producers) : LineInOrder h' queue came := by
  have hsame : h'.unfinished = h.unfinished := by
    funext p
    rw [unfinished, hproducers, unfinished]
  refine ⟨?_, inOrder.queue_came, fun p hp => inOrder.unfinished_came p (hsame ▸ hp)⟩
  rw [hline, hsame, inOrder.line_eq]

theorem unfinished_removeProducer (h : Handoff α) (id p : Nat) :
    (h.removeProducer id).unfinished p = (p != id && h.unfinished p) := by
  show ((h.producers.erase id).find? p).isSome = _
  rw [Roster.find?_erase]
  by_cases hp : p = id
  · simp [hp]
  · rw [if_neg hp, bne_iff_ne.2 hp, Bool.true_and]
    rfl

/-- A producer goes. -/
theorem removeProducer (inOrder : LineInOrder h queue came) (id : Nat) :
    LineInOrder (h.removeProducer id) queue came := by
  refine ⟨?_, inOrder.queue_came, fun p hp => ?_⟩
  · show h.line.filter (· != id) = _
    rw [inOrder.line_eq, List.filter_filter]
    apply List.filter_congr
    intro p _
    rw [unfinished_removeProducer]
  · rw [unfinished_removeProducer, Bool.and_eq_true] at hp
    exact inOrder.unfinished_came p hp.2

theorem abandonProducer (inOrder : LineInOrder h queue came) (id : Nat) :
    LineInOrder (h.abandonProducer id) queue came := by
  unfold Handoff.abandonProducer
  cases h.producers.find? id with
  | none => exact inOrder
  | some outcome => exact (inOrder.removeProducer id).congr rfl rfl

/-- A producer that is unfinished queues. -/
theorem joinLine (inOrder : LineInOrder h queue came) (held : h.unfinished id = true) :
    LineInOrder (h.joinLine id) (joined queue (some id)) came := by
  have hmem : id ∈ h.line ↔ id ∈ queue := by
    rw [inOrder.line_eq, List.mem_filter, held]
    exact and_iff_left rfl
  by_cases hid : id ∈ queue
  · rw [Handoff.joinLine, if_pos (hmem.2 hid), joined, if_pos hid]
    exact inOrder
  · rw [Handoff.joinLine, if_neg (mt hmem.1 hid), joined, if_neg hid]
    refine ⟨?_, fun p hp => ?_, inOrder.unfinished_came⟩
    · show h.line ++ [id] = (queue ++ [id]).filter h.unfinished
      rw [List.filter_append, ← inOrder.line_eq, List.filter_singleton, held]
      rfl
    · rcases List.mem_append.1 hp with hold | hnew
      · exact inOrder.queue_came p hold
      · rw [List.mem_singleton.1 hnew]
        exact inOrder.unfinished_came id held

theorem abandonConsumer (inOrder : LineInOrder h queue came) (id : Nat) :
    LineInOrder (h.abandonConsumer id) queue came := by
  unfold Handoff.abandonConsumer
  cases h.consumers.find? id with
  | none => exact inOrder
  | some consumer => cases consumer <;> exact inOrder.congr rfl rfl

theorem consumerPolled (inOrder : LineInOrder h queue came) {answer : Poll (Option α)}
    (polled : h.ConsumerPolled id answer h') : LineInOrder h' queue came := by
  have hcloses : ∀ consumer, h.consumers.find? id = some consumer →
      LineInOrder (h.closeConsumer id consumer) queue came := by
    intro consumer held
    rw [closeConsumer_eq held]
    exact (inOrder.abandonConsumer id).congr rfl rfl
  cases polled with
  | unknown absent => exact inOrder
  | shut consumer held fired => exact hcloses consumer held
  | registers held going alive => exact inOrder.congr rfl rfl
  | waits held going alive => exact inOrder
  | closed consumer held going gone empty => exact hcloses consumer held
  | returns outcome held going => exact inOrder.congr rfl rfl

/-- A producer comes that has not been there before. -/
theorem submit (inOrder : LineInOrder h queue came) (hnew : id ∉ came) (outcome : α) :
    LineInOrder (h.submit id outcome) queue (came ++ [id]) := by
  have hfresh : h.producers.find? id = none := by
    have hgone : h.unfinished id ≠ true := fun hid => hnew (inOrder.unfinished_came id hid)
    exact Option.not_isSome_iff_eq_none.1 hgone
  have hunfinished : ∀ p, p ≠ id → (h.submit id outcome).unfinished p = h.unfinished p := by
    intro p hp
    show ((h.producers.enter id outcome).find? p).isSome = _
    rw [Roster.find?_enter _ _ _ _ hfresh, if_neg hp]
    rfl
  refine ⟨?_, fun p hp => List.mem_append_left _ (inOrder.queue_came p hp), fun p hp => ?_⟩
  · show h.line = _
    rw [inOrder.line_eq]
    apply List.filter_congr
    intro p hp
    have hne : p ≠ id := fun heq => hnew (heq ▸ inOrder.queue_came p hp)
    rw [hunfinished p hne]
  · by_cases hpid : p = id
    · exact List.mem_append_right _ (List.mem_singleton.2 hpid)
    · exact List.mem_append_left _ (inOrder.unfinished_came p (hunfinished p hpid ▸ hp))

theorem producerPolled (inOrder : LineInOrder h queue came) {answer : Poll Bool}
    (polled : h.ProducerPolled id answer h') :
    LineInOrder h' (joined queue (h.queuer (.pollProducer id))) came := by
  have hjoins : ∀ outcome, h.producers.find? id = some outcome → h.fired = false →
      LineInOrder (h.joinLine id) (joined queue (h.queuer (.pollProducer id))) came := by
    intro outcome held going
    have hunfinished : h.unfinished id = true := by rw [unfinished, held]; rfl
    have hqueuer : h.queuer (.pollProducer id) = some id := by
      simp only [queuer, going, hunfinished, Bool.not_false, Bool.and_self, if_true]
    rw [hqueuer]
    exact inOrder.joinLine hunfinished
  cases polled with
  | unknown absent =>
    have hnobody : h.queuer (.pollProducer id) = none := by
      simp [queuer, unfinished, absent]
    rw [hnobody]
    exact inOrder
  | shut outcome held fired =>
    have hnobody : h.queuer (.pollProducer id) = none := by simp [queuer, fired]
    rw [hnobody]
    exact (inOrder.removeProducer id).congr rfl rfl
  | queued outcome held going behind => exact hjoins outcome held going
  | idle outcome held going first dead alive => exact (hjoins outcome held going).congr rfl rfl
  | closed outcome held going first dead gone =>
    exact ((hjoins outcome held going).removeProducer id).congr rfl rfl
  | delivers outcome held going first passed slot rest slots_eq dead live =>
    exact ((hjoins outcome held going).removeProducer id).congr rfl rfl

/-- A step that makes no producer leaves the order of the line as it is. -/
theorem step (inOrder : LineInOrder h queue came) {st : Step α} (hold : st.newProducer = none) :
    LineInOrder (h.step st) (joined queue (h.queuer st)) came := by
  cases st with
  | submit id outcome => cases hold
  | request id => exact inOrder.congr rfl rfl
  | pollProducer id => exact inOrder.producerPolled (h.pollProducer_spec id)
  | pollConsumer id => exact inOrder.consumerPolled (h.pollConsumer_spec id)
  | abandonProducer id => exact inOrder.abandonProducer id
  | abandonConsumer id => exact inOrder.abandonConsumer id
  | shut => exact inOrder.congr rfl rfl
  | dropSender =>
    have hall : LineInOrder (h.producers.ids.foldl Handoff.abandonProducer h) queue came :=
      List.foldlRecOn (motive := fun h => LineInOrder h queue came) _ _ inOrder
        fun _ inOrder id _ => inOrder.abandonProducer id
    exact hall.congr rfl rfl
  | dropReceiver =>
    have hall : LineInOrder (h.consumers.ids.foldl Handoff.abandonConsumer h) queue came :=
      List.foldlRecOn (motive := fun h => LineInOrder h queue came) _ _ inOrder
        fun _ inOrder id _ => inOrder.abandonConsumer id
    exact hall.congr rfl rfl

end LineInOrder

/-! ## The slots -/

/-- The slots that are live are the live ones of those registered, in order, as long as producers
    may come; consumers are registered after their first poll, and all of them are among those that
    came. -/
structure SlotsInOrder (h : Handoff α) (registry came : List Nat) : Prop where
  slots_registered : ∀ s ∈ h.slots, s ∈ registry
  live_eq : h.senderAlive = true → h.slots.filter h.isLive = registry.filter h.isLive
  registered_iff : ∀ k consumer, h.consumers.find? k = some consumer →
    (k ∈ registry ↔ consumer ≠ .fresh)
  registry_came : ∀ k ∈ registry, k ∈ came
  consumers_came : ∀ k ∈ h.consumers.ids, k ∈ came

section Live

variable {h h' : Handoff α}

theorem isLive_congr (hconsumers : h'.consumers = h.consumers) : h'.isLive = h.isLive := by
  funext s
  rw [isLive, hconsumers, isLive]

theorem isLive_removeConsumer (h : Handoff α) (id s : Nat) :
    (h.removeConsumer id).isLive s = (s != id && h.isLive s) := by
  have hfind : (h.removeConsumer id).consumers.find? s =
      if s = id then none else h.consumers.find? s := Roster.find?_erase h.consumers id s
  unfold isLive
  rw [hfind]
  by_cases hs : s = id
  · rw [if_pos hs, hs, bne_self_eq_false]
    rfl
  · rw [if_neg hs, bne_iff_ne.2 hs, Bool.true_and]

end Live

theorem consumers_abandonProducer (h : Handoff α) (id : Nat) :
    (h.abandonProducer id).consumers = h.consumers := by
  unfold abandonProducer
  cases h.producers.find? id <;> rfl

theorem consumers_dropSender (h : Handoff α) : (h.step .dropSender).consumers = h.consumers :=
  List.foldlRecOn (motive := fun h' : Handoff α => h'.consumers = h.consumers) h.producers.ids
    abandonProducer rfl fun h' hold id _ => (consumers_abandonProducer h' id).trans hold

namespace SlotsInOrder

variable {h h' : Handoff α} {registry came : List Nat} {id : Nat}

theorem start : SlotsInOrder ({} : Handoff α) [] [] :=
  ⟨fun _ hs => hs, fun _ => rfl, nofun, fun _ hk => hk, fun _ hk => hk⟩

/-- Nothing happens to consumers or slots. -/
theorem congr (inOrder : SlotsInOrder h registry came) (hconsumers : h'.consumers = h.consumers)
    (hslots : h'.slots = h.slots) (hsender : h'.senderAlive = h.senderAlive) :
    SlotsInOrder h' registry came where
  slots_registered := hslots ▸ inOrder.slots_registered
  live_eq := by
    rw [hslots, hsender, isLive_congr hconsumers]
    exact inOrder.live_eq
  registered_iff := hconsumers ▸ inOrder.registered_iff
  registry_came := inOrder.registry_came
  consumers_came := hconsumers ▸ inOrder.consumers_came

/-- The slots go, which are all dead, or no producer will come for them. -/
theorem clear (inOrder : SlotsInOrder h registry came) (hconsumers : h'.consumers = h.consumers)
    (hslots : h'.slots = [])
    (hdead : h'.senderAlive = true → h.senderAlive = true ∧ ∀ s ∈ h.slots, h.isLive s = false) :
    SlotsInOrder h' registry came where
  slots_registered := by
    rw [hslots]
    exact fun _ hs => by cases hs
  live_eq := by
    intro hsender
    obtain ⟨hwas, hdead⟩ := hdead hsender
    have hnone : h.slots.filter h.isLive = [] := by
      rw [List.filter_eq_nil_iff]
      exact fun s hs => Bool.eq_false_iff.1 (hdead s hs)
    rw [hslots, isLive_congr hconsumers, ← inOrder.live_eq hwas, hnone]
    rfl
  registered_iff := hconsumers ▸ inOrder.registered_iff
  registry_came := inOrder.registry_came
  consumers_came := hconsumers ▸ inOrder.consumers_came

/-- A consumer goes. -/
theorem removeConsumer (inOrder : SlotsInOrder h registry came) (id : Nat) :
    SlotsInOrder (h.removeConsumer id) registry came where
  slots_registered := inOrder.slots_registered
  live_eq := by
    intro hsender
    have hlive : (h.removeConsumer id).isLive = fun s => s != id && h.isLive s :=
      funext (isLive_removeConsumer h id)
    show h.slots.filter _ = _
    rw [hlive, ← List.filter_filter, inOrder.live_eq hsender, List.filter_filter]
  registered_iff := by
    intro k consumer hfind
    have hfind : (h.consumers.erase id).find? k = some consumer := hfind
    rw [Roster.find?_erase] at hfind
    split at hfind
    · cases hfind
    · exact inOrder.registered_iff k consumer hfind
  registry_came := inOrder.registry_came
  consumers_came := fun k hk => inOrder.consumers_came k (mem_ids_removeConsumer.1 hk).1

theorem abandonConsumer (inOrder : SlotsInOrder h registry came) (id : Nat) :
    SlotsInOrder (h.abandonConsumer id) registry came := by
  unfold Handoff.abandonConsumer
  cases h.consumers.find? id with
  | none => exact inOrder
  | some consumer =>
    cases consumer <;> exact (inOrder.removeConsumer id).congr rfl rfl rfl

/-- A consumer comes that has not been there before. -/
theorem request (inOrder : SlotsInOrder h registry came) (hnew : id ∉ came) :
    SlotsInOrder (h.request id) registry (came ++ [id]) := by
  have hfresh : h.consumers.find? id = none :=
    Roster.find?_eq_none_iff.2 fun hmem => hnew (inOrder.consumers_came id hmem)
  have hfind : ∀ k, (h.request id).consumers.find? k =
      if k = id then some .fresh else h.consumers.find? k :=
    fun k => Roster.find?_enter h.consumers id k .fresh hfresh
  have hlive : (h.request id).isLive = h.isLive := by
    funext s
    unfold isLive
    rw [hfind]
    by_cases hs : s = id
    · rw [if_pos hs, hs, hfresh]
    · rw [if_neg hs]
  refine ⟨inOrder.slots_registered, hlive ▸ inOrder.live_eq, ?_, ?_, ?_⟩
  · intro k consumer hk
    rw [hfind] at hk
    split at hk
    · rename_i heq
      cases hk
      refine ⟨fun hmem => absurd (inOrder.registry_came k hmem) (heq ▸ hnew), fun hne => ?_⟩
      exact absurd rfl hne
    · exact inOrder.registered_iff k consumer hk
  · exact fun k hk => List.mem_append_left _ (inOrder.registry_came k hk)
  · intro k hk
    rcases Roster.mem_ids_enter.1 hk with hold | rfl
    · exact List.mem_append_left _ (inOrder.consumers_came k hold)
    · exact List.mem_append_right _ (List.mem_singleton.2 rfl)

/-- A consumer that has registered before is replaced by another. -/
theorem registered_update (inOrder : SlotsInOrder h registry came) {old new : Consumer α}
    (held : h.consumers.find? id = some old) (hold : old ≠ .fresh) (hnew : new ≠ .fresh) :
    ∀ k consumer, (h.consumers.update id new).find? k = some consumer →
      (k ∈ registry ↔ consumer ≠ .fresh) := by
  intro k consumer hfind
  rw [Roster.find?_update] at hfind
  split at hfind
  · rename_i hk
    rw [held] at hfind
    obtain rfl : new = consumer := Option.some.inj hfind
    rw [hk, inOrder.registered_iff id old held]
    exact iff_of_true hold hnew
  · exact inOrder.registered_iff k consumer hfind

/-- An outcome goes into the first slot that is live; those in front of it go too. -/
theorem fill (inOrder : SlotsInOrder h registry came) {slot : Nat} {passed rest : List Nat}
    (slots_eq : h.slots = passed ++ slot :: rest) (dead : ∀ s ∈ passed, h.isLive s = false)
    (live : h.consumers.find? slot = some .waiting) (outcome : α) :
    SlotsInOrder { h with slots := rest, consumers := h.consumers.update slot (.filled outcome) }
      registry came where
  slots_registered := by
    intro s hs
    apply inOrder.slots_registered s
    rw [slots_eq]
    exact List.mem_append_right _ (List.mem_cons_of_mem _ hs)
  live_eq := by
    intro hsender
    have hpassed : passed.filter h.isLive = [] := by
      rw [List.filter_eq_nil_iff]
      exact fun s hs => Bool.eq_false_iff.1 (dead s hs)
    -- the slot that is filled is the only one that is live no more
    have hlive : Handoff.isLive { h with
        slots := rest, consumers := h.consumers.update slot (.filled outcome) } =
        fun s => s != slot && h.isLive s := by
      funext s
      unfold isLive
      simp only [Roster.find?_update]
      by_cases hs : s = slot
      · rw [if_pos hs, hs, live, bne_self_eq_false]
        rfl
      · rw [if_neg hs, bne_iff_ne.2 hs, Bool.true_and]
    rw [hlive, ← List.filter_filter, ← List.filter_filter, ← inOrder.live_eq hsender, slots_eq,
      List.filter_append, hpassed, List.nil_append, List.filter_cons_of_pos (isLive_iff.2 live),
      List.filter_cons_of_neg (by simp)]
  registered_iff := inOrder.registered_update live (by simp) (by simp)
  registry_came := inOrder.registry_came
  consumers_came := by
    show ∀ k ∈ (h.consumers.update slot (.filled outcome)).ids, _
    rw [Roster.ids_update]
    exact inOrder.consumers_came

/-- A consumer registers its slot behind the others. -/
theorem register (inOrder : SlotsInOrder h registry came)
    (held : h.consumers.find? id = some .fresh) :
    SlotsInOrder { h with consumers := h.consumers.update id .waiting, slots := h.slots ++ [id] }
      (joined registry (some id)) came := by
  have hnew : id ∉ registry := fun hmem => (inOrder.registered_iff id .fresh held).1 hmem rfl
  have hmem : id ∈ came := inOrder.consumers_came id (Roster.mem_ids_of_find? held)
  have hids : (h.consumers.update id .waiting).ids = h.consumers.ids := Roster.ids_update ..
  have hlive : ∀ s, Handoff.isLive { h with
      consumers := h.consumers.update id .waiting, slots := h.slots ++ [id] } s =
      (s == id || h.isLive s) := by
    intro s
    unfold isLive
    simp only [Roster.find?_update]
    by_cases hs : s = id
    · rw [if_pos hs, held, hs, beq_self_eq_true]
      rfl
    · rw [if_neg hs, beq_eq_false_iff_ne.2 hs, Bool.false_or]
  -- those that were there before are live as before
  have hsame : ∀ l : List Nat, id ∉ l →
      (l ++ [id]).filter (fun s => s == id || h.isLive s) = l.filter h.isLive ++ [id] := by
    intro l hl
    have hrest : l.filter (fun s => s == id || h.isLive s) = l.filter h.isLive := by
      apply List.filter_congr
      intro s hs
      have hne : s ≠ id := fun heq => hl (heq ▸ hs)
      rw [beq_eq_false_iff_ne.2 hne, Bool.false_or]
    rw [List.filter_append, hrest, List.filter_singleton, beq_self_eq_true]
    rfl
  rw [joined, if_neg hnew]
  refine ⟨?_, ?_, ?_, ?_, hids ▸ inOrder.consumers_came⟩
  · intro s hs
    rcases List.mem_append.1 hs with hold | hlast
    · exact List.mem_append_left _ (inOrder.slots_registered s hold)
    · exact List.mem_append_right _ hlast
  · intro hsender
    have hslots : id ∉ h.slots := fun hs => hnew (inOrder.slots_registered id hs)
    rw [funext hlive, hsame h.slots hslots, hsame registry hnew, inOrder.live_eq hsender]
  · intro k consumer hfind
    rw [List.mem_append, List.mem_singleton]
    rw [Roster.find?_update] at hfind
    split at hfind
    · rename_i hk
      rw [held] at hfind
      obtain rfl : Consumer.waiting = consumer := Option.some.inj hfind
      exact iff_of_true (Or.inr hk) (by simp)
    · rename_i hk
      rw [inOrder.registered_iff k consumer hfind]
      exact or_iff_left hk
  · intro k hk
    rcases List.mem_append.1 hk with hold | hlast
    · exact inOrder.registry_came k hold
    · rw [List.mem_singleton.1 hlast]
      exact hmem

theorem producerPolled (inOrder : SlotsInOrder h registry came) {answer : Poll Bool}
    (polled : h.ProducerPolled id answer h') : SlotsInOrder h' registry came := by
  have hjoin : SlotsInOrder (h.joinLine id) registry came := by
    rw [joinLine_eq]
    exact inOrder.congr rfl rfl rfl
  have hconsumers : (h.joinLine id).consumers = h.consumers := by rw [joinLine_eq]
  have hsender : (h.joinLine id).senderAlive = h.senderAlive := by rw [joinLine_eq]
  cases polled with
  | unknown absent => exact inOrder
  | shut outcome held fired => exact inOrder.congr rfl rfl rfl
  | queued outcome held going behind => exact hjoin
  | idle outcome held going first dead alive =>
    exact inOrder.clear hconsumers rfl fun hs => ⟨hsender ▸ hs, dead⟩
  | closed outcome held going first dead gone =>
    exact inOrder.clear hconsumers rfl fun hs => ⟨hsender ▸ hs, dead⟩
  | delivers outcome held going first passed slot rest slots_eq dead live =>
    exact (inOrder.fill slots_eq dead live outcome).congr rfl rfl hsender

theorem consumerPolled (inOrder : SlotsInOrder h registry came) {answer : Poll (Option α)}
    (polled : h.ConsumerPolled id answer h') :
    SlotsInOrder h' (joined registry (h.registrant (.pollConsumer id))) came := by
  have hcloses : ∀ consumer, h.consumers.find? id = some consumer →
      SlotsInOrder (h.closeConsumer id consumer) registry came := by
    intro consumer held
    rw [closeConsumer_eq held]
    exact (inOrder.abandonConsumer id).congr rfl rfl rfl
  -- who has registered before does not do so again
  have hagain : ∀ consumer, h.consumers.find? id = some consumer → consumer ≠ .fresh →
      joined registry (h.registrant (.pollConsumer id)) = registry := by
    intro consumer held hold
    have hmem : id ∈ registry := (inOrder.registered_iff id consumer held).2 hold
    show joined registry (if _ then some id else none) = registry
    split
    · exact if_pos hmem
    · rfl
  cases polled with
  | unknown absent =>
    have hnobody : h.registrant (.pollConsumer id) = none := by simp [registrant, absent]
    rw [hnobody]
    exact inOrder
  | shut consumer held fired =>
    have hnobody : h.registrant (.pollConsumer id) = none := by simp [registrant, fired]
    rw [hnobody]
    exact hcloses consumer held
  | registers held going alive =>
    have hregisters : h.registrant (.pollConsumer id) = some id := by
      simp [registrant, going, alive, held]
    rw [hregisters]
    exact inOrder.register held
  | waits held going alive =>
    rw [hagain .waiting held (by simp)]
    exact inOrder
  | closed consumer held going gone empty =>
    have hnobody : h.registrant (.pollConsumer id) = none := by simp [registrant, gone]
    rw [hnobody]
    exact hcloses consumer held
  | returns outcome held going =>
    rw [hagain (.filled outcome) held (by simp)]
    exact (inOrder.removeConsumer id).congr rfl rfl rfl

/-- A step that makes no consumer leaves the order of the slots as it is. -/
theorem step (inOrder : SlotsInOrder h registry came) {st : Step α}
    (hold : st.newConsumer = none) :
    SlotsInOrder (h.step st) (joined registry (h.registrant st)) came := by
  cases st with
  | submit id outcome => exact inOrder.congr rfl rfl rfl
  | request id => cases hold
  | pollProducer id => exact inOrder.producerPolled (h.pollProducer_spec id)
  | pollConsumer id => exact inOrder.consumerPolled (h.pollConsumer_spec id)
  | abandonProducer id =>
    show SlotsInOrder (h.abandonProducer id) registry came
    unfold Handoff.abandonProducer
    cases h.producers.find? id <;> exact inOrder.congr rfl rfl rfl
  | abandonConsumer id => exact inOrder.abandonConsumer id
  | shut => exact inOrder.congr rfl rfl rfl
  | dropSender =>
    exact inOrder.clear h.consumers_dropSender rfl fun hs => by cases hs
  | dropReceiver =>
    have hall : SlotsInOrder (h.consumers.ids.foldl Handoff.abandonConsumer h) registry came :=
      List.foldlRecOn (motive := fun h => SlotsInOrder h registry came) _ _ inOrder
        fun _ inOrder id _ => inOrder.abandonConsumer id
    exact hall.congr rfl rfl rfl

end SlotsInOrder

/-! ## Along a run -/

section Runs

variable {steps done more : List (Step α)} {st : Step α}

theorem Distinct.of_append (distinct : Distinct (done ++ more)) : Distinct done := by
  have hproducers := distinct.producers
  have hconsumers := distinct.consumers
  rw [List.filterMap_append] at hproducers hconsumers
  exact ⟨(List.nodup_append.1 hproducers).1, (List.nodup_append.1 hconsumers).1⟩

/-- Who comes with the last step has not been there before. -/
theorem Distinct.producer_new {id : Nat} (distinct : Distinct (done ++ [st]))
    (hnew : st.newProducer = some id) : id ∉ done.filterMap Step.newProducer := by
  have hnodup := distinct.producers
  rw [List.filterMap_append, List.nodup_append] at hnodup
  intro hmem
  refine hnodup.2.2 id hmem id ?_ rfl
  rw [List.filterMap_cons_some hnew]
  exact List.mem_cons_self

theorem Distinct.consumer_new {id : Nat} (distinct : Distinct (done ++ [st]))
    (hnew : st.newConsumer = some id) : id ∉ done.filterMap Step.newConsumer := by
  have hnodup := distinct.consumers
  rw [List.filterMap_append, List.nodup_append] at hnodup
  intro hmem
  refine hnodup.2.2 id hmem id ?_ rfl
  rw [List.filterMap_cons_some hnew]
  exact List.mem_cons_self

/-- What cannot happen is that somebody new comes. -/
theorem admits_or (h : Handoff α) (st : Step α) :
    h.admits st = true ∨ (∃ id outcome, st = .submit id outcome) ∨ ∃ id, st = .request id := by
  cases st with
  | submit id outcome => exact Or.inr (Or.inl ⟨id, outcome, rfl⟩)
  | request id => exact Or.inr (Or.inr ⟨id, rfl⟩)
  | _ => exact Or.inl rfl

/-- The line is in order along every run. -/
theorem lineInOrder_after (distinct : Distinct steps) :
    LineInOrder (after steps) (queued steps) (steps.filterMap Step.newProducer) := by
  induction steps using List.reverseRecOn with
  | nil => exact .start
  | append_singleton done st ih =>
    have inOrder := ih distinct.of_append
    rw [after_concat, queued_concat, List.filterMap_append]
    by_cases hst : (after done).admits st = true
    · rw [advance, if_pos hst]
      cases st with
      | submit id outcome => exact inOrder.submit (distinct.producer_new rfl) outcome
      | _ =>
        rw [List.filterMap_cons_none rfl, List.filterMap_nil, List.append_nil]
        exact inOrder.step rfl
    · rw [advance, if_neg hst]
      rcases (admits_or _ st).resolve_left hst with ⟨id, outcome, rfl⟩ | ⟨id, rfl⟩
      · exact ⟨inOrder.line_eq, fun p hp => List.mem_append_left _ (inOrder.queue_came p hp),
          fun p hp => List.mem_append_left _ (inOrder.unfinished_came p hp)⟩
      · rw [List.filterMap_cons_none rfl, List.filterMap_nil, List.append_nil]
        exact inOrder

/-- The slots are in order along every run. -/
theorem slotsInOrder_after (distinct : Distinct steps) :
    SlotsInOrder (after steps) (registered steps) (steps.filterMap Step.newConsumer) := by
  induction steps using List.reverseRecOn with
  | nil => exact .start
  | append_singleton done st ih =>
    have inOrder := ih distinct.of_append
    rw [after_concat, registered_concat, List.filterMap_append]
    by_cases hst : (after done).admits st = true
    · rw [advance, if_pos hst]
      cases st with
      | request id => exact inOrder.request (distinct.consumer_new rfl)
      | _ =>
        rw [List.filterMap_cons_none rfl, List.filterMap_nil, List.append_nil]
        exact inOrder.step rfl
    · rw [advance, if_neg hst]
      rcases (admits_or _ st).resolve_left hst with ⟨id, outcome, rfl⟩ | ⟨id, rfl⟩
      · rw [List.filterMap_cons_none rfl, List.filterMap_nil, List.append_nil]
        exact inOrder
      · exact ⟨inOrder.slots_registered, inOrder.live_eq, inOrder.registered_iff,
          fun k hk => List.mem_append_left _ (inOrder.registry_came k hk),
          fun k hk => List.mem_append_left _ (inOrder.consumers_came k hk)⟩

end Runs

end Gatehouse.Handoff
