import Gatehouse.Proofs.Handoff.Delivery
import Gatehouse.Proofs.Handoff.Queues

/-!
# The order of delivery

Only a poll of a producer fills a slot (`Placed.spec`).  The outcome then goes from the first of the
queued producers that is there to the first of the registered consumers that is there, however many
have gone in front of them (`placed_first`).  Who has gone does not come back
(`unfinished_of_later`, `isLive_of_later`), so that later placements are behind earlier ones on both
sides (`delivery_in_order`).
-/

namespace Gatehouse.Handoff

variable {α : Type}

/-! ## What a step can make of a consumer and a producer -/

/-- The ways that a step can bring a consumer into a state. -/
inductive Becomes (h : Handoff α) (k : Nat) : Step α → Consumer α → Prop
  /-- It was in that state before. -/
  | stays {st : Step α} {consumer : Consumer α} (held : h.consumers.find? k = some consumer) :
    Becomes h k st consumer
  /-- It has just come. -/
  | comes : Becomes h k (.request k) .fresh
  /-- It registers its slot. -/
  | registers (held : h.consumers.find? k = some .fresh) : Becomes h k (.pollConsumer k) .waiting
  /-- Its slot is filled, by the first in line and past slots that are dead. -/
  | filled (id : Nat) (outcome : α) (passed rest : List Nat)
      (held : h.producers.find? id = some outcome) (going : h.fired = false)
      (first : (h.joinLine id).line.head? = some id) (slots_eq : h.slots = passed ++ k :: rest)
      (dead : ∀ s ∈ passed, h.isLive s = false) (live : h.consumers.find? k = some .waiting)
      (done : (h.pollProducer id).2.producers.find? id = none) :
    Becomes h k (.pollProducer id) (.filled outcome)

section Step

variable {h h' : Handoff α} {id k : Nat} {consumer : Consumer α}

theorem find?_of_removeConsumer (hfind : (h.removeConsumer id).consumers.find? k = some consumer) :
    h.consumers.find? k = some consumer := by
  have hfind : (h.consumers.erase id).find? k = some consumer := hfind
  rw [Roster.find?_erase] at hfind
  split at hfind
  · cases hfind
  · exact hfind

theorem find?_of_abandonConsumer
    (hfind : (h.abandonConsumer id).consumers.find? k = some consumer) :
    h.consumers.find? k = some consumer := by
  rw [abandonConsumer_consumers] at hfind
  exact find?_of_removeConsumer hfind

theorem becomes_pollProducer (hfind : (h.pollProducer id).2.consumers.find? k = some consumer) :
    Becomes h k (.pollProducer id) consumer := by
  have hjoin : (h.joinLine id).consumers = h.consumers := by rw [joinLine_eq]
  have polled := h.pollProducer_spec id
  generalize hpoll : h.pollProducer id = polled' at hfind polled
  obtain ⟨answer, h'⟩ := polled'
  cases polled with
  | unknown absent => exact .stays hfind
  | shut outcome held fired => exact .stays hfind
  | queued outcome held going behind => exact .stays (hjoin ▸ hfind)
  | idle outcome held going first dead alive => exact .stays (hjoin ▸ hfind)
  | closed outcome held going first dead gone => exact .stays (hjoin ▸ hfind)
  | delivers outcome held going first passed slot rest slots_eq dead live =>
    have hfind : (h.consumers.update slot (.filled outcome)).find? k = some consumer := hfind
    rw [Roster.find?_update] at hfind
    split at hfind
    · rename_i hk
      subst hk
      rw [live] at hfind
      obtain rfl : Consumer.filled outcome = consumer := Option.some.inj hfind
      refine .filled id outcome passed rest held going first slots_eq dead live ?_
      rw [hpoll]
      show ((h.joinLine id).producers.erase id).find? id = none
      rw [Roster.find?_erase, if_pos rfl]
    · exact .stays hfind

theorem becomes_pollConsumer {answer : Poll (Option α)} (polled : h.ConsumerPolled id answer h')
    (hfind : h'.consumers.find? k = some consumer) : Becomes h k (.pollConsumer id) consumer := by
  have hcloses : ∀ old, h.consumers.find? id = some old →
      (h.closeConsumer id old).consumers.find? k = some consumer →
      h.consumers.find? k = some consumer := by
    intro old held hfind
    rw [closeConsumer_eq held] at hfind
    exact find?_of_abandonConsumer hfind
  cases polled with
  | unknown absent => exact .stays hfind
  | shut old held fired => exact .stays (hcloses old held hfind)
  | waits held going alive => exact .stays hfind
  | closed old held going gone empty => exact .stays (hcloses old held hfind)
  | returns outcome held going => exact .stays (find?_of_removeConsumer hfind)
  | registers held going alive =>
    have hfind : (h.consumers.update id .waiting).find? k = some consumer := hfind
    rw [Roster.find?_update] at hfind
    split at hfind
    · rename_i hk
      subst hk
      rw [held] at hfind
      obtain rfl : Consumer.waiting = consumer := Option.some.inj hfind
      exact .registers held
    · exact .stays hfind

/-- Every state that a consumer is in after a step came about in one of the ways. -/
theorem becomes_advance {st : Step α} (hfind : (h.advance st).consumers.find? k = some consumer) :
    Becomes h k st consumer := by
  unfold advance at hfind
  split at hfind
  case isFalse => exact .stays hfind
  rename_i hst
  cases st with
  | submit id outcome => exact .stays hfind
  | request id =>
    have hfresh : h.consumers.find? id = none := by
      simp only [admits, Bool.and_eq_true, Bool.not_eq_true', List.contains_eq_mem,
        decide_eq_false_iff_not] at hst
      exact Roster.find?_eq_none_iff.2 hst.1.1.2
    have hentered : (h.consumers.enter id .fresh).find? k = some consumer := hfind
    rw [Roster.find?_enter _ _ _ _ hfresh] at hentered
    split at hentered
    · rename_i hk
      subst hk
      obtain rfl : Consumer.fresh = consumer := Option.some.inj hentered
      exact .comes
    · exact .stays hentered
  | pollProducer id => exact becomes_pollProducer hfind
  | pollConsumer id => exact becomes_pollConsumer (h.pollConsumer_spec id) hfind
  | abandonProducer id => exact .stays (consumers_abandonProducer h id ▸ hfind)
  | abandonConsumer id => exact .stays (find?_of_abandonConsumer hfind)
  | shut => exact .stays hfind
  | dropSender => exact .stays (h.consumers_dropSender ▸ hfind)
  | dropReceiver =>
    have hall : (h.consumers.ids.foldl abandonConsumer h).consumers.find? k = some consumer →
        h.consumers.find? k = some consumer :=
      List.foldlRecOn (motive := fun h' : Handoff α =>
        h'.consumers.find? k = some consumer → h.consumers.find? k = some consumer) _ _ (fun hk => hk)
        fun h' hold id _ hk => hold (find?_of_abandonConsumer hk)
    exact .stays (hall hfind)

end Step

section Producers

variable {h h' : Handoff α} {id p : Nat}

theorem unfinished_congr (hproducers : h'.producers = h.producers) :
    h'.unfinished = h.unfinished := by
  funext p
  rw [unfinished, hproducers, unfinished]

theorem unfinished_of_removeProducer (hp : (h.removeProducer id).unfinished p = true) :
    h.unfinished p = true := by
  rw [LineInOrder.unfinished_removeProducer, Bool.and_eq_true] at hp
  exact hp.2

theorem unfinished_of_abandonProducer (hp : (h.abandonProducer id).unfinished p = true) :
    h.unfinished p = true := by
  unfold abandonProducer at hp
  cases held : h.producers.find? id with
  | none =>
    rw [held] at hp
    exact hp
  | some outcome =>
    rw [held] at hp
    exact unfinished_of_removeProducer hp

theorem producers_abandonConsumer (h : Handoff α) (id : Nat) :
    (h.abandonConsumer id).producers = h.producers := by
  unfold abandonConsumer
  cases h.consumers.find? id with
  | none => rfl
  | some consumer => cases consumer <;> rfl

/-- A poll of a producer brings none. -/
theorem unfinished_of_producerPolled {answer : Poll Bool} (polled : h.ProducerPolled id answer h')
    (hp : h'.unfinished p = true) : h.unfinished p = true := by
  have hjoin : (h.joinLine id).unfinished = h.unfinished := unfinished_congr (by rw [joinLine_eq])
  cases polled with
  | unknown absent => exact hp
  | shut outcome held fired => exact unfinished_of_removeProducer hp
  | queued outcome held going behind => exact hjoin ▸ hp
  | idle outcome held going first dead alive => exact hjoin ▸ hp
  | closed outcome held going first dead gone =>
    exact hjoin ▸ unfinished_of_removeProducer (h := { h.joinLine id with slots := [] }) hp
  | delivers outcome held going first passed slot rest slots_eq dead live =>
    exact hjoin ▸ unfinished_of_removeProducer (h := h.joinLine id) hp

theorem producers_consumerPolled {answer : Poll (Option α)}
    (polled : h.ConsumerPolled id answer h') : h'.producers = h.producers := by
  have hcloses : ∀ old, h.consumers.find? id = some old →
      (h.closeConsumer id old).producers = h.producers := by
    intro old held
    rw [closeConsumer_eq held]
    exact producers_abandonConsumer h id
  cases polled with
  | shut old held fired => exact hcloses old held
  | closed old held going gone empty => exact hcloses old held
  | _ => rfl

/-- Nobody becomes an unfinished producer but who comes. -/
theorem unfinished_advance {st : Step α} (hp : (h.advance st).unfinished p = true) :
    h.unfinished p = true ∨ st.newProducer = some p := by
  unfold advance at hp
  split at hp
  case isFalse => exact Or.inl hp
  cases st with
  | submit id outcome =>
    have hmem : p ∈ (h.producers.enter id outcome).ids := Roster.find?_isSome_iff.1 hp
    rcases Roster.mem_ids_enter.1 hmem with hold | rfl
    · exact Or.inl (Roster.find?_isSome_iff.2 hold)
    · exact Or.inr rfl
  | request id => exact Or.inl hp
  | pollProducer id => exact Or.inl (unfinished_of_producerPolled (h.pollProducer_spec id) hp)
  | pollConsumer id =>
    have hsame := unfinished_congr (producers_consumerPolled (h.pollConsumer_spec id))
    exact Or.inl (hsame ▸ hp)
  | abandonProducer id => exact Or.inl (unfinished_of_abandonProducer hp)
  | abandonConsumer id =>
    have hsame := unfinished_congr (producers_abandonConsumer h id)
    exact Or.inl (hsame ▸ hp)
  | shut => exact Or.inl hp
  | dropSender =>
    have hall : (h.producers.ids.foldl abandonProducer h).unfinished p = true →
        h.unfinished p = true :=
      List.foldlRecOn (motive := fun h' : Handoff α =>
        h'.unfinished p = true → h.unfinished p = true) _ _ (fun hp => hp)
        fun h' hold id _ hp => hold (unfinished_of_abandonProducer hp)
    exact Or.inl (hall hp)
  | dropReceiver =>
    have hall : (h.consumers.ids.foldl abandonConsumer h).producers = h.producers :=
      List.foldlRecOn (motive := fun h' : Handoff α => h'.producers = h.producers) _ _ rfl
        fun h' hold id _ => (producers_abandonConsumer h' id).trans hold
    have hsame : (h.step .dropReceiver).unfinished = h.unfinished := unfinished_congr hall
    exact Or.inl (hsame ▸ hp)

/-- Giving up all producers leaves none. -/
theorem producers_foldl_abandonProducer (h : Handoff α) (gone : List Nat) :
    p ∈ (gone.foldl abandonProducer h).producers.ids → p ∈ h.producers.ids ∧ p ∉ gone := by
  induction gone generalizing h with
  | nil => exact fun hp => ⟨hp, List.not_mem_nil⟩
  | cons id gone ih =>
    intro hp
    obtain ⟨hmem, hgone⟩ := ih (h.abandonProducer id) hp
    have hids : (h.abandonProducer id).producers.ids = h.producers.ids.filter (· != id) := by
      unfold abandonProducer
      cases held : h.producers.find? id with
      | none =>
        have habsent := Roster.find?_eq_none_iff.1 held
        symm
        rw [List.filter_eq_self]
        exact fun k hk => bne_iff_ne.2 fun heq => habsent (heq ▸ hk)
      | some outcome => exact Roster.ids_erase h.producers id
    rw [hids, List.mem_filter, bne_iff_ne] at hmem
    exact ⟨hmem.1, fun hp => (List.mem_cons.1 hp).elim hmem.2 hgone⟩

/-- Without the producers' half there are no producers. -/
theorem senderAlive_of_unfinished (steps : List (Step α)) :
    ∀ p, (after steps).unfinished p = true → (after steps).senderAlive = true := by
  refine run_induction (P := fun h => ∀ p, h.unfinished p = true → h.senderAlive = true)
    (fun h st ih hst p hp => ?_) (fun p hp => by cases hp) steps
  have hsender : ∀ h' : Handoff α, h'.flags = h.flags → h'.senderAlive = h.senderAlive :=
    fun h' hflags => (Prod.mk.inj (Prod.mk.inj hflags).2).1
  have hbefore : h.unfinished p = true ∨ st.newProducer = some p := by
    apply unfinished_advance
    rw [advance, if_pos hst]
    exact hp
  have hnobody : none ≠ some p := (Option.some_ne_none p).symm
  cases st with
  | submit id outcome => exact (Bool.and_eq_true_iff.1 hst).1
  | dropSender =>
    -- all who are there are given up
    have hmem : p ∈ (h.producers.ids.foldl abandonProducer h).producers.ids :=
      Roster.find?_isSome_iff.1 hp
    obtain ⟨hold, hgone⟩ := producers_foldl_abandonProducer h h.producers.ids hmem
    exact absurd hold hgone
  | pollProducer id =>
    rw [hsender (h.step (.pollProducer id)) (flags_producerPolled (h.pollProducer_spec id))]
    exact ih p (hbefore.resolve_right hnobody)
  | pollConsumer id =>
    rw [hsender (h.step (.pollConsumer id)) (flags_consumerPolled (h.pollConsumer_spec id))]
    exact ih p (hbefore.resolve_right hnobody)
  | abandonProducer id =>
    rw [hsender (h.step (.abandonProducer id)) (flags_abandonProducer h id)]
    exact ih p (hbefore.resolve_right hnobody)
  | abandonConsumer id =>
    rw [hsender (h.step (.abandonConsumer id)) (flags_abandonConsumer h id)]
    exact ih p (hbefore.resolve_right hnobody)
  | request id => exact ih p (hbefore.resolve_right hnobody)
  | shut => exact ih p (hbefore.resolve_right hnobody)
  | dropReceiver =>
    have hall : (h.consumers.ids.foldl abandonConsumer h).senderAlive = h.senderAlive :=
      List.foldlRecOn (motive := fun h' : Handoff α => h'.senderAlive = h.senderAlive) _ _ rfl
        fun h' hold id _ =>
          (Prod.mk.inj (Prod.mk.inj (flags_abandonConsumer h' id)).2).1.trans hold
    exact hall.trans (ih p (hbefore.resolve_right hnobody))

end Producers

/-! ## Placements -/

/-- A step puts an outcome into the slot of a consumer that waits. -/
structure Placed (h : Handoff α) (st : Step α) (slot : Nat) (outcome : α) : Prop where
  waiting : h.consumers.find? slot = some .waiting
  filled : (h.advance st).consumers.find? slot = some (.filled outcome)

section Placed

variable {done more : List (Step α)} {st : Step α} {k p : Nat} {outcome : α}

/-- Whose turn it is when an outcome is placed. -/
structure Turn (done : List (Step α)) (st : Step α) (id k : Nat) (outcome : α) : Prop where
  /-- It is placed by a poll of its producer. -/
  polls : st = .pollProducer id
  holds : (after done).producers.find? id = some outcome
  /-- The producer is the first of those that queued and are unfinished. -/
  first_queued : (queued (done ++ [st])).find? (after done).unfinished = some id
  /-- The consumer is the first of those that registered and are live. -/
  first_registered : (registered done).find? (after done).isLive = some k
  /-- The producer is done then. -/
  ends : (after (done ++ [st])).unfinished id = false

/-- An outcome is placed by the first producer that is there, in the slot of the first consumer that
    is there. -/
theorem placed_first (distinct : Distinct done) (placed : Placed (after done) st k outcome) :
    ∃ id, Turn done st id k outcome := by
  cases becomes_advance placed.filled with
  | stays held => cases placed.waiting.symm.trans held
  | filled id outcome passed rest held going first slots_eq dead live ended =>
    have hunfinished : (after done).unfinished id = true := by rw [unfinished, held]; rfl
    refine ⟨id, rfl, held, ?_, ?_, ?_⟩
    · -- the head of the line
      have hqueuer : (after done).queuer (.pollProducer id) = some id := by
        simp only [queuer, going, hunfinished, Bool.not_false, Bool.and_self, if_true]
      have hline := ((lineInOrder_after distinct).joinLine hunfinished).line_eq
      have hsame : ((after done).joinLine id).unfinished = (after done).unfinished :=
        unfinished_congr (by rw [joinLine_eq])
      rw [queued_concat, hqueuer, ← List.head?_filter, ← hsame, ← hline]
      exact first
    · -- the first live slot
      have hsender := senderAlive_of_unfinished done id hunfinished
      have hdead : passed.find? (after done).isLive = none :=
        List.find?_eq_none.2 fun s hs => Bool.eq_false_iff.1 (dead s hs)
      rw [← List.head?_filter, ← (slotsInOrder_after distinct).live_eq hsender, List.head?_filter,
        slots_eq, List.find?_append, hdead, Option.none_or,
        List.find?_cons_of_pos (isLive_iff.2 live)]
    · have hafter : after (done ++ [.pollProducer id]) = ((after done).pollProducer id).2 :=
        after_concat done _
      rw [hafter, unfinished, ended]
      rfl

/-- A producer that has gone does not come back. -/
theorem unfinished_of_later (distinct : Distinct (done ++ more))
    (hcame : p ∈ done.filterMap Step.newProducer)
    (hlater : (after (done ++ more)).unfinished p = true) : (after done).unfinished p = true := by
  induction more using List.reverseRecOn with
  | nil => rwa [List.append_nil] at hlater
  | append_singleton more st ih =>
    rw [← List.append_assoc] at distinct hlater
    rw [after_concat] at hlater
    apply ih distinct.of_append
    refine (unfinished_advance hlater).resolve_right fun hnew => ?_
    apply distinct.producer_new hnew
    rw [List.filterMap_append]
    exact List.mem_append_left _ hcame

/-- A registered consumer that is not live does not become so again. -/
theorem isLive_of_later (distinct : Distinct (done ++ more)) (hmem : k ∈ registered done)
    (hlater : (after (done ++ more)).isLive k = true) : (after done).isLive k = true := by
  induction more using List.reverseRecOn with
  | nil => rwa [List.append_nil] at hlater
  | append_singleton more st ih =>
    rw [← List.append_assoc] at distinct hlater
    rw [after_concat] at hlater
    have hmem' : k ∈ registered (done ++ more) := by
      rw [registered, firsts_append]
      exact (prefix_firsts _ _ more).subset hmem
    apply ih distinct.of_append
    cases becomes_advance (isLive_iff.1 hlater) with
    | stays held => exact isLive_iff.2 held
    | registers held =>
      -- it has registered before
      have inOrder := slotsInOrder_after distinct.of_append
      exact absurd rfl ((inOrder.registered_iff k .fresh held).1 hmem')

end Placed

/-! ## One placement after another -/

/-- Who is served later stands behind who was served first, if it would have been a candidate
    then. -/
theorem pair_sublist_of_find? {early late : List Nat} {present : Nat → Bool} {a b : Nat}
    (hgrown : early <+: late) (hfirst : early.find? present = some a) (hlater : b ∈ late)
    (hne : b ≠ a) (hpresent : b ∈ early → present b = true) : [a, b].Sublist late := by
  obtain ⟨rest, rfl⟩ := hgrown
  obtain ⟨-, front, back, rfl, hfront⟩ := List.find?_eq_some_iff_append.1 hfirst
  have hback : b ∈ back ++ rest := by
    rw [List.append_assoc, List.cons_append, List.mem_append, List.mem_cons] at hlater
    rcases hlater with hmem | heq | hmem
    · have hgone := hfront b hmem
      rw [hpresent (List.mem_append_left _ hmem)] at hgone
      cases hgone
    · exact absurd heq hne
    · exact hmem
  rw [List.append_assoc, List.cons_append]
  exact (List.cons_sublist_cons.2 (List.singleton_sublist.2 hback)).trans
    (List.sublist_append_right front _)

theorem prefix_queued (done more : List (Step α)) : queued done <+: queued (done ++ more) := by
  rw [queued, queued, firsts_append]
  exact prefix_firsts _ _ more

theorem prefix_registered (done more : List (Step α)) :
    registered done <+: registered (done ++ more) := by
  rw [registered, registered, firsts_append]
  exact prefix_firsts _ _ more

section Pair

variable {done mid more : List (Step α)} {id id' k k' : Nat} {outcome outcome' : α}

/-- The producer that is served later queued later. -/
theorem queued_of_turns (distinct : Distinct (done ++ .pollProducer id :: mid ++ more))
    (turn : Turn done (.pollProducer id) id k outcome)
    (turn' : Turn (done ++ .pollProducer id :: mid) (.pollProducer id') id' k' outcome')
    (hmem : id' ∈ queued (done ++ .pollProducer id :: mid ++ more)) :
    [id, id'].Sublist (queued (done ++ .pollProducer id :: mid ++ more)) := by
  -- the run up to and with the first placement
  have hsplit : done ++ .pollProducer id :: mid = done ++ [.pollProducer id] ++ mid := by simp
  rw [hsplit] at distinct turn' hmem ⊢
  have hthere : (after (done ++ [.pollProducer id] ++ mid)).unfinished id' = true := by
    rw [unfinished, turn'.holds]
    rfl
  have inOrder := lineInOrder_after distinct.of_append.of_append
  have hcame : ∀ p ∈ queued (done ++ [.pollProducer id]),
      (after (done ++ [.pollProducer id] ++ mid)).unfinished p = true →
        (after (done ++ [.pollProducer id])).unfinished p = true :=
    fun p hp => unfinished_of_later distinct.of_append (inOrder.queue_came p hp)
  have hgrown : queued (done ++ [.pollProducer id]) <+:
      queued (done ++ [.pollProducer id] ++ mid ++ more) := by
    rw [List.append_assoc]
    exact prefix_queued _ _
  refine pair_sublist_of_find? hgrown turn.first_queued hmem ?_ fun hearly => ?_
  · rintro rfl
    have hback := hcame id' (List.mem_of_find?_eq_some turn.first_queued) hthere
    rw [turn.ends] at hback
    cases hback
  · have hback := hcame id' hearly hthere
    rw [after_concat] at hback
    exact (unfinished_advance hback).resolve_right (Option.some_ne_none id').symm

/-- The consumer that is served later registered later. -/
theorem registered_of_turns (distinct : Distinct (done ++ .pollProducer id :: mid ++ more))
    (placed : Placed (after done) (.pollProducer id) k outcome)
    (placed' : Placed (after (done ++ .pollProducer id :: mid)) (.pollProducer id') k' outcome')
    (turn : Turn done (.pollProducer id) id k outcome)
    (hmem : k' ∈ registered (done ++ .pollProducer id :: mid ++ more)) :
    [k, k'].Sublist (registered (done ++ .pollProducer id :: mid ++ more)) := by
  have hlive : (after (done ++ .pollProducer id :: mid)).isLive k' = true :=
    isLive_iff.2 placed'.waiting
  have hgrown : registered done <+: registered (done ++ .pollProducer id :: mid ++ more) := by
    rw [List.append_assoc]
    exact prefix_registered _ _
  refine pair_sublist_of_find? hgrown turn.first_registered hmem ?_ fun hearly =>
    isLive_of_later distinct.of_append hearly hlive
  rintro rfl
  -- its slot was filled then
  have hsplit : done ++ .pollProducer id :: mid = done ++ [.pollProducer id] ++ mid := by simp
  have hearly : k' ∈ registered (done ++ [.pollProducer id]) :=
    (prefix_registered done _).subset (List.mem_of_find?_eq_some turn.first_registered)
  rw [hsplit] at distinct hlive
  have hback := isLive_of_later distinct.of_append hearly hlive
  rw [isLive_iff, after_concat, placed.filled] at hback
  cases hback

end Pair

/-- **Outcomes are delivered in order.**  No producer and no consumer is polled, given up or shut out
    in a way that lets another overtake it: whenever an outcome is placed, its producer is the first
    of those that queued and are unfinished, and its consumer is the first of those that registered
    and are live.  If one outcome is placed before another, its producer queued first and its
    consumer registered first. -/
theorem delivery_in_order (steps : List (Step α)) (distinct : Distinct steps) :
    (∀ done st later k outcome, steps = done ++ st :: later →
      Placed (after done) st k outcome → ∃ id, Turn done st id k outcome) ∧
    (∀ done id mid id' later k k' outcome outcome',
      steps = done ++ .pollProducer id :: (mid ++ .pollProducer id' :: later) →
      Placed (after done) (.pollProducer id) k outcome →
      Placed (after (done ++ .pollProducer id :: mid)) (.pollProducer id') k' outcome' →
      [id, id'].Sublist (queued steps) ∧ [k, k'].Sublist (registered steps)) ∧
    (queued steps).Nodup ∧ (registered steps).Nodup := by
  refine ⟨?_, ?_, nodup_firsts _ List.nodup_nil steps, nodup_firsts _ List.nodup_nil steps⟩
  · rintro done st later k outcome rfl placed
    exact placed_first distinct.of_append placed
  · rintro done id mid id' later k k' outcome outcome' hsteps placed placed'
    have hall : steps = done ++ .pollProducer id :: mid ++ .pollProducer id' :: later := by
      rw [hsteps, List.append_assoc, List.cons_append]
    rw [hall] at distinct ⊢
    obtain ⟨id₁, turn⟩ := placed_first distinct.of_append.of_append placed
    obtain ⟨id₂, turn'⟩ := placed_first distinct.of_append placed'
    obtain rfl : id = id₁ := Step.pollProducer.inj turn.polls
    obtain rfl : id' = id₂ := Step.pollProducer.inj turn'.polls
    have hqueued := List.mem_of_find?_eq_some turn'.first_queued
    have hregistered := List.mem_of_find?_eq_some turn'.first_registered
    refine ⟨queued_of_turns distinct turn turn' ?_,
      registered_of_turns distinct placed placed' turn ?_⟩
    · have hmem := (prefix_queued _ later).subset hqueued
      rwa [List.append_assoc _ [_] later, List.singleton_append] at hmem
    · exact (prefix_registered _ _).subset hregistered

/-- Producer 1 is given up while it is first in line, consumer 1 with its slot registered in front of
    another; a third producer comes in between.  The outcomes of producers 2 and 3 are placed in the
    slots of consumers 0 and 2. -/
theorem delivery_in_order_sample :
    let front : List (Step Nat) :=
      [.submit 1 10, .pollProducer 1, .submit 2 20, .pollProducer 2, .abandonProducer 1,
        .submit 3 30, .pollProducer 3, .request 0, .request 1, .request 2, .pollConsumer 0,
        .pollConsumer 1, .pollConsumer 2, .abandonConsumer 1]
    let steps := front ++ .pollProducer 2 :: ([] ++ .pollProducer 3 :: [])
    Distinct steps ∧ Placed (after front) (.pollProducer 2) 0 20 ∧
      Placed (after (front ++ .pollProducer 2 :: [])) (.pollProducer 3) 2 30 ∧
      [2, 3].Sublist (queued steps) ∧ [0, 2].Sublist (registered steps) := by
  intro front steps
  have distinct : Distinct steps := ⟨by decide, by decide⟩
  have placed : Placed (after front) (.pollProducer 2) 0 20 := ⟨rfl, rfl⟩
  have placed' : Placed (after (front ++ .pollProducer 2 :: [])) (.pollProducer 3) 2 30 :=
    ⟨rfl, rfl⟩
  exact ⟨distinct, placed, placed', (delivery_in_order steps distinct).2.1 front 2 [] 3 [] 0 2 20 30
    rfl placed placed'⟩

end Gatehouse.Handoff
