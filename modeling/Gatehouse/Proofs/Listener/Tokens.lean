import Gatehouse.Proofs.Listener.Claims
import Gatehouse.Proofs.Listener.Steps
import Gatehouse.Proofs.Roster

/-!
# No token is lost

A listener of capacity `C` has `C` tokens.  A token is in the pool, or granted to a claim on the
pool, or in the hand of the accept loop, or with a handshake that has not ended, and however the
steps of the parties and the events from outside are interleaved, there are `C` of them in all
(`tokens_conserved`).  Among the events are those that a dropped listener goes through: the shutdown
is fired, the socket is closed, and the calls and waits are given up.

For the proof a listener is reduced to its books on tokens.  Every event is one move in the books
(`move_apply`), and every move keeps them sound (`Books.Sound.move`).
-/

namespace Gatehouse

/-- Does the accept loop have a token in its hand? -/
def LoopPhase.inHand : LoopPhase → Nat
  | .listening | .reporting _ => 1
  | _ => 0

/-- Is the accept loop handing over a failure? -/
def LoopPhase.isReporting : LoopPhase → Bool
  | .reporting _ => true
  | _ => false

namespace Listener

/-! ## Who has the tokens -/

/-- The token of the accept loop: the one in its hand, or one that it has been granted and has not
    picked up yet. -/
def loopTokens (l : Listener) : Nat :=
  if l.loop.inHand = 1 ∨ l.pool.isMet .loop = true then 1 else 0

/-- The tokens that have been granted to parties that wait for the listener to drain. -/
def drainTokens (l : Listener) : Nat :=
  sumOf ((l.pool.claims.filter (·.claimant != .loop)).map (·.got))

/-- The handshakes that have given their tokens back, the latest first. -/
def tokensReturned (l : Listener) : List Nat :=
  l.log.filterMap fun
    | .tokenReturned id => some id
    | _ => none

/-- How often the accept loop has given a token back. -/
def loopReturns (l : Listener) : Nat :=
  l.log.countP fun
    | .loopTokenReturned => true
    | _ => false

/-- The failures to take a raw connection, the latest first. -/
def refusals (l : Listener) : List SystemError :=
  l.log.filterMap fun
    | .refused error => some error
    | _ => none

/-! ## The books on tokens -/

/-- What concerns tokens in a listener. -/
structure Books where
  /-- How many tokens there are to wait for in a drain. -/
  need : Nat
  pool : TokenPool
  loop : LoopPhase
  /-- How many connections have been taken. -/
  taken : Nat
  /-- The handshakes that run. -/
  running : List Nat
  drains : Roster DrainPhase
  returned : List Nat
  loopReturns : Nat
  /-- How many raw connections could not be taken. -/
  refused : Nat

/-- The books of a listener. -/
def books (l : Listener) : Books where
  need := l.drainNeed
  pool := l.pool
  loop := l.loop
  taken := l.connections
  running := l.tasks.ids
  drains := l.drains
  returned := l.tokensReturned
  loopReturns := l.loopReturns
  refused := l.refusals.length

/-- The books are a matter of the core. -/
theorem books_of_core {l l' : Listener} (h : l'.core = l.core) : l'.books = l.books := by
  have hreturned : l'.tokensReturned = l.tokensReturned := by
    unfold tokensReturned
    rw [← filterMap_record (by intro h; cases h <;> simp [Happening.isPassing]), h,
      filterMap_record (by intro h; cases h <;> simp [Happening.isPassing])]
  have hloop : l'.loopReturns = l.loopReturns := by
    unfold loopReturns
    rw [← countP_record (by intro h; cases h <;> simp [Happening.isPassing]), h,
      countP_record (by intro h; cases h <;> simp [Happening.isPassing])]
  have hrefusals : l'.refusals = l.refusals := by
    unfold refusals
    rw [← filterMap_record (by intro h; cases h <;> simp [Happening.isPassing]), h,
      filterMap_record (by intro h; cases h <;> simp [Happening.isPassing])]
  simp only [core, Core.mk.injEq] at h
  obtain ⟨hsettings, hpool, hconnections, hphase, htasks, -, hdrains, -⟩ := h
  simp only [books, drainNeed, hsettings, hpool, hphase, hconnections, htasks, hdrains, hreturned,
    hloop, hrefusals]

/-! ## Moves in the books -/

/-- What an event can do to the books. -/
inductive Books.Move (b : Books) : Books → Prop
  /-- It is not about tokens. -/
  | still : Move b b
  /-- The loop returns, without a part in the pool. -/
  | stops (idle : b.loop = .seeking ∨ ∃ timer, b.loop = .pausing timer) :
    Move b { b with loop := .stopped }
  /-- The loop asks for a token and waits. -/
  | queues (seeking : b.loop = .seeking) :
    Move b { b with pool := b.pool.ask .loop 1, loop := .queued }
  /-- The loop asks for a token and takes it. -/
  | draws (seeking : b.loop = .seeking) (met : (b.pool.ask .loop 1).isMet .loop = true) :
    Move b { b with pool := (b.pool.ask .loop 1).collect .loop, loop := .listening }
  /-- The loop returns and gives up its claim. -/
  | withdraws (queued : b.loop = .queued) :
    Move b { b with pool := b.pool.withdraw .loop, loop := .stopped }
  /-- The loop takes the token that it has waited for. -/
  | picksUp (queued : b.loop = .queued) (met : b.pool.isMet .loop = true) :
    Move b { b with pool := b.pool.collect .loop, loop := .listening }
  /-- The loop returns and gives its token back. -/
  | returns (listening : b.loop = .listening) :
    Move b { b with pool := b.pool.release 1, loop := .stopped, loopReturns := b.loopReturns + 1 }
  /-- A raw connection could not be taken. -/
  | refuses (pause : Nat) (listening : b.loop = .listening) :
    Move b { b with loop := .reporting pause, refused := b.refused + 1 }
  /-- The failure is handed over, and the loop gives its token back. -/
  | pauses (pause : Nat) (timer : Timer) (reporting : b.loop = .reporting pause) :
    Move b { b with pool := b.pool.release 1, loop := .pausing timer,
                    loopReturns := b.loopReturns + 1 }
  /-- The pause is over. -/
  | resumes (timer : Timer) (pausing : b.loop = .pausing timer) : Move b { b with loop := .seeking }
  /-- A raw connection is taken, and its handshake gets the token of the loop. -/
  | takes (listening : b.loop = .listening) :
    Move b { b with loop := .seeking, taken := b.taken + 1, running := b.running ++ [b.taken + 1] }
  /-- A handshake ends and gives its token back. -/
  | ends (id : Nat) (runs : id ∈ b.running) :
    Move b { b with pool := b.pool.release 1, running := b.running.filter (· != id),
                    returned := id :: b.returned }
  /-- A party starts to wait for the listener to drain. -/
  | waits (id : Nat) : Move b { b with drains := b.drains.enter id .loopRuns }
  /-- A party that waits asks for all tokens. -/
  | claims (id : Nat) (waiting : b.drains.find? id = some .loopRuns) :
    Move b { b with pool := b.pool.ask (.drain id) b.need, drains := b.drains.update id .claiming }
  /-- A party has got all tokens, and gives them back. -/
  | drains (id : Nat) (claiming : b.drains.find? id = some .claiming)
      (met : b.pool.isMet (.drain id) = true) :
    Move b { b with pool := (b.pool.collect (.drain id)).release b.need,
                    drains := b.drains.update id .done }
  /-- A party gives up waiting. -/
  | leaves (id : Nat) :
    Move b { b with pool := b.pool.withdraw (.drain id), drains := b.drains.erase id }

/-- The books do not change with what leaves the core alone. -/
theorem move_of_core {l l' : Listener} (h : l'.core = l.core) : Books.Move l.books l'.books := by
  rw [books_of_core h]
  exact .still

theorem loopReturns_note (l : Listener) :
    (l.note .loopTokenReturned).loopReturns = l.loopReturns + 1 :=
  List.countP_cons_of_pos rfl

theorem books_releaseLoopToken (l : Listener) :
    l.releaseLoopToken.books =
      { l.books with pool := l.pool.release 1, loopReturns := l.loopReturns + 1 } := by
  rw [← loopReturns_note]
  rfl

/-- A failure to take a connection goes into the books as such. -/
theorem books_reportRefusal (l : Listener) (error : SystemError) :
    ∃ pause, (l.reportRefusal error).books =
      { l.books with loop := .reporting pause, refused := l.books.refused + 1 } := by
  obtain ⟨pause, l₁, hcore, heq⟩ := reportRefusal_eq l error
  refine ⟨pause, ?_⟩
  rw [heq, ← books_of_core hcore]
  rfl

/-- A connection that is taken goes into the books as such. -/
theorem books_spawnTask (l : Listener) (arrival : Arrival) :
    (l.spawnTask arrival).books =
      { l.books with
        loop := .seeking, taken := l.connections + 1,
        running := l.books.running ++ [l.connections + 1] } := by
  rw [show l.books.running = l.tasks.ids from rfl, ← Roster.ids_enter]
  rfl

/-- A step of the accept loop is a move. -/
theorem move_stepLoop {l l' : Listener} (stepped : LoopStepped l l') :
    Books.Move l.books l'.books := by
  have hsocket : ∀ l : Listener, l.closeSocket.books = l.books :=
    fun l => books_of_core (core_closeSocket l)
  have hstop : ∀ l : Listener, l.stopLoop.books = { l.books with loop := .stopped } := by
    intro l
    rw [← hsocket l]
    rfl
  cases stepped with
  | stops idle _ =>
    rw [hstop]
    exact .stops idle
  | queues seeking _ _ => exact .queues seeking
  | draws seeking _ met => exact .draws seeking met
  | withdraws queued _ =>
    rw [hstop]
    exact .withdraws queued
  | picksUp queued _ met => exact .picksUp queued met
  | returns listening _ =>
    rw [hstop, books_releaseLoopToken]
    exact .returns listening
  | refuses error socket listening _ _ =>
    obtain ⟨pause, hbooks⟩ := books_reportRefusal { l with socket } error
    rw [hbooks]
    exact .refuses pause listening
  | takes arrival socket listening _ _ =>
    rw [books_spawnTask]
    exact .takes listening
  | holds pause handoff reporting _ => exact .still
  | pauses pause delivered handoff reporting _ =>
    have hbooks : ({ l with handoff }.startPause pause).books =
        { l.releaseLoopToken.books with loop := .pausing ⟨l.now + pause, l.armed⟩ } := rfl
    rw [hbooks, books_releaseLoopToken]
    exact .pauses pause _ reporting
  | resumes timer pausing _ _ => exact .resumes timer pausing

/-! ## Steps of the handshakes -/

/-- A handshake that ends is struck out, and its token goes back. -/
theorem move_endTask {l : Listener} {id : Nat} (runs : id ∈ l.tasks.ids) :
    Books.Move l.books (l.endTask id).books := by
  have hbooks : (l.endTask id).books =
      { l.books with
        pool := l.pool.release 1, running := l.books.running.filter (· != id),
        returned := id :: l.tokensReturned } := by
    rw [show l.books.running = l.tasks.ids from rfl, ← Roster.ids_erase]
    rfl
  rw [hbooks]
  exact .ends id runs

@[simp] theorem books_setPhase (l : Listener) (id : Nat) (task : HandshakeTask) (phase : Phase) :
    (l.setPhase id task phase).books = l.books := by
  have hids : (l.setPhase id task phase).tasks.ids = l.tasks.ids := Roster.ids_update ..
  show { l.books with running := (l.setPhase id task phase).tasks.ids } = l.books
  rw [hids]
  rfl

@[simp] theorem books_submitOutcome (l : Listener) (id : Nat) (task : HandshakeTask)
    (outcome : Outcome) : (l.submitOutcome id task outcome).books = l.books :=
  books_setPhase { l with handoff := l.handoff.submit id outcome } id task .reporting

/-- A handshake whose acts fail ends at once if it was the shutdown, else it has an outcome to hand
    over. -/
theorem move_failActs {l : Listener} {id : Nat} (runs : id ∈ l.tasks.ids) (task : HandshakeTask)
    (failure : Failure) : Books.Move l.books (l.failActs id task failure).books := by
  have hcore := core_rejectActs l id task failure
  have htasks : (l.rejectActs id task failure).tasks = l.tasks := congrArg Core.tasks hcore
  rw [← books_of_core hcore]
  rcases failActs_cases l id task failure with ⟨_, heq⟩ | ⟨_, heq⟩
  · rw [heq]
    exact move_endTask (htasks ▸ runs)
  · rw [heq, books_submitOutcome]
    exact .still

/-- A step of a handshake is a move. -/
theorem move_stepTask {S : Suite} {l l' : Listener} {id : Nat} {task : HandshakeTask}
    {sight : Sight} (held : l.tasks.find? id = some task)
    (stepped : TaskStepped S l id task sight l') : Books.Move l.books l'.books := by
  have runs : id ∈ l.tasks.ids := Roster.mem_ids_of_find? held
  cases stepped with
  | aborts _ _ =>
    rw [books_of_core (core_closeStream _ _)]
    exact move_endTask (l := (l.enter id .init).enter id .rejected) runs
  | begins _ _ =>
    rw [books_setPhase]
    exact .still
  | shut _ _ => exact move_failActs runs task .closed
  | breaks failure wires _ _ => exact move_failActs (l := { l with wires }) runs task failure
  | readsOne =>
    rw [books_setPhase]
    exact .still
  | takesOne machine got bytes timer wire inward act _ _ _ _ _ =>
    rcases takeActOne_cases (l.withWire task.stream { wire with inward }) id task machine act with
      ⟨e, m, _, htake⟩ | ⟨m₁, _, ⟨e, m₂, _, htake⟩ | ⟨answer, m₂, _, htake⟩⟩
    · rw [htake]
      exact move_failActs (l := l.withWire _ _) runs task _
    · rw [htake]
      exact move_failActs (l := { l.withWire _ _ with chance := _ }) runs task _
    · rw [htake, books_setPhase]
      exact .still
  | writes =>
    rw [books_setPhase]
    exact .still
  | awaits =>
    rw [books_setPhase]
    exact .still
  | readsThree =>
    rw [books_setPhase]
    exact .still
  | takesThree machine got bytes timer wire inward act _ _ _ _ _ =>
    rcases takeActThree_cases (l.withWire task.stream { wire with inward }) id task machine act with
      ⟨e, m, _, htake⟩ | ⟨m, _, ⟨_, htake⟩ | ⟨remote, _, htake⟩⟩
    · rw [htake]
      exact move_failActs (l := l.withWire _ _) runs task _
    · rw [htake]
      exact move_failActs (l := l.withWire _ _) runs task _
    · rw [htake, succeedActs, books_submitOutcome]
      exact .still
  | holds => exact .still
  | delivers handoff _ _ => exact move_endTask (l := { l with handoff }) runs
  | drops outcome handoff _ _ _ =>
    have hcore : ({ l with handoff }.dropOutcome outcome).core = { l with handoff }.core :=
      core_dropOutcome _ outcome
    have htasks : ({ l with handoff }.dropOutcome outcome).tasks = l.tasks :=
      congrArg Core.tasks hcore
    have hmove := move_endTask (htasks ▸ runs)
    rw [books_of_core hcore] at hmove
    exact hmove

/-! ## All events -/

/-- A call has no part in the tokens. -/
theorem books_stepCall {l l' : Listener} {call : Nat} (stepped : CallStepped l call l') :
    l'.books = l.books := by
  cases stepped with
  | waits handoff _ => rfl
  | answers outcome handoff _ => rfl
  | closes handoff l₁ _ dropped =>
    have hbooks : l₁.books = { l with handoff : Listener }.books :=
      books_of_core (core_of_dropped dropped)
    exact hbooks

/-- A step of a party that waits for the listener to drain is a move. -/
theorem move_stepDrain {l l' : Listener} {id : Nat} (stepped : DrainStepped l id l') :
    Books.Move l.books l'.books := by
  cases stepped with
  | asks waiting _ => exact .claims id waiting
  | drains claiming met => exact .drains id claiming met

/-- Every event is a move in the books. -/
theorem move_apply (S : Suite) (l : Listener) (e : Event) :
    Books.Move l.books (l.apply S e).books := by
  cases e with
  | step party =>
    rcases apply_step S l party with ⟨_, same⟩ | ⟨l', happly, taken⟩
    · rw [same]
      exact .still
    · rw [happly]
      cases taken with
      | loop step => exact move_stepLoop (stepLoop_spec step)
      | task task held step => exact move_stepTask held (stepTask_spec held step)
      | call step =>
        rw [books_stepCall (stepCall_spec step)]
        exact .still
      | drain step => exact move_stepDrain (stepDrain_spec step)
  | abandonCall call =>
    have hbooks : (l.abandonCall call).books =
        { l with handoff := l.handoff.abandonConsumer call : Listener }.books :=
      books_of_core (core_abandonCall l call)
    rw [apply, hbooks]
    exact .still
  | startDrain id => exact .waits id
  | abandonDrain id => exact .leaves id
  | closeSocket => exact move_of_core (core_closeSocket l)
  | wire stream change => exact move_of_core (core_onWire l stream _)
  | startCall _ | trigger | arrive _ | newStream _ | advance _ | chance _ => exact .still

/-! ## What every move keeps -/

namespace Books

variable {b b' : Books}

/-- The claims on the pool are those of the accept loop while it waits, for one token, and of the
    parties that wait for the listener to drain, for all of them. -/
structure Claimed (b : Books) : Prop where
  orderly : b.pool.Orderly
  loop : ∀ need, (.loop, need) ∈ b.pool.demands → b.loop = .queued ∧ need = 1
  drain : ∀ id need, (.drain id, need) ∈ b.pool.demands →
    b.drains.find? id = some .claiming ∧ need = b.need

/-- A loop that is not waiting has no claim. -/
theorem Claimed.loop_absent (claimed : b.Claimed) (h : b.loop ≠ .queued) :
    Claimant.loop ∉ b.pool.demands.map (·.1) := by
  intro hmem
  obtain ⟨⟨claimant, need⟩, hdemand, rfl⟩ := List.mem_map.1 hmem
  exact h (claimed.loop need hdemand).1

/-- Tokens may come back, and a loop that is not waiting may do what it likes. -/
theorem Claimed.of_demands (claimed : b.Claimed) (orderly : b'.pool.Orderly)
    (hdemands : b'.pool.demands = b.pool.demands) (hdrains : b'.drains = b.drains)
    (hneed : b'.need = b.need) (hloop : b'.loop = b.loop ∨ b.loop ≠ .queued) : b'.Claimed where
  orderly := orderly
  loop := by
    intro need hmem
    rw [hdemands] at hmem
    obtain ⟨hqueued, hone⟩ := claimed.loop need hmem
    exact ⟨(hloop.resolve_right (fun hne => hne hqueued)).trans hqueued, hone⟩
  drain := by
    intro id need hmem
    rw [hdemands] at hmem
    rw [hdrains, hneed]
    exact claimed.drain id need hmem

/-- With its claim struck out the loop may do what it likes, too. -/
theorem Claimed.strike_loop (claimed : b.Claimed) (orderly : b'.pool.Orderly)
    (hdemands : b'.pool.demands = b.pool.demands.filter (·.1 != .loop))
    (hdrains : b'.drains = b.drains) (hneed : b'.need = b.need) : b'.Claimed where
  orderly := orderly
  loop := by
    intro need hmem
    rw [hdemands, List.mem_filter] at hmem
    exact absurd hmem.2 (by simp)
  drain := by
    intro id need hmem
    rw [hdemands, List.mem_filter] at hmem
    rw [hdrains, hneed]
    exact claimed.drain id need hmem.1

/-- So may a party whose claim is struck out, as long as the others stay as they are. -/
theorem Claimed.strike_drain (claimed : b.Claimed) (id : Nat) (orderly : b'.pool.Orderly)
    (hdemands : b'.pool.demands = b.pool.demands.filter (·.1 != .drain id))
    (hdrains : ∀ k, k ≠ id → b'.drains.find? k = b.drains.find? k) (hneed : b'.need = b.need)
    (hloop : b'.loop = b.loop) : b'.Claimed where
  orderly := orderly
  loop := by
    intro need hmem
    rw [hdemands, List.mem_filter] at hmem
    rw [hloop]
    exact claimed.loop need hmem.1
  drain := by
    intro k need hmem
    rw [hdemands, List.mem_filter] at hmem
    have hne : k ≠ id := by
      rintro rfl
      exact absurd hmem.2 (by simp)
    rw [hdrains k hne, hneed]
    exact claimed.drain k need hmem.1

theorem Claimed.queue (claimed : b.Claimed) (seeking : b.loop = .seeking) :
    Claimed { b with pool := b.pool.ask .loop 1, loop := .queued } where
  orderly := claimed.orderly.ask (claimed.loop_absent (by rw [seeking]; decide)) 1
  loop := by
    intro need hmem
    rw [TokenPool.demands_ask, List.mem_append] at hmem
    rcases hmem with hmem | hmem
    · obtain ⟨hqueued, _⟩ := claimed.loop need hmem
      rw [seeking] at hqueued
      cases hqueued
    · cases List.mem_singleton.1 hmem
      exact ⟨rfl, rfl⟩
  drain := by
    intro id need hmem
    rw [TokenPool.demands_ask, List.mem_append] at hmem
    rcases hmem with hmem | hmem
    · exact claimed.drain id need hmem
    · cases List.mem_singleton.1 hmem

theorem Claimed.move (claimed : b.Claimed) (move : Move b b') : b'.Claimed := by
  have hfree : ∀ {phase : LoopPhase}, b.loop = phase → phase ≠ .queued → b.loop ≠ .queued :=
    fun hphase hne => hphase ▸ hne
  cases move with
  | still => exact claimed
  | stops idle =>
    have hne : b.loop ≠ .queued := by
      rcases idle with hidle | ⟨timer, hidle⟩
      · exact hfree hidle (by decide)
      · exact hfree hidle (by simp)
    exact claimed.of_demands claimed.orderly rfl rfl rfl (.inr hne)
  | queues seeking => exact claimed.queue seeking
  | draws seeking _ =>
    exact (claimed.queue seeking).strike_loop ((claimed.queue seeking).orderly.collect _)
      (TokenPool.demands_collect _ _) rfl rfl
  | withdraws _ =>
    exact claimed.strike_loop (claimed.orderly.withdraw _) (TokenPool.demands_withdraw _ _) rfl rfl
  | picksUp _ _ =>
    exact claimed.strike_loop (claimed.orderly.collect _) (TokenPool.demands_collect _ _) rfl rfl
  | returns listening =>
    exact claimed.of_demands (claimed.orderly.release 1) (TokenPool.demands_release _ _) rfl rfl
      (.inr (hfree listening (by decide)))
  | refuses pause listening =>
    exact claimed.of_demands claimed.orderly rfl rfl rfl (.inr (hfree listening (by decide)))
  | pauses pause timer reporting =>
    exact claimed.of_demands (claimed.orderly.release 1) (TokenPool.demands_release _ _) rfl rfl
      (.inr (hfree reporting (by simp)))
  | resumes timer pausing =>
    exact claimed.of_demands claimed.orderly rfl rfl rfl (.inr (hfree pausing (by simp)))
  | takes listening =>
    exact claimed.of_demands claimed.orderly rfl rfl rfl (.inr (hfree listening (by decide)))
  | ends id _ =>
    exact claimed.of_demands (claimed.orderly.release 1) (TokenPool.demands_release _ _) rfl rfl
      (.inl rfl)
  | waits id =>
    refine ⟨claimed.orderly, claimed.loop, ?_⟩
    intro k need hmem
    obtain ⟨hclaiming, hneed⟩ := claimed.drain k need hmem
    exact ⟨Roster.find?_enter_of_some hclaiming id _, hneed⟩
  | claims id waiting =>
    have new : Claimant.drain id ∉ b.pool.demands.map (·.1) := by
      intro hmem
      obtain ⟨⟨claimant, need⟩, hdemand, rfl⟩ := List.mem_map.1 hmem
      have hclaiming := (claimed.drain id need hdemand).1
      rw [waiting] at hclaiming
      cases hclaiming
    refine ⟨claimed.orderly.ask new _, ?_, ?_⟩
    · intro need hmem
      rw [TokenPool.demands_ask, List.mem_append] at hmem
      rcases hmem with hmem | hmem
      · exact claimed.loop need hmem
      · cases List.mem_singleton.1 hmem
    · intro k need hmem
      rw [TokenPool.demands_ask, List.mem_append] at hmem
      rw [Roster.find?_update]
      rcases hmem with hmem | hmem
      · obtain ⟨hclaiming, hneed⟩ := claimed.drain k need hmem
        have hne : k ≠ id := by
          rintro rfl
          rw [waiting] at hclaiming
          cases hclaiming
        rw [if_neg hne]
        exact ⟨hclaiming, hneed⟩
      · cases List.mem_singleton.1 hmem
        rw [if_pos rfl, waiting]
        exact ⟨rfl, rfl⟩
  | drains id _ _ =>
    refine claimed.strike_drain id ((claimed.orderly.collect _).release _) ?_ ?_ rfl rfl
    · rw [TokenPool.demands_release, TokenPool.demands_collect]
    · intro k hne
      rw [Roster.find?_update, if_neg hne]
  | leaves id =>
    refine claimed.strike_drain id (claimed.orderly.withdraw _) (TokenPool.demands_withdraw _ _) ?_ rfl
      rfl
    intro k hne
    rw [Roster.find?_erase, if_neg hne]

/-- Every connection that was taken has a handshake that runs, or its token came back, once. -/
def Once (b : Books) : Prop :=
  ∀ id, b.returned.count id + b.running.count id = if 1 ≤ id ∧ id ≤ b.taken then 1 else 0

theorem Once.move (once : b.Once) (move : Move b b') : b'.Once := by
  cases move with
  | takes _ =>
    intro id
    have hid := once id
    show b.returned.count id + (b.running ++ [b.taken + 1]).count id =
      if 1 ≤ id ∧ id ≤ b.taken + 1 then 1 else 0
    rw [List.count_append, List.count_singleton]
    by_cases hnew : id = b.taken + 1
    · subst hnew
      rw [if_neg (by omega)] at hid
      rw [beq_self_eq_true, if_pos rfl, if_pos (by omega)]
      omega
    · have hb : (b.taken + 1 == id) = false := by
        rw [beq_eq_false_iff_ne]
        exact Ne.symm hnew
      rw [hb, if_neg Bool.false_ne_true]
      have hiff : (1 ≤ id ∧ id ≤ b.taken + 1) ↔ (1 ≤ id ∧ id ≤ b.taken) := by omega
      rw [if_congr hiff rfl rfl]
      omega
  | ends k runs =>
    intro id
    have hid := once id
    show (k :: b.returned).count id + (b.running.filter (· != k)).count id =
      if 1 ≤ id ∧ id ≤ b.taken then 1 else 0
    have hpos : 0 < b.running.count k := List.count_pos_iff.2 runs
    by_cases hk : id = k
    · -- it ran just once, and runs no more
      subst hk
      have hgone : (b.running.filter (· != id)).count id = 0 := by
        rw [List.count_eq_zero]
        intro hmem
        have := (List.mem_filter.1 hmem).2
        simp at this
      have hle : (if 1 ≤ id ∧ id ≤ b.taken then 1 else 0) ≤ 1 := by split <;> omega
      rw [List.count_cons_self, hgone]
      omega
    · rw [List.count_cons_of_ne (Ne.symm hk), List.count_filter (by simpa using hk)]
      exact hid
  | _ => exact once

/-- A handshake that runs does so once. -/
theorem Once.count_running (once : b.Once) {id : Nat} (runs : id ∈ b.running) :
    b.running.count id = 1 := by
  have hid := once id
  have hpos : 0 < b.running.count id := List.count_pos_iff.2 runs
  split at hid
  · omega
  · omega

/-- The tokens in the pool, in the loop's hand and with handshakes are `capacity` in all. -/
def Balanced (capacity : Nat) (b : Books) : Prop :=
  b.pool.total + b.loop.inHand + b.running.length = capacity

/-- The token that the loop has waited for passes into its hand. -/
theorem Claimed.total_collect_loop (claimed : b.Claimed) (met : b.pool.isMet .loop = true) :
    (b.pool.collect .loop).total + 1 = b.pool.total := by
  have hgot : b.pool.gotBy .loop = 1 :=
    (claimed.loop _ (claimed.orderly.gotBy_of_isMet met)).2
  have htotal := b.pool.total_collect .loop
  rw [hgot] at htotal
  exact htotal

theorem Balanced.move {capacity : Nat} (balanced : Balanced capacity b) (claimed : b.Claimed)
    (once : b.Once) (move : Move b b') : Balanced capacity b' := by
  unfold Balanced at balanced ⊢
  cases move with
  | still => exact balanced
  | stops idle =>
    have hhand : b.loop.inHand = 0 := by
      rcases idle with hidle | ⟨timer, hidle⟩
      · rw [hidle]
        rfl
      · rw [hidle]
        rfl
    show b.pool.total + 0 + b.running.length = capacity
    omega
  | queues seeking =>
    rw [seeking] at balanced
    show (b.pool.ask .loop 1).total + 0 + b.running.length = capacity
    rw [TokenPool.total_ask]
    exact balanced
  | draws seeking met =>
    rw [seeking] at balanced
    have hcollect := (claimed.queue seeking).total_collect_loop met
    have hask := b.pool.total_ask .loop 1
    show ((b.pool.ask .loop 1).collect .loop).total + 1 + b.running.length = capacity
    simp only at hcollect
    rw [hcollect, hask]
    exact balanced
  | withdraws queued =>
    rw [queued] at balanced
    show (b.pool.withdraw .loop).total + 0 + b.running.length = capacity
    rw [TokenPool.total_withdraw]
    exact balanced
  | picksUp queued met =>
    rw [queued] at balanced
    have hcollect := claimed.total_collect_loop met
    show (b.pool.collect .loop).total + 1 + b.running.length = capacity
    rw [hcollect]
    exact balanced
  | returns listening =>
    rw [listening] at balanced
    show (b.pool.release 1).total + 0 + b.running.length = capacity
    rw [TokenPool.total_release]
    exact balanced
  | refuses pause listening =>
    rw [listening] at balanced
    exact balanced
  | pauses pause timer reporting =>
    rw [reporting] at balanced
    show (b.pool.release 1).total + 0 + b.running.length = capacity
    rw [TokenPool.total_release]
    exact balanced
  | resumes timer pausing =>
    rw [pausing] at balanced
    exact balanced
  | takes listening =>
    -- the token passes from the loop to the handshake
    rw [listening] at balanced
    show b.pool.total + 0 + (b.running ++ [b.taken + 1]).length = capacity
    have hhand : LoopPhase.listening.inHand = 1 := rfl
    rw [List.length_append, List.length_singleton]
    omega
  | ends id runs =>
    have hcount := once.count_running runs
    have hsplit := List.length_eq_countP_add_countP (fun k => k == id) (l := b.running)
    have hrest : (b.running.filter (· != id)).length =
        b.running.countP (fun k => decide ¬(k == id) = true) := by
      rw [List.countP_eq_length_filter]
      congr 2
      funext k
      rw [bne]
      cases k == id <;> rfl
    rw [List.count_eq_countP] at hcount
    show (b.pool.release 1).total + b.loop.inHand + (b.running.filter (· != id)).length = capacity
    rw [TokenPool.total_release, hrest]
    omega
  | waits _ => exact balanced
  | claims id _ =>
    show (b.pool.ask (.drain id) b.need).total + b.loop.inHand + b.running.length = capacity
    rw [TokenPool.total_ask]
    exact balanced
  | drains id _ met =>
    -- a claim that is met has got what it asks for, and gives just that back
    have hgot : b.pool.gotBy (.drain id) = b.need :=
      (claimed.drain id _ (claimed.orderly.gotBy_of_isMet met)).2
    have htotal := b.pool.total_collect (.drain id)
    show ((b.pool.collect (.drain id)).release b.need).total + b.loop.inHand + b.running.length =
      capacity
    rw [TokenPool.total_release, ← hgot, htotal]
    exact balanced
  | leaves id =>
    show (b.pool.withdraw (.drain id)).total + b.loop.inHand + b.running.length = capacity
    rw [TokenPool.total_withdraw]
    exact balanced

/-- The token in the loop's hand comes back once for every failure, when that has been handed over,
    and once more if the loop returns while it waits for a connection. -/
def Refunded (b : Books) : Prop :=
  b.loopReturns + (if b.loop.isReporting = true then 1 else 0) = b.refused ∨
    b.loop = .stopped ∧ b.loopReturns = b.refused + 1

theorem Refunded.move (refunded : b.Refunded) (move : Move b b') : b'.Refunded := by
  -- where the loop has not returned, only the first alternative is left
  have hruns : ∀ {phase : LoopPhase}, b.loop = phase → phase ≠ .stopped →
      b.loopReturns + (if phase.isReporting = true then 1 else 0) = b.refused := by
    rintro phase rfl hne
    rcases refunded with h | ⟨hstopped, _⟩
    · exact h
    · exact absurd hstopped hne
  have hseeking : b.loop = .seeking → b.loopReturns = b.refused :=
    fun h => hruns h (by decide)
  have hqueued : b.loop = .queued → b.loopReturns = b.refused :=
    fun h => hruns h (by decide)
  have hlistening : b.loop = .listening → b.loopReturns = b.refused :=
    fun h => hruns h (by decide)
  have hpausing : ∀ timer, b.loop = .pausing timer → b.loopReturns = b.refused :=
    fun _ h => hruns h (by simp)
  cases move with
  | stops idle =>
    rcases idle with hidle | ⟨timer, hidle⟩
    · exact .inl (hseeking hidle)
    · exact .inl (hpausing timer hidle)
  | queues seeking => exact .inl (hseeking seeking)
  | draws seeking _ => exact .inl (hseeking seeking)
  | withdraws queued => exact .inl (hqueued queued)
  | picksUp queued _ => exact .inl (hqueued queued)
  | returns listening => exact .inr ⟨rfl, congrArg (· + 1) (hlistening listening)⟩
  | refuses pause listening => exact .inl (congrArg (· + 1) (hlistening listening))
  | pauses pause timer reporting => exact .inl (hruns reporting (by simp))
  | resumes timer pausing => exact .inl (hpausing timer pausing)
  | takes listening => exact .inl (hlistening listening)
  | _ => exact refunded

/-- All of it together. -/
structure Sound (capacity : Nat) (b : Books) : Prop where
  balanced : Balanced capacity b
  claimed : b.Claimed
  once : b.Once
  refunded : b.Refunded

theorem Sound.move {capacity : Nat} (sound : Sound capacity b) (move : Move b b') :
    Sound capacity b' where
  balanced := sound.balanced.move sound.claimed sound.once move
  claimed := sound.claimed.move move
  once := sound.once.move move
  refunded := sound.refunded.move move

end Books

/-! ## Every run -/

/-- Where the tokens of a listener are. -/
structure TokensKept (capacity : Nat) (l : Listener) : Prop where
  /-- Every token is in one place. -/
  conserved : l.pool.available + l.loopTokens + l.tasks.length + l.drainTokens = capacity
  /-- So there are never more handshakes than tokens. -/
  bounded : l.tasks.length ≤ capacity
  /-- The token of every connection that was taken is with its handshake, or has come back once. -/
  once : ∀ id, l.tokensReturned.count id + l.tasks.ids.count id =
    if 1 ≤ id ∧ id ≤ l.connections then 1 else 0
  /-- So has the loop's token after every failure, once the failure has been handed over; the loop
      gives back one more if it returns while it waits for a connection. -/
  refunded : l.loopReturns + (if l.loop.isReporting = true then 1 else 0) = l.refusals.length ∨
    l.loop = .stopped ∧ l.loopReturns = l.refusals.length + 1
  /-- Tokens are granted to parties only that still wait for the listener to drain. -/
  drainers : ∀ c ∈ l.pool.claims, ∀ id, c.claimant = .drain id →
    l.drains.find? id = some .claiming

/-- The loop has a token in hand when a raw connection is taken or fails to be taken, and leaves the
    token to the handshake of the connection. -/
structure HadToken (l l' : Listener) : Prop where
  taken : l'.connections ≠ l.connections →
    l.loop = .listening ∧ l'.loop = .seeking ∧ l'.pool = l.pool ∧
      l'.connections = l.connections + 1 ∧ l'.tasks.ids = l.tasks.ids ++ [l.connections + 1]
  refused : l'.refusals.length ≠ l.refusals.length →
    l.loop = .listening ∧ l'.loop.isReporting = true ∧ l'.pool = l.pool

theorem hadToken (S : Suite) (l : Listener) (e : Event) : HadToken l (l.apply S e) := by
  have htaken : ∀ {b b' : Books}, Books.Move b b' → b'.taken ≠ b.taken →
      b.loop = .listening ∧ b'.loop = .seeking ∧ b'.pool = b.pool ∧ b'.taken = b.taken + 1 ∧
        b'.running = b.running ++ [b.taken + 1] := by
    intro b b' move hne
    cases move with
    | takes listening => exact ⟨listening, rfl, rfl, rfl, rfl⟩
    | _ => exact absurd rfl hne
  have hrefused : ∀ {b b' : Books}, Books.Move b b' → b'.refused ≠ b.refused →
      b.loop = .listening ∧ b'.loop.isReporting = true ∧ b'.pool = b.pool := by
    intro b b' move hne
    cases move with
    | refuses pause listening => exact ⟨listening, rfl, rfl⟩
    | _ => exact absurd rfl hne
  exact ⟨htaken (move_apply S l e), hrefused (move_apply S l e)⟩

/-- What the loop has been granted and what it has in hand are never two tokens. -/
theorem loopTokens_of_sound {capacity : Nat} {l : Listener}
    (sound : Books.Sound capacity l.books) :
    l.loopTokens = l.loop.inHand + l.pool.gotBy .loop := by
  have hsingle : l.pool.gotBy .loop = if l.pool.isMet .loop = true then 1 else 0 :=
    sound.claimed.orderly.gotBy_single fun need hmem => (sound.claimed.loop need hmem).2
  by_cases hqueued : l.loop = .queued
  · have hhand : l.loop.inHand = 0 := by
      rw [hqueued]
      rfl
    rw [loopTokens, hhand, hsingle]
    simp
  · -- a loop that has a token in hand is not waiting for another
    have hnone : l.pool.gotBy .loop = 0 :=
      TokenPool.gotBy_eq_zero (sound.claimed.loop_absent hqueued)
    have hunmet : ¬ l.pool.isMet .loop = true := by
      intro hmet
      rw [if_pos hmet, hnone] at hsingle
      cases hsingle
    have hhand : l.loop.inHand = 0 ∨ l.loop.inHand = 1 := by
      cases l.loop <;> simp [LoopPhase.inHand]
    rw [loopTokens, hnone]
    rcases hhand with hhand | hhand
    · simp [hhand, hunmet]
    · simp [hhand]

/-- Sound books say where the tokens are. -/
theorem tokensKept_of_sound {capacity : Nat} {l : Listener}
    (sound : Books.Sound capacity l.books) : TokensKept capacity l := by
  have hloop := loopTokens_of_sound sound
  have hsplit : l.pool.available + l.drainTokens + l.pool.gotBy .loop = l.pool.total :=
    l.pool.total_collect .loop
  have hlength : l.tasks.ids.length = l.tasks.length := List.length_map ..
  have hbalanced : l.pool.total + l.loop.inHand + l.tasks.ids.length = capacity := sound.balanced
  refine ⟨by omega, by omega, sound.once, sound.refunded, ?_⟩
  rintro c hc id hclaimant
  exact (sound.claimed.drain id c.need (hclaimant ▸ TokenPool.mem_demands hc)).1

/-- The books of a listener that has just been opened are sound. -/
theorem sound_opened (settings : ListenerSettings) (capacity : Nat)
    (socket : SocketSlot Arrival) :
    Books.Sound capacity { settings, pool := { available := capacity }, socket : Listener }.books where
  balanced := rfl
  claimed := ⟨⟨List.nodup_nil, by rintro _ ⟨⟩⟩, by rintro _ ⟨⟩, by rintro _ _ ⟨⟩⟩
  once := by
    intro id
    show 0 + 0 = if 1 ≤ id ∧ id ≤ 0 then 1 else 0
    rw [if_neg (by omega)]
  refunded := .inl rfl

/-- Tokens are conserved: a listener of any capacity that is accepted opens with all of its tokens
    in the pool, and along every run each of them is in one place, no handshake runs without one, and
    each comes back once. -/
theorem tokens_conserved (S : Suite) (identity : Identity) (capacity timeout : Nat)
    (address : SocketAddress) (accepted : checkCapacity capacity = .ok ()) :
    ∃ l₀, ofRaw identity capacity timeout (.ok address) = .ok l₀ ∧
      l₀.pool.available = capacity ∧
      ∀ events : List Event, TokensKept capacity (l₀.run S events) ∧
        ∀ e, HadToken (l₀.run S events) ((l₀.run S events).apply S e) := by
  refine ⟨{ settings := ⟨identity, capacity, timeout, address⟩
            pool := { available := capacity }
            socket := ⟨some []⟩ }, ?_, rfl, ?_⟩
  · rw [ofRaw, accepted]
  · intro events
    have start := sound_opened ⟨identity, capacity, timeout, address⟩ capacity ⟨some []⟩
    have sound := run_induction (S := S) (P := fun l => Books.Sound capacity l.books) start
      (fun l e sound => sound.move (move_apply S l e)) events
    exact ⟨tokensKept_of_sound sound, hadToken S _⟩

/-- Two tokens, of which the first goes to a handshake and the second to the loop again.  The peer
    hangs up, a call takes the failure, and with that the handshake's token comes back. -/
theorem tokens_conserved_sample :
    checkCapacity 2 = .ok () ∧
      ∃ l₀, ofRaw ⟨Octets.replicate 32 2⟩ 2 1000 (.ok ⟨.v4 ⟨127, 0, 0, 1⟩, 9735, 0⟩) = .ok l₀ ∧
        let running : List Event :=
          [.newStream 0, .arrive (.ok ⟨0, .v4 ⟨127, 0, 0, 1⟩, 40000, 0⟩), .step .loop,
            .step .loop, .step .loop]
        let ended : List Event := running ++
          [.step (.task 1), .wire 0 .hangUp, .step (.task 1), .startCall 5, .step (.call 5),
            .step (.task 1)]
        (TokensKept 2 (l₀.run .standard running) ∧
          (l₀.run .standard running).loopTokens = 1 ∧
          (l₀.run .standard running).tasks.length = 1 ∧
          (l₀.run .standard running).pool.available = 0) ∧
        TokensKept 2 (l₀.run .standard ended) ∧
          (l₀.run .standard ended).loopTokens = 1 ∧
          (l₀.run .standard ended).tasks.length = 0 ∧
          (l₀.run .standard ended).pool.available = 1 ∧
          (l₀.run .standard ended).tokensReturned = [1] := by
  refine ⟨rfl, ?_⟩
  obtain ⟨l₀, opened, _, kept⟩ := tokens_conserved .standard ⟨Octets.replicate 32 2⟩ 2 1000
    ⟨.v4 ⟨127, 0, 0, 1⟩, 9735, 0⟩ rfl
  refine ⟨l₀, opened, ?_⟩
  intro running ended
  have keptRunning := (kept running).1
  have keptEnded := (kept ended).1
  cases opened
  exact ⟨⟨keptRunning, rfl, rfl, rfl⟩, keptEnded, rfl, rfl, rfl, rfl⟩

end Listener

end Gatehouse
