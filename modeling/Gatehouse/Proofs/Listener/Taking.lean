import Gatehouse.Proofs.Listener.Winding

/-!
# Nobody stalls the accept loop

As long as the shutdown has not been fired and fewer handshakes run than there are tokens, the
accept loop has a token or gets one without anybody else's help, whatever the handshakes wait for
(`Books.met_of_room`).  So if a connection waits in the socket the loop takes it by its own steps,
and the connection's handshake starts with a token of its own (`takes_unless_full`).  When as many
handshakes run as there are tokens the loop leaves the socket alone.
-/

namespace Gatehouse

/-- Is the accept loop busy with a failure to take a connection? -/
def LoopPhase.inRefusal : LoopPhase → Bool
  | .reporting _ | .pausing _ => true
  | _ => false

namespace Listener

variable {S : Suite} {l l' : Listener} {capacity : Nat}

/-! ## A token for the loop -/

namespace Books

variable {b b' : Books}

/-- A loop that waits for a token has asked for it. -/
def InLine (b : Books) : Prop := b.loop = .queued → .loop ∈ b.pool.demands.map (·.1)

theorem InLine.move (inLine : b.InLine) (move : Move b b') : b'.InLine := by
  cases move with
  | still | waits => exact inLine
  | queues seeking =>
    intro _
    rw [TokenPool.demands_ask, List.map_append]
    exact List.mem_append_right _ List.mem_cons_self
  | ends =>
    intro queued
    rw [TokenPool.demands_release]
    exact inLine queued
  | claims id waiting =>
    intro queued
    rw [TokenPool.demands_ask, List.map_append]
    exact List.mem_append_left _ (inLine queued)
  | drains id claiming met =>
    intro queued
    rw [TokenPool.demands_release, TokenPool.demands_collect]
    exact mem_demands_filter Claimant.noConfusion (inLine queued)
  | leaves id =>
    intro queued
    rw [TokenPool.demands_withdraw]
    exact mem_demands_filter Claimant.noConfusion (inLine queued)
  | stops | draws | withdraws | picksUp | returns | refuses | pauses | resumes | takes =>
    intro queued
    cases queued

/-- If nobody waits for the listener to drain and a token is left, a loop that waits for one has got
    it. -/
theorem met_of_room (sound : Sound capacity b) (served : b.Served) (inLine : b.InLine)
    (alone : ∀ id, b.drains.find? id ≠ some .claiming) (queued : b.loop = .queued)
    (room : b.running.length < capacity) : b.pool.isMet .loop = true := by
  have own : ∀ c ∈ b.pool.claims, c.claimant = .loop ∧ c.need = 1 := by
    intro c hc
    have hdemand := TokenPool.mem_demands hc
    cases hclaimant : c.claimant with
    | loop =>
      rw [hclaimant] at hdemand
      exact ⟨rfl, (sound.claimed.loop _ hdemand).2⟩
    | drain id =>
      rw [hclaimant] at hdemand
      exact absurd (sound.claimed.drain id _ hdemand).1 (alone id)
  -- the loop's own claim is the first one, and the tokens are there
  have htotal : 1 ≤ b.pool.total := by
    have hbalanced : b.pool.total + b.loop.inHand + b.running.length = capacity := sound.balanced
    rw [queued] at hbalanced
    have hhand : LoopPhase.queued.inHand = 0 := rfl
    omega
  have asked := inLine queued
  rw [TokenPool.demands] at asked
  cases claims : b.pool.claims with
  | nil =>
    rw [claims] at asked
    cases asked
  | cons c cs =>
    have hc : c ∈ b.pool.claims := claims ▸ List.mem_cons_self
    obtain ⟨hclaimant, hneed⟩ := own c hc
    have henough : c.need ≤ c.got := served.inTurn.first_met claims (hneed ▸ htotal)
    have hgot : c.got = c.need := le_antisymm (sound.claimed.orderly.within c hc) henough
    rw [TokenPool.isMet, List.any_eq_true]
    exact ⟨c, hc, by simp [Claim.isMet, hclaimant, hgot]⟩

end Books

/-- What holds of a listener along every run: its books are in order, and a loop that waits for a
    token has asked for it. -/
structure Serviceable (capacity : Nat) (l : Listener) : Prop where
  kept : WellKept capacity l
  inLine : l.books.InLine

namespace Serviceable

theorem happens (serviceable : Serviceable capacity l) (happens : Happens S l l') :
    Serviceable capacity l' where
  kept := serviceable.kept.happens happens
  inLine := serviceable.inLine.move (move_happens happens)

theorem opened {identity : Identity} {timeout : Nat} {address : Except SystemError SocketAddress}
    (opened : ofRaw identity capacity timeout address = .ok l) : Serviceable capacity l where
  kept := wellKept_opened opened
  inLine := by
    obtain ⟨_, _, _, rfl⟩ := eq_of_opened opened
    exact LoopPhase.noConfusion

theorem running (serviceable : Serviceable capacity l) (going : l.fired = false) :
    l.loop ≠ .stopped := fun stopped =>
  absurd (going.symm.trans (serviceable.kept.patient.closed stopped).1) Bool.false_ne_true

theorem alone (serviceable : Serviceable capacity l) (going : l.fired = false) (id : Nat) :
    l.drains.find? id ≠ some .claiming := fun claiming =>
  serviceable.running going (serviceable.kept.patient.claiming id claiming)

theorem tokensKept (serviceable : Serviceable capacity l) : TokensKept capacity l :=
  tokensKept_of_sound serviceable.kept.patient.books

/-- With a token left, a loop that has none gets one by its next step. -/
theorem stepLoop_of_room (serviceable : Serviceable capacity l) (going : l.fired = false)
    (room : l.tasks.length < capacity) (looking : l.loop = .seeking ∨ l.loop = .queued) :
    ∃ pool, l.stepLoop = some { l with pool, loop := .listening } := by
  have hroom : l.books.running.length < capacity := by
    rw [show l.books.running.length = l.tasks.length from List.length_map ..]
    exact room
  have unfired : ¬ l.fired = true := Bool.eq_false_iff.1 going
  have sound := serviceable.kept.patient.books
  have served := serviceable.kept.served
  rcases looking with seeking | queued
  · have asks : Books.Move l.books
        { l.books with pool := l.books.pool.ask .loop 1, loop := .queued } := .queues seeking
    have met : (l.pool.ask .loop 1).isMet .loop = true :=
      Books.met_of_room (sound.move asks) (served.move asks) (serviceable.inLine.move asks)
        (serviceable.alone going) rfl hroom
    refine ⟨(l.pool.ask .loop 1).collect .loop, ?_⟩
    unfold Listener.stepLoop
    simp only [seeking]
    rw [if_neg unfired, if_pos met]
  · have met := Books.met_of_room sound served serviceable.inLine (serviceable.alone going) queued
      hroom
    refine ⟨l.pool.collect .loop, ?_⟩
    unfold Listener.stepLoop
    simp only [queued]
    exact (if_neg unfired).trans (if_pos met)

end Serviceable

/-! ## Steps of the loop alone -/

/-- A handshake that runs is left alone, and nothing is struck from the log. -/
structure Lasts (l l' : Listener) : Prop where
  held : ∀ id task, l.tasks.find? id = some task → l'.tasks.find? id = some task
  log : l.log <:+ l'.log

theorem Lasts.trans {l'' : Listener} (lasts : Lasts l l') (lasts' : Lasts l' l'') :
    Lasts l l'' where
  held := fun id task held => lasts'.held id task (lasts.held id task held)
  log := lasts.log.trans lasts'.log

theorem lasts_of_tasks (tasks : l'.tasks = l.tasks) (log : l.log <:+ l'.log) : Lasts l l' where
  held := by
    rw [tasks]
    exact fun _ _ held => held
  log := log

theorem lasts_stopLoop (l : Listener) : Lasts l l.stopLoop :=
  lasts_of_tasks (congrArg Core.tasks (core_closeSocket l)) (later_stopLoop l).log

theorem lasts_reportRefusal (l : Listener) (error : SystemError) :
    Lasts l (l.reportRefusal error) := by
  obtain ⟨pause, l₁, hcore, heq⟩ := reportRefusal_eq l error
  refine lasts_of_tasks ?_ (later_reportRefusal l error).log
  rw [heq]
  exact congrArg Core.tasks hcore

theorem lasts_spawnTask (l : Listener) (arrival : Arrival) : Lasts l (l.spawnTask arrival) where
  held := fun _ _ held => Roster.find?_enter_of_some held _ _
  log := List.suffix_cons _ _

theorem lasts_stepLoop (stepped : LoopStepped l l') : Lasts l l' := by
  have same : ∀ {l₁ : Listener}, l₁.tasks = l.tasks → l₁.log = l.log → Lasts l l₁ :=
    fun tasks log => lasts_of_tasks tasks (log ▸ List.suffix_rfl)
  cases stepped with
  | stops idle fired => exact lasts_stopLoop l
  | withdraws queued fired =>
    have left : Lasts l { l with pool := l.pool.withdraw .loop } := same rfl rfl
    exact left.trans (lasts_stopLoop _)
  | returns listening fired =>
    have released : Lasts l l.releaseLoopToken := lasts_of_tasks rfl (List.suffix_cons _ _)
    exact released.trans (lasts_stopLoop _)
  | refuses error socket listening going polled =>
    have answered : Lasts l { l with socket } := same rfl rfl
    exact answered.trans (lasts_reportRefusal _ error)
  | takes arrival socket listening going polled =>
    have answered : Lasts l { l with socket } := same rfl rfl
    exact answered.trans (lasts_spawnTask _ arrival)
  | pauses => exact lasts_of_tasks rfl (List.suffix_cons _ _)
  | queues | draws | picksUp | holds | resumes => exact lasts_of_tasks rfl List.suffix_rfl

namespace Scene

variable {s : Scene}

/-- So many steps of the accept loop, and nothing else. -/
def loopSteps (steps : Nat) : List Event := List.replicate steps (.listener (.step .loop))

theorem run_loopSteps_succ (S : Suite) (s : Scene) (steps : Nat) :
    s.run S (loopSteps (steps + 1)) = s.stepLoop.run S (loopSteps steps) := rfl

theorem run_loopSteps_add (S : Suite) (s : Scene) (steps more : Nat) :
    s.run S (loopSteps (steps + more)) = (s.run S (loopSteps steps)).run S (loopSteps more) := by
  rw [loopSteps, List.replicate_add, run, List.foldl_append]
  rfl

theorem lasts_stepScene (s : Scene) : Lasts s.listener s.stepLoop.listener := by
  have same : Lasts s.listener s.listener := lasts_of_tasks rfl List.suffix_rfl
  unfold stepLoop
  split
  · have answered : ∀ socket, Lasts s.listener { s.listener with socket } :=
      fun _ => lasts_of_tasks rfl List.suffix_rfl
    unfold pollSocket
    split
    · exact same
    · exact (answered _).trans (lasts_reportRefusal _ _)
    · exact (answered _).trans (lasts_spawnTask _ _)
  · split
    · exact same
    · show Lasts s.listener (s.listener.stepLoop.getD s.listener)
      cases hstep : s.listener.stepLoop with
      | none => exact same
      | some l => exact lasts_stepLoop (stepLoop_spec hstep)

theorem lasts_loopSteps (S : Suite) (s : Scene) (steps : Nat) :
    Lasts s.listener (s.run S (loopSteps steps)).listener := by
  induction steps generalizing s with
  | zero => exact lasts_of_tasks rfl List.suffix_rfl
  | succ steps ih =>
    rw [run_loopSteps_succ]
    exact (lasts_stepScene s).trans (ih s.stepLoop)

/-! ### A connection is taken -/

/-- A loop that waits for a connection takes the one that is there. -/
theorem takes_of_listening (S : Suite) (listening : s.listener.loop = .listening)
    (going : s.listener.fired = false) {arrival : Arrival} {socket : SocketSlot Arrival}
    (polled : s.listener.socket.poll = (.ready (.ok arrival), socket)) :
    ∃ steps ≤ 2, (s.run S (loopSteps steps)).listener =
      { s.listener with socket : Listener }.spawnTask arrival := by
  cases looked : s.looked with
  | true =>
    refine ⟨1, by decide, ?_⟩
    show s.stepLoop.listener = _
    unfold stepLoop pollSocket
    rw [if_pos looked, polled]
  | false =>
    refine ⟨2, by decide, ?_⟩
    show s.stepLoop.stepLoop.listener = _
    rw [stepLoop_stepLoop listening going looked]
    unfold Listener.stepLoop
    simp only [listening, going, Bool.false_eq_true, if_false, polled, Option.getD_some]

/-- With a token left a loop that is not busy with a failure takes the connection that is there. -/
theorem takes_of_room (S : Suite) (serviceable : Serviceable capacity s.listener)
    (attentive : s.Attentive) (going : s.listener.fired = false)
    (room : s.listener.tasks.length < capacity) (calm : s.listener.loop.inRefusal = false)
    {arrival : Arrival} {socket : SocketSlot Arrival}
    (polled : s.listener.socket.poll = (.ready (.ok arrival), socket)) :
    ∃ steps ≤ 3, ∃ pool, (s.run S (loopSteps steps)).listener =
      { s.listener with pool, socket, loop := .listening : Listener }.spawnTask arrival := by
  have hlooking : s.listener.loop = .seeking ∨ s.listener.loop = .queued →
      ∃ steps ≤ 3, ∃ pool, (s.run S (loopSteps steps)).listener =
        { s.listener with pool, socket, loop := .listening : Listener }.spawnTask arrival := by
    intro looking
    obtain ⟨pool, hstep⟩ := serviceable.stepLoop_of_room going room looking
    have hne : s.listener.loop ≠ .listening := by
      rcases looking with h | h
      · rw [h]
        decide
      · rw [h]
        decide
    have unseen : ¬ s.looked = true := fun looked => hne (attentive looked)
    have hfirst : s.stepLoop.listener = { s.listener with pool, loop := .listening } := by
      unfold stepLoop
      rw [if_neg unseen, if_neg fun h => hne h.1, hstep]
      rfl
    have listening : s.stepLoop.listener.loop = .listening := by rw [hfirst]
    have going' : s.stepLoop.listener.fired = false := by
      rw [hfirst]
      exact going
    have polled' : s.stepLoop.listener.socket.poll = (.ready (.ok arrival), socket) := by
      rw [hfirst]
      exact polled
    obtain ⟨steps, hsteps, htakes⟩ := takes_of_listening S listening going' polled'
    refine ⟨steps + 1, Nat.succ_le_succ hsteps, pool, ?_⟩
    rw [run_loopSteps_succ, htakes, hfirst]
  cases hloop : s.listener.loop with
  | seeking => exact hlooking (.inl hloop)
  | queued => exact hlooking (.inr hloop)
  | listening =>
    obtain ⟨steps, hsteps, htakes⟩ := takes_of_listening S hloop going polled
    refine ⟨steps, Nat.le_succ_of_le hsteps, s.listener.pool, ?_⟩
    rw [htakes, ← hloop]
  | reporting pause =>
    rw [hloop] at calm
    cases calm
  | pausing timer =>
    rw [hloop] at calm
    cases calm
  | stopped => exact absurd hloop (serviceable.running going)

/-- The next connection is taken, and nothing else happens. -/
structure Takes (capacity : Nat) (arrival : Arrival) (l l' : Listener) : Prop where
  connections : l'.connections = l.connections + 1
  /-- Its handshake starts, -/
  tasks : l'.tasks = l.tasks.enter (l.connections + 1) ⟨arrival.stream, arrival.peer, .spawned⟩
  log : l'.log = .taken (l.connections + 1) arrival.stream :: l.log
  /-- with a token of its own that was free or the loop's, -/
  token : l'.pool.available + l'.loopTokens + 1 = l.pool.available + l.loopTokens
  tokens : TokensKept capacity l'
  /-- while nobody else has done anything. -/
  socket : l'.socket = l.socket.poll.2
  handoff : l'.handoff = l.handoff
  wires : l'.wires = l.wires
  drains : l'.drains = l.drains
  now : l'.now = l.now

theorem takes_of_spawned (serviceable : Serviceable capacity l)
    (serviceable' : Serviceable capacity l') (going : l.fired = false) {arrival : Arrival}
    {pool : TokenPool} {socket : SocketSlot Arrival}
    (polled : l.socket.poll = (.ready (.ok arrival), socket))
    (spawned : l' = { l with pool, socket, loop := .listening : Listener }.spawnTask arrival) :
    Takes capacity arrival l l' := by
  have hdrains : l'.drains = l.drains := by rw [spawned]; rfl
  have hlength : l'.tasks.length = l.tasks.length + 1 := by
    rw [spawned]
    exact List.length_append
  have hnone : l.drainTokens = 0 := serviceable.kept.patient.drainTokens_eq_zero
    (serviceable.alone going)
  have hnone' : l'.drainTokens = 0 := serviceable'.kept.patient.drainTokens_eq_zero
    (by rw [hdrains]; exact serviceable.alone going)
  have htoken : l'.pool.available + l'.loopTokens + 1 = l.pool.available + l.loopTokens := by
    have hkept := serviceable.tokensKept.conserved
    have hkept' := serviceable'.tokensKept.conserved
    omega
  have htokens := serviceable'.tokensKept
  refine ⟨?_, ?_, ?_, htoken, htokens, ?_, ?_, ?_, hdrains, ?_⟩
  · rw [spawned]; rfl
  · rw [spawned]; rfl
  · rw [spawned]; rfl
  · rw [spawned, polled]; rfl
  · rw [spawned]; rfl
  · rw [spawned]; rfl
  · rw [spawned]; rfl

/-! ### No connection is taken -/

/-- When all tokens are with handshakes the loop has none. -/
theorem not_listening_of_full (serviceable : Serviceable capacity l)
    (full : l.tasks.length = capacity) : l.loop ≠ .listening := by
  intro listening
  have hbalanced : l.pool.total + l.loop.inHand + l.tasks.ids.length = capacity :=
    serviceable.kept.patient.books.balanced
  have hlength : l.tasks.ids.length = l.tasks.length := List.length_map ..
  rw [listening] at hbalanced
  have hhand : LoopPhase.listening.inHand = 1 := rfl
  omega

/-- Where the loop does not wait for a connection its steps do nothing to the handshakes. -/
theorem tasks_stepLoop_of_not_listening (stepped : LoopStepped l l')
    (elsewhere : l.loop ≠ .listening) : l'.tasks = l.tasks := by
  cases stepped with
  | stops idle fired => exact congrArg Core.tasks (core_closeSocket l)
  | withdraws queued fired =>
    exact congrArg Core.tasks (core_closeSocket { l with pool := l.pool.withdraw .loop })
  | returns listening fired => exact absurd listening elsewhere
  | refuses error socket listening going polled => exact absurd listening elsewhere
  | takes arrival socket listening going polled => exact absurd listening elsewhere
  | queues | draws | picksUp | holds | pauses | resumes => rfl

/-- No connection is taken, and as long as the shutdown has not been fired the socket is not even
    polled. -/
structure Passes (l l' : Listener) : Prop where
  connections : l'.connections = l.connections
  tasks : l'.tasks = l.tasks
  socket : l.fired = false → l'.fired = false ∧ l'.socket = l.socket

theorem Passes.refl (l : Listener) : Passes l l := ⟨rfl, rfl, fun going => ⟨going, rfl⟩⟩

theorem Passes.trans {l'' : Listener} (passes : Passes l l') (passes' : Passes l' l'') :
    Passes l l'' where
  connections := passes'.connections.trans passes.connections
  tasks := passes'.tasks.trans passes.tasks
  socket := fun going =>
    have ⟨going', same⟩ := passes.socket going
    have ⟨going'', same'⟩ := passes'.socket going'
    ⟨going'', same'.trans same⟩

theorem passes_stepLoop (serviceable : Serviceable capacity s.listener) (attentive : s.Attentive)
    (full : s.listener.tasks.length = capacity) : Passes s.listener s.stepLoop.listener := by
  have elsewhere := not_listening_of_full serviceable full
  have unseen : ¬ s.looked = true := fun looked => elsewhere (attentive looked)
  unfold stepLoop
  rw [if_neg unseen, if_neg fun h => elsewhere h.1]
  show Passes s.listener (s.listener.stepLoop.getD s.listener)
  cases hstep : s.listener.stepLoop with
  | none => exact .refl _
  | some l =>
    have stepped := stepLoop_spec hstep
    have htasks := tasks_stepLoop_of_not_listening stepped elsewhere
    rcases front_stepLoop_of_not_listening stepped (fun h => elsewhere h.1) with
      serve | ⟨fired, hfront⟩
    · exact ⟨serve.connections, htasks, fun going => ⟨serve.fired.trans going, serve.socket⟩⟩
    · exact ⟨congrArg Front.connections hfront, htasks,
        fun going => absurd (going.symm.trans fired) Bool.false_ne_true⟩

theorem passes_loopSteps (S : Suite) (serviceable : Serviceable capacity s.listener)
    (attentive : s.Attentive) (full : s.listener.tasks.length = capacity) (steps : Nat) :
    Passes s.listener (s.run S (loopSteps steps)).listener := by
  induction steps generalizing s with
  | zero => exact .refl _
  | succ steps ih =>
    have passes := passes_stepLoop serviceable attentive full
    obtain ⟨attentive', serviceable'⟩ := listener_induction (S := S) (P := Serviceable capacity)
      (fun _ _ happens serviceable => serviceable.happens happens) attentive serviceable
      (loopSteps 1)
    rw [run_loopSteps_succ]
    exact passes.trans (ih serviceable' attentive' (passes.tasks ▸ full))

/-! ### Every run -/

/-- **Nobody stalls the accept loop.**  Wherever the handshakes of a listener stand that has not
    been shut down: if fewer of them run than there are tokens, and the loop is not busy with a
    failure to take a connection, the loop's own steps take the connection that waits in the socket,
    and its handshake starts with a token of its own, within three steps and for good.  If as many
    run as there are tokens, the loop takes no connection, however many steps it takes. -/
theorem takes_unless_full (S : Suite) {identity : Identity} {timeout : Nat}
    {address : Except SystemError SocketAddress} {l₀ : Listener}
    (opened : ofRaw identity capacity timeout address = .ok l₀) (events : List Event) :
    let s := Scene.run S { listener := l₀ } events
    (s.listener.fired = false → s.listener.tasks.length < capacity →
      s.listener.loop.inRefusal = false → ∀ arrival socket,
        s.listener.socket.poll = (.ready (.ok arrival), socket) →
          ∃ steps ≤ 3, Takes capacity arrival s.listener (s.run S (loopSteps steps)).listener ∧
            ∀ more, Lasts (s.run S (loopSteps steps)).listener
              (s.run S (loopSteps (steps + more))).listener) ∧
      (s.listener.tasks.length = capacity → ∀ steps,
        Passes s.listener (s.run S (loopSteps steps)).listener) := by
  intro s
  have unseen : ({ listener := l₀ } : Scene).Attentive :=
    fun looked => absurd looked Bool.false_ne_true
  have keeps : ∀ {s : Scene} (events : List Event), s.Attentive → Serviceable capacity s.listener →
      (s.run S events).Attentive ∧ Serviceable capacity (s.run S events).listener :=
    fun events attentive serviceable => listener_induction (P := Serviceable capacity)
      (fun _ _ happens serviceable => serviceable.happens happens) attentive serviceable events
  obtain ⟨attentive, serviceable⟩ := keeps events unseen (.opened opened)
  refine ⟨fun going room calm arrival socket polled => ?_, fun full steps => ?_⟩
  · obtain ⟨steps, hsteps, pool, htakes⟩ :=
      takes_of_room S serviceable attentive going room calm polled
    refine ⟨steps, hsteps, ?_, fun more => ?_⟩
    · exact takes_of_spawned serviceable (keeps _ attentive serviceable).2 going polled htakes
    · rw [run_loopSteps_add]
      exact lasts_loopSteps S _ more
  · exact passes_loopSteps S serviceable attentive full steps

/-- One handshake waits for its peer, and the next connection gets the second token; the one after
    that has to wait. -/
theorem takes_unless_full_sample :
    ∃ l₀, ofRaw ⟨Octets.replicate 32 2⟩ 2 1000 (.ok ⟨.v4 ⟨127, 0, 0, 1⟩, 9735, 0⟩) = .ok l₀ ∧
      let arrival (k : Nat) : Arrival := ⟨k, .v4 ⟨127, 0, 0, 1⟩, 40000, 0⟩
      let loop : Event := .listener (.step .loop)
      let events : List Event :=
        [.listener (.newStream 0), .listener (.arrive (.ok (arrival 0))), loop, loop, loop,
          .listener (.step (.task 1)), .listener (.newStream 1),
          .listener (.arrive (.ok (arrival 1))), .listener (.newStream 2),
          .listener (.arrive (.ok (arrival 2)))]
      let s := Scene.run .standard { listener := l₀ } events
      let s' := s.run .standard (loopSteps 3)
      s.listener.tasks.length = 1 ∧
        (∃ steps ≤ 3, Takes 2 (arrival 1) s.listener (s.run .standard (loopSteps steps)).listener) ∧
        s'.listener.tasks.length = 2 ∧
        ∀ steps, Passes s'.listener (s'.run .standard (loopSteps steps)).listener := by
  let l₀ : Listener :=
    { settings := ⟨⟨Octets.replicate 32 2⟩, 2, 1000, ⟨.v4 ⟨127, 0, 0, 1⟩, 9735, 0⟩⟩
      pool := { available := 2 }
      socket := ⟨some []⟩ }
  have opened : ofRaw ⟨Octets.replicate 32 2⟩ 2 1000 (.ok ⟨.v4 ⟨127, 0, 0, 1⟩, 9735, 0⟩) =
      .ok l₀ := rfl
  refine ⟨l₀, opened, ?_⟩
  intro arrival loop events s s'
  have going : s.listener.fired = false := by decide +kernel
  have one : s.listener.tasks.length = 1 := by decide +kernel
  have calm : s.listener.loop.inRefusal = false := by decide +kernel
  have polled : s.listener.socket.poll = (.ready (.ok (arrival 1)), s.listener.socket.poll.2) := rfl
  obtain ⟨steps, hsteps, takes, _⟩ := (takes_unless_full .standard opened events).1 going
    (by rw [one]; decide) calm _ _ polled
  have full : s'.listener.tasks.length = 2 := by decide +kernel
  refine ⟨one, ⟨steps, hsteps, takes⟩, full, ?_⟩
  have hrun : s' = Scene.run .standard { listener := l₀ } (events ++ loopSteps 3) :=
    (List.foldl_append).symm
  rw [hrun] at full ⊢
  exact (takes_unless_full .standard opened (events ++ loopSteps 3)).2 full

end Scene

end Listener

end Gatehouse
