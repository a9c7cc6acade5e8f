import Gatehouse.Proofs.Listener.Front

/-!
# Closing a listener

To close a listener is to fire the shutdown and then to close the socket, and anything may happen in
between.  The accept loop in turn looks at the shutdown and then polls the socket, and there too
anything may happen in between: it may find the socket gone, and then a failure is made up.

A scene is a listener seen so closely.  Its runs are those of the listener in which these pairs of
halves come apart; where they do not, it takes the listener's own steps (`stepLoop_stepLoop`,
`finishClose_startClose`).  What holds along its runs is that the socket goes only when the shutdown
has been fired (`Scene.Sound`), and so nobody ever hears of what was made up (`clean_close`).
-/

namespace Gatehouse

namespace SocketSlot

variable {α : Type}

/-- The failures that the socket is going to answer. -/
def failures (s : SocketSlot α) : List SystemError :=
  (s.raw.getD []).filterMap fun
    | .ready (.error e) => some e
    | _ => none

theorem mem_failures_push {s : SocketSlot α} {answer : Except SystemError α} {e : SystemError}
    (hmem : e ∈ (s.push answer).failures) : e ∈ s.failures ∨ answer = .error e := by
  obtain ⟨raw⟩ := s
  cases raw with
  | none => cases hmem
  | some answers =>
    unfold failures push at hmem
    simp only [Option.map_some, Option.getD_some, List.filterMap_append, List.mem_append] at hmem
    rcases hmem with hold | hnew
    · exact .inl hold
    · cases answer with
      | ok _ => cases hnew
      | error own => exact .inr (congrArg Except.error (List.mem_singleton.1 hnew).symm)

theorem failures_of_polled {s socket : SocketSlot α} {answer : Poll (Except SystemError α)}
    (polled : s.poll = (answer, socket)) {e : SystemError} (hmem : e ∈ socket.failures) :
    e ∈ s.failures := by
  obtain ⟨raw⟩ := s
  match raw with
  | none =>
    cases polled
    exact hmem
  | some [] =>
    cases polled
    exact hmem
  | some (first :: answers) =>
    cases polled
    show e ∈ (answer :: answers).filterMap _
    match answer with
    | .pending => exact hmem
    | .ready (.ok _) => exact hmem
    | .ready (.error _) => exact List.mem_cons_of_mem _ hmem

/-- A socket that is there answers its own failures. -/
theorem mem_failures_of_polled {s socket : SocketSlot α} {e : SystemError}
    (polled : s.poll = (.ready (.error e), socket)) (isOpen : s.isOpen = true) :
    e ∈ s.failures := by
  obtain ⟨raw⟩ := s
  match raw with
  | none => cases isOpen
  | some [] => cases polled
  | some (first :: answers) =>
    cases polled
    exact List.mem_cons_self

/-- A socket that is gone gives no connection. -/
theorem isOpen_of_polled {s socket : SocketSlot α} {a : α}
    (polled : s.poll = (.ready (.ok a), socket)) : s.isOpen = true := by
  obtain ⟨raw⟩ := s
  cases raw with
  | none => cases polled
  | some answers => rfl

end SocketSlot

namespace Listener

/-! ## Scenes -/

/-- How far a call to `close`, or the drop of the listener, has come. -/
inductive Closing
  /-- It has fired the shutdown. -/
  | triggered
  /-- It has closed the socket and returned. -/
  | returned (result : Except Failure Unit)

/-- Who may close the socket. -/
inductive Closer
  | loop
  | closing (id : Nat)

/-- A listener that is closed, seen closely. -/
structure Scene where
  listener : Listener
  /-- The calls to `close` that have begun. -/
  closings : Roster Closing := []
  /-- Has the accept loop seen that the shutdown has not been fired, and not yet polled the socket? -/
  looked : Bool := false
  /-- Those who found the socket there when they closed it, the latest first. -/
  closers : List Closer := []
  /-- How many failures have been made up for a socket that was gone. -/
  inventions : Nat := 0

namespace Scene

/-- The socket is closed, or somebody has tried to. -/
def closedBy (s : Scene) (who : Closer) (l : Listener) : Scene :=
  { s with
    listener := l
    closers := if s.listener.socket.isOpen && !l.socket.isOpen then who :: s.closers else s.closers }

/-- The accept loop polls the socket, without another look at the shutdown. -/
def pollSocket (s : Scene) : Scene :=
  match s.listener.socket.poll with
  | (.pending, _) => { s with looked := false }
  | (.ready (.error e), socket) =>
    { s with
      listener := { s.listener with socket }.reportRefusal e
      looked := false
      inventions := if s.listener.socket.isOpen then s.inventions else s.inventions + 1 }
  | (.ready (.ok arrival), socket) =>
    { s with listener := { s.listener with socket }.spawnTask arrival, looked := false }

/-- A step of the accept loop.  Where it waits for a connection it looks at the shutdown first, and
    polls the socket in a step of its own. -/
def stepLoop (s : Scene) : Scene :=
  if s.looked then s.pollSocket
  else if s.listener.loop = .listening ∧ s.listener.fired = false then { s with looked := true }
  else s.closedBy .loop (s.listener.stepLoop.getD s.listener)

/-- A call to `close` begins: it fires the shutdown. -/
def startClose (s : Scene) (id : Nat) : Scene :=
  { s with listener := s.listener.trigger, closings := s.closings.enter id .triggered }

/-- A call to `close` that has fired the shutdown closes the socket and returns. -/
def finishClose (s : Scene) (id : Nat) : Scene :=
  match s.closings.find? id with
  | some .triggered =>
    { s.closedBy (.closing id) s.listener.closeSocket with
      closings := s.closings.update id (.returned (.ok ())) }
  | _ => s

/-- What can happen in a scene. -/
inductive Event
  /-- What can happen to the listener.  The halves of a close are not among it: they come with a
      call to `close`. -/
  | listener (event : Listener.Event)
  | startClose (id : Nat)
  | finishClose (id : Nat)

/-- The scene after an event. -/
def apply (S : Suite) (s : Scene) : Event → Scene
  | .listener (.step .loop) => s.stepLoop
  | .listener .trigger => s
  | .listener .closeSocket => s
  | .listener e => { s with listener := s.listener.apply S e }
  | .startClose id => s.startClose id
  | .finishClose id => s.finishClose id

/-- The scene after a list of events. -/
def run (S : Suite) (s : Scene) (events : List Event) : Scene :=
  events.foldl (fun s e => s.apply S e) s

variable {S : Suite} {s : Scene} {id : Nat}

/-- What has nothing to do with the socket or the shutdown is the listener's. -/
theorem apply_of_serving (s : Scene) {e : Listener.Event} (serving : e.isServing = true) :
    s.apply S (.listener e) = { s with listener := s.listener.apply S e } := by
  cases e with
  | step party =>
    cases party with
    | loop => cases serving
    | _ => rfl
  | trigger => cases serving
  | closeSocket => cases serving
  | _ => rfl

/-! ### Halves that stay together -/

/-- A close that nothing comes in between of is the listener's. -/
theorem finishClose_startClose (fresh : s.closings.find? id = none) :
    ((s.startClose id).finishClose id).listener = s.listener.close := by
  have hfound : (s.closings.enter id .triggered).find? id = some .triggered := by
    rw [Roster.find?_enter _ _ _ _ fresh, if_pos rfl]
  unfold finishClose startClose
  simp only [hfound]
  rfl

/-- A look at the shutdown and a poll of the socket with nothing in between are the listener's step. -/
theorem stepLoop_stepLoop (listening : s.listener.loop = .listening)
    (going : s.listener.fired = false) (unseen : s.looked = false) :
    s.stepLoop.stepLoop.listener = s.listener.stepLoop.getD s.listener := by
  have hlook : s.stepLoop = { s with looked := true } := by
    rw [stepLoop, unseen, if_neg Bool.false_ne_true, if_pos ⟨listening, going⟩]
  have hpoll : s.stepLoop.stepLoop = { s with looked := true : Scene }.pollSocket := by
    rw [hlook]
    rfl
  rw [hpoll]
  unfold pollSocket Listener.stepLoop
  simp only [listening, going, Bool.false_eq_true, if_false]
  rcases s.listener.socket.poll with ⟨_ | (e | arrival), socket⟩ <;> rfl

/-- Seen from the front, a scene does what a listener can do. -/
theorem move_pollSocket (s : Scene) : s.listener.front.Move s.pollSocket.listener.front := by
  unfold pollSocket
  split
  · exact .serves .still
  · rename_i error socket polled
    show s.listener.front.Move ({ s.listener with socket }.reportRefusal error).front
    rw [front_reportRefusal]
    exact .refuses error socket polled
  · rename_i arrival socket polled
    exact .takes arrival socket polled

theorem move_apply (S : Suite) (s : Scene) (e : Event) :
    s.listener.front.Move (s.apply S e).listener.front := by
  cases e with
  | startClose id => exact .fires
  | finishClose id =>
    show s.listener.front.Move (s.finishClose id).listener.front
    unfold finishClose
    split
    · show s.listener.front.Move s.listener.closeSocket.front
      rw [front_closeSocket]
      exact .empties
    · exact .serves .still
  | listener e =>
    cases serving : e.isServing with
    | true =>
      rw [apply_of_serving s serving]
      exact .serves (frontServe_apply S s.listener serving)
    | false =>
      cases e with
      | step party =>
        cases party with
        | loop =>
          show s.listener.front.Move s.stepLoop.listener.front
          unfold stepLoop
          split
          · exact move_pollSocket s
          · split
            · exact .serves .still
            · cases hstep : s.listener.stepLoop with
              | none => exact .serves .still
              | some l => exact frontMove_stepLoop (stepLoop_spec hstep)
        | _ => cases serving
      | arrive answer => exact .arrives answer
      | trigger => exact .serves .still
      | closeSocket => exact .serves .still
      | _ => cases serving

/-! ### What holds along every run -/

/-- What holds of a scene in which the socket was given only failures of this kind. -/
structure Sound (Given : SystemError → Prop) (s : Scene) : Prop where
  sourced : s.listener.front.Sourced
  /-- The socket goes only when the shutdown has been fired. -/
  gone : s.listener.socket.isOpen = false → s.listener.fired = true
  /-- One party has closed it, or none. -/
  once : s.closers.length = if s.listener.socket.isOpen then 0 else 1
  begun : ∀ entry ∈ s.closings, s.listener.fired = true
  returned : ∀ id result, (id, .returned result) ∈ s.closings →
    result = .ok () ∧ s.listener.socket.isOpen = false
  /-- Nothing is made up as long as the socket is there. -/
  uninvented : s.listener.socket.isOpen = true → s.inventions = 0
  own : ∀ e ∈ s.listener.socket.failures, Given e
  /-- As long as the shutdown has not been fired, the failures that are handed over are the socket's
      own. -/
  genuine : s.listener.fired = false →
    ∀ k e, .error (.accept e) ∈ s.listener.handoff.submittedBy k → Given e
  answered : ∀ call e, (call, .error (.accept e)) ∈ s.listener.front.answers → Given e

namespace Sound

variable {Given : SystemError → Prop} {l : Listener}

theorem isOpen_of_going (sound : s.Sound Given) (going : s.listener.fired = false) :
    s.listener.socket.isOpen = true := by
  cases hopen : s.listener.socket.isOpen with
  | true => rfl
  | false => exact absurd (going.symm.trans (sound.gone hopen)) Bool.false_ne_true

/-- What calls have been answered was handed over before the shutdown was fired. -/
theorem answered_of_move (sound : s.Sound Given) {f : Front} (move : s.listener.front.Move f)
    (call : Nat) (e : SystemError) (hmem : (call, .error (.accept e)) ∈ f.answers) : Given e := by
  rcases move.answered hmem with hold | hclosed | ⟨going, held⟩
  · exact sound.answered call e hold
  · cases hclosed
  · obtain ⟨k, hk⟩ := sound.sourced.known.slotted call _ (Roster.mem_of_find? held)
    exact sound.genuine going k e hk

/-- Where the loop stands is of no concern. -/
theorem look (sound : s.Sound Given) (looked : Bool) : Sound Given { s with looked } :=
  ⟨sound.sourced, sound.gone, sound.once, sound.begun, sound.returned, sound.uninvented, sound.own,
    sound.genuine, sound.answered⟩

theorem serve (sound : s.Sound Given) (serve : s.listener.front.Serve l.front) :
    Sound Given { s with listener := l } := by
  have hsocket : l.socket = s.listener.socket := serve.socket
  have hfired : l.fired = s.listener.fired := serve.fired
  constructor
  · exact (Front.Move.serves serve).sourced sound.sourced
  · rw [hsocket, hfired]
    exact sound.gone
  · rw [hsocket]
    exact sound.once
  · rw [hfired]
    exact sound.begun
  · rw [hsocket]
    exact sound.returned
  · rw [hsocket]
    exact sound.uninvented
  · rw [hsocket]
    exact sound.own
  · rw [hfired]
    exact fun going k e hmem => sound.genuine going k e (serve.refusals hmem)
  · exact sound.answered_of_move (.serves serve)

/-- The socket is closed after the shutdown has been fired. -/
theorem close (sound : s.Sound Given) (fired : s.listener.fired = true) (who : Closer)
    (emptied : l.front = { s.listener.front with socket := ⟨none⟩ }) :
    Sound Given (s.closedBy who l) := by
  have hmove : s.listener.front.Move l.front := by
    rw [emptied]
    exact .empties
  have hsocket : l.socket = ⟨none⟩ := congrArg Front.socket emptied
  have hclosed : l.socket.isOpen = false := congrArg SocketSlot.isOpen hsocket
  have hhandoff : l.handoff = s.listener.handoff := congrArg Front.handoff emptied
  have hfired : l.fired = true := (congrArg Handoff.fired hhandoff).trans fired
  constructor
  · exact hmove.sourced sound.sourced
  · exact fun _ => hfired
  · -- whoever finds the socket there is the first
    have honce := sound.once
    show (if s.listener.socket.isOpen && !l.socket.isOpen then who :: s.closers
      else s.closers).length = if l.socket.isOpen then 0 else 1
    rw [hclosed]
    cases hopen : s.listener.socket.isOpen with
    | true =>
      rw [hopen] at honce
      exact congrArg (· + 1) honce
    | false =>
      rw [hopen] at honce
      exact honce
  · exact fun _ _ => hfired
  · exact fun id result hmem => ⟨(sound.returned id result hmem).1, hclosed⟩
  · exact fun hopen => absurd (hclosed.symm.trans hopen) Bool.false_ne_true
  · show ∀ e ∈ l.socket.failures, Given e
    rw [hsocket]
    exact fun e hmem => absurd hmem List.not_mem_nil
  · exact fun going => absurd (going.symm.trans hfired) Bool.false_ne_true
  · exact sound.answered_of_move hmove

/-- A poll that finds the socket as it was is not the one that closes it. -/
theorem closedBy_of_socket (who : Closer) (hsocket : l.socket = s.listener.socket) :
    s.closedBy who l = { s with listener := l } := by
  unfold closedBy
  rw [hsocket, Bool.and_not_self]
  rfl

/-- The socket gives a connection. -/
theorem take (sound : s.Sound Given) {arrival : Arrival} {socket : SocketSlot Arrival}
    (polled : s.listener.socket.poll = (.ready (.ok arrival), socket)) :
    Sound Given { s with listener := { s.listener with socket }.spawnTask arrival } := by
  have hmove : s.listener.front.Move ({ s.listener with socket }.spawnTask arrival).front :=
    .takes arrival socket polled
  have hopen : socket.isOpen = s.listener.socket.isOpen := by
    rw [← SocketSlot.isOpen_poll s.listener.socket, polled]
  constructor
  · exact hmove.sourced sound.sourced
  · exact hopen ▸ sound.gone
  · exact hopen ▸ sound.once
  · exact sound.begun
  · exact hopen ▸ sound.returned
  · exact hopen ▸ sound.uninvented
  · exact fun e hmem => sound.own e (SocketSlot.failures_of_polled polled hmem)
  · exact sound.genuine
  · exact sound.answered_of_move hmove

/-- The socket has failed to give a connection, or is gone. -/
theorem refuse (sound : s.Sound Given) {error : SystemError} {socket : SocketSlot Arrival}
    (polled : s.listener.socket.poll = (.ready (.error error), socket)) :
    Sound Given { s with
      listener := { s.listener with socket }.reportRefusal error
      inventions := if s.listener.socket.isOpen then s.inventions else s.inventions + 1 } := by
  have hfront := front_reportRefusal { s.listener with socket } error
  have hmove : s.listener.front.Move ({ s.listener with socket }.reportRefusal error).front := by
    rw [hfront]
    exact .refuses error socket polled
  have hsocket : ({ s.listener with socket }.reportRefusal error).socket = socket :=
    congrArg Front.socket hfront
  have hhandoff : ({ s.listener with socket }.reportRefusal error).handoff =
      s.listener.handoff.submit loopProducer (.error (.accept error)) :=
    congrArg Front.handoff hfront
  have hfired : ({ s.listener with socket }.reportRefusal error).fired = s.listener.fired := by
    rw [fired, hhandoff]
    rfl
  have hopen : socket.isOpen = s.listener.socket.isOpen := by
    rw [← SocketSlot.isOpen_poll s.listener.socket, polled]
  constructor
  · exact hmove.sourced sound.sourced
  · rw [hsocket, hfired, hopen]
    exact sound.gone
  · rw [hsocket, hopen]
    exact sound.once
  · rw [hfired]
    exact sound.begun
  · rw [hsocket, hopen]
    exact sound.returned
  · rw [hsocket, hopen]
    intro hthere
    rw [if_pos hthere]
    exact sound.uninvented hthere
  · rw [hsocket]
    exact fun e hmem => sound.own e (SocketSlot.failures_of_polled polled hmem)
  · rw [hfired, hhandoff]
    intro going k e hmem
    rw [Handoff.submittedBy_submit] at hmem
    have hown : Given error :=
      sound.own error (SocketSlot.mem_failures_of_polled polled (sound.isOpen_of_going going))
    split at hmem
    · rcases List.mem_cons.1 hmem with hnew | hold
      · cases hnew
        exact hown
      · exact sound.genuine going k e hold
    · exact sound.genuine going k e hmem
  · exact sound.answered_of_move hmove

theorem pollSocket (sound : s.Sound Given) : s.pollSocket.Sound Given := by
  unfold Scene.pollSocket
  split
  · exact sound.look false
  · exact (sound.refuse ‹_›).look false
  · exact (sound.take ‹_›).look false

theorem stepLoop (sound : s.Sound Given) : s.stepLoop.Sound Given := by
  unfold Scene.stepLoop
  split
  · exact sound.pollSocket
  · split
    · exact sound.look true
    · rename_i elsewhere
      cases hstep : s.listener.stepLoop with
      | none =>
        rw [Option.getD_none, closedBy_of_socket .loop rfl]
        exact sound
      | some l =>
        rw [Option.getD_some]
        rcases front_stepLoop_of_not_listening (stepLoop_spec hstep) elsewhere with
          serve | ⟨fired, emptied⟩
        · rw [closedBy_of_socket .loop serve.socket]
          exact sound.serve serve
        · exact sound.close fired .loop emptied

theorem startClose (sound : s.Sound Given) (id : Nat) : (s.startClose id).Sound Given := by
  have hmove : s.listener.front.Move s.listener.trigger.front := .fires
  constructor
  · exact hmove.sourced sound.sourced
  · exact fun _ => rfl
  · exact sound.once
  · exact fun _ _ => rfl
  · intro k result hmem
    rcases Roster.mem_enter.1 hmem with hold | hnew
    · exact sound.returned k result hold
    · cases hnew
  · exact sound.uninvented
  · exact sound.own
  · exact fun going => absurd going (by simp [Scene.startClose, trigger, fired, Handoff.shut])
  · exact sound.answered_of_move hmove

theorem finishClose (sound : s.Sound Given) (id : Nat) : (s.finishClose id).Sound Given := by
  unfold Scene.finishClose
  split
  · rename_i found
    have fired : s.listener.fired = true := sound.begun _ (Roster.mem_of_find? found)
    have closed := sound.close fired (.closing id) (front_closeSocket s.listener)
    have hgone : s.listener.closeSocket.socket.isOpen = false :=
      congrArg SocketSlot.isOpen (socket_closeSocket s.listener)
    refine ⟨closed.sourced, closed.gone, closed.once, ?_, ?_, closed.uninvented, closed.own,
      closed.genuine, closed.answered⟩
    · exact fun _ _ => closed.gone hgone
    · intro k result hmem
      rcases Roster.mem_of_mem_update hmem with hold | hnew
      · exact closed.returned k result hold
      · cases hnew
        exact ⟨rfl, hgone⟩
  · exact sound

/-- Whatever happens next, if the socket is given no other failures. -/
theorem apply (sound : s.Sound Given) (S : Suite) (e : Event)
    (given : ∀ error, e = .listener (.arrive (.error error)) → Given error) :
    (s.apply S e).Sound Given := by
  cases e with
  | startClose id => exact sound.startClose id
  | finishClose id => exact sound.finishClose id
  | listener e =>
    cases serving : e.isServing with
    | true =>
      rw [apply_of_serving s serving]
      exact sound.serve (frontServe_apply S s.listener serving)
    | false =>
      cases e with
      | step party =>
        cases party with
        | loop => exact sound.stepLoop
        | _ => cases serving
      | trigger => exact sound
      | closeSocket => exact sound
      | arrive answer =>
        have hmove : s.listener.front.Move (s.listener.apply S (.arrive answer)).front :=
          .arrives answer
        have hopen : (s.listener.socket.push answer).isOpen = s.listener.socket.isOpen :=
          SocketSlot.isOpen_push _ _
        refine ⟨hmove.sourced sound.sourced, hopen ▸ sound.gone, hopen ▸ sound.once, sound.begun,
          hopen ▸ sound.returned, hopen ▸ sound.uninvented, ?_, sound.genuine,
          sound.answered_of_move hmove⟩
        intro error hmem
        rcases SocketSlot.mem_failures_push hmem with hold | hnew
        · exact sound.own error hold
        · exact given error (by rw [hnew])
      | _ => cases serving

theorem run (sound : s.Sound Given) (S : Suite) (events : List Event)
    (given : ∀ error, .listener (.arrive (.error error)) ∈ events → Given error) :
    (s.run S events).Sound Given := by
  induction events generalizing s with
  | nil => exact sound
  | cons e events ih =>
    have next : (s.apply S e).Sound Given :=
      sound.apply S e fun error he => given error (he ▸ List.mem_cons_self)
    exact ih next fun error hmem => given error (List.mem_cons_of_mem e hmem)

/-- A listener that has just been opened. -/
theorem opened {identity : Identity} {capacity timeout : Nat}
    {address : Except SystemError SocketAddress} {l₀ : Listener}
    (opened : ofRaw identity capacity timeout address = .ok l₀) :
    Sound Given { listener := l₀ } := by
  have hfront := front_opened opened
  have hsocket : l₀.socket = ⟨some []⟩ := congrArg Front.socket hfront
  have hopen : l₀.socket.isOpen = true := congrArg SocketSlot.isOpen hsocket
  refine ⟨sourced_opened opened, ?_, ?_, ?_, ?_, fun _ => rfl, ?_, ?_, ?_⟩
  · exact fun hgone => absurd (hopen.symm.trans hgone) Bool.noConfusion
  · exact (if_pos hopen).symm
  · exact fun _ hmem => absurd hmem List.not_mem_nil
  · exact fun _ _ hmem => absurd hmem List.not_mem_nil
  · show ∀ e ∈ l₀.socket.failures, Given e
    rw [hsocket]
    exact fun _ hmem => absurd hmem List.not_mem_nil
  · intro _ k e hmem
    have hhandoff : l₀.handoff = {} := congrArg Front.handoff hfront
    rw [hhandoff] at hmem
    cases hmem
  · intro call e hmem
    rw [hfront] at hmem
    cases hmem

end Sound

/-! ### When the socket is gone -/

/-- The socket is gone, and nothing has been taken since. -/
def Untaken (l l' : Listener) : Prop :=
  l'.socket.isOpen = false ∧ l'.connections = l.connections

theorem untaken_of_serve {l l' : Listener} (gone : l.socket.isOpen = false)
    (serve : l.front.Serve l'.front) : Untaken l l' := by
  have hsocket : l'.socket = l.socket := serve.socket
  exact ⟨hsocket ▸ gone, serve.connections⟩

theorem untaken_of_emptied {l l' : Listener}
    (emptied : l'.front = { l.front with socket := ⟨none⟩ }) : Untaken l l' := by
  have hsocket : l'.socket = ⟨none⟩ := congrArg Front.socket emptied
  exact ⟨congrArg SocketSlot.isOpen hsocket, congrArg Front.connections emptied⟩

/-- All that a poll finds where the socket has been is a failure. -/
theorem untaken_pollSocket (gone : s.listener.socket.isOpen = false) :
    Untaken s.listener s.pollSocket.listener := by
  unfold pollSocket
  split
  · exact ⟨gone, rfl⟩
  · rename_i error socket polled
    have hfront := front_reportRefusal { s.listener with socket } error
    have hsocket : ({ s.listener with socket }.reportRefusal error).socket = socket :=
      congrArg Front.socket hfront
    have hsame : socket.isOpen = s.listener.socket.isOpen := by
      rw [← SocketSlot.isOpen_poll s.listener.socket, polled]
    have hgone : ({ s.listener with socket }.reportRefusal error).socket.isOpen = false := by
      rw [hsocket, hsame, gone]
    exact ⟨hgone, congrArg Front.connections hfront⟩
  · rename_i polled
    exact absurd (gone.symm.trans (SocketSlot.isOpen_of_polled polled)) Bool.noConfusion

theorem untaken_stepLoop (gone : s.listener.socket.isOpen = false) :
    Untaken s.listener s.stepLoop.listener := by
  unfold stepLoop
  split
  · exact untaken_pollSocket gone
  · split
    · exact ⟨gone, rfl⟩
    · rename_i elsewhere
      cases hstep : s.listener.stepLoop with
      | none => exact ⟨gone, rfl⟩
      | some l =>
        rcases front_stepLoop_of_not_listening (stepLoop_spec hstep) elsewhere with
          serve | ⟨_, emptied⟩
        · exact untaken_of_serve gone serve
        · exact untaken_of_emptied emptied

/-- A socket that is gone stays so, and nothing is taken from it. -/
theorem untaken_apply (S : Suite) (gone : s.listener.socket.isOpen = false) (e : Event) :
    Untaken s.listener (s.apply S e).listener := by
  cases e with
  | startClose id => exact ⟨gone, rfl⟩
  | finishClose id =>
    show Untaken s.listener (s.finishClose id).listener
    unfold finishClose
    split
    · exact untaken_of_emptied (front_closeSocket s.listener)
    · exact ⟨gone, rfl⟩
  | listener e =>
    cases serving : e.isServing with
    | true =>
      rw [apply_of_serving s serving]
      exact untaken_of_serve gone (frontServe_apply S s.listener serving)
    | false =>
      cases e with
      | step party =>
        cases party with
        | loop => exact untaken_stepLoop gone
        | _ => cases serving
      | arrive answer => exact ⟨(SocketSlot.isOpen_push s.listener.socket answer).trans gone, rfl⟩
      | trigger => exact ⟨gone, rfl⟩
      | closeSocket => exact ⟨gone, rfl⟩
      | _ => cases serving

theorem connections_run (S : Suite) (gone : s.listener.socket.isOpen = false)
    (events : List Event) : (s.run S events).listener.connections = s.listener.connections := by
  induction events generalizing s with
  | nil => rfl
  | cons e events ih =>
    obtain ⟨gone', hconnections⟩ := untaken_apply S gone e
    exact (ih gone').trans hconnections

/-! ### Clean closing -/

/-- What there is to say about closing after these events. -/
structure CleanlyClosed (S : Suite) (events : List Event) (s : Scene) : Prop where
  /-- The socket goes only when the shutdown has been fired. -/
  fired : s.listener.socket.isOpen = false → s.listener.fired = true
  /-- Exactly one party has closed it, or it is there and none has. -/
  once : s.closers.length = if s.listener.socket.isOpen then 0 else 1
  /-- A call to `close` that has returned has succeeded, and by then the socket is gone. -/
  returned : ∀ id result, s.closings.find? id = some (.returned result) →
    result = .ok () ∧ s.listener.socket.isOpen = false
  /-- One that has begun returns with its next step. -/
  returns : ∀ id, s.closings.find? id = some .triggered →
    (s.apply S (.finishClose id)).closings.find? id = some (.returned (.ok ()))
  /-- When the socket is gone no raw connection is taken any more. -/
  untaken : s.listener.socket.isOpen = false →
    ∀ more, (s.run S more).listener.connections = s.listener.connections
  /-- Once the shutdown has been fired, every call fails at its next turn, because the listener is
      closed. -/
  calls : s.listener.fired = true →
    ∀ call consumer, s.listener.handoff.consumers.find? call = some consumer →
      (s.apply S (.listener (.step (.call call)))).listener.front.answers =
        (call, .error .closed) :: s.listener.front.answers
  /-- A failure is made up only when the shutdown has been fired, and then calls hear of nothing but
      that the listener is closed, whatever happens. -/
  invented : s.inventions ≠ 0 → s.listener.fired = true ∧
    ∀ e call outcome, (call, outcome) ∈ (s.apply S e).listener.front.answers →
      (call, outcome) ∈ s.listener.front.answers ∨ outcome = .error .closed
  /-- The failures to take a connection that calls were given are those that the socket answered. -/
  genuine : ∀ call error, (call, .error (.accept error)) ∈ s.listener.front.answers →
    .listener (.arrive (.error error)) ∈ events

/-- **Closing is clean.**  Whatever comes between the two halves of any number of closes, and between
    the accept loop's look at the shutdown and its poll of the socket: every close succeeds, one
    party closes the socket, after that nothing is taken from it, and no call is ever given a failure
    that was made up for a socket that was gone. -/
theorem clean_close (S : Suite) {identity : Identity} {capacity timeout : Nat}
    {address : Except SystemError SocketAddress} {l₀ : Listener}
    (opened : ofRaw identity capacity timeout address = .ok l₀) (events : List Event) :
    CleanlyClosed S events (run S { listener := l₀ } events) := by
  have sound : (run S { listener := l₀ } events).Sound
      fun error => .listener (.arrive (.error error)) ∈ events :=
    (Sound.opened opened).run S events fun _ hmem => hmem
  generalize run S { listener := l₀ } events = s at sound
  refine ⟨sound.gone, sound.once, ?_, ?_, ?_, ?_, ?_, sound.answered⟩
  · exact fun id result found => sound.returned id result (Roster.mem_of_find? found)
  · intro id found
    show (s.finishClose id).closings.find? id = _
    unfold finishClose
    rw [found]
    show (s.closings.update id (.returned (.ok ()))).find? id = _
    rw [Roster.find?_update, if_pos rfl, found]
    rfl
  · exact fun gone more => connections_run S gone more
  · intro fired call consumer held
    obtain ⟨l, hstep, hanswers⟩ := stepCall_of_fired fired held
    have happly : (s.apply S (.listener (.step (.call call)))).listener = l := by
      show (s.listener.stepCall call).getD s.listener = l
      rw [hstep]
      rfl
    rw [happly]
    exact hanswers
  · intro hinvented
    have fired : s.listener.fired = true := by
      refine sound.gone ?_
      cases hopen : s.listener.socket.isOpen with
      | true => exact absurd (sound.uninvented hopen) hinvented
      | false => rfl
    refine ⟨fired, fun e call outcome hmem => ?_⟩
    rcases (move_apply S s e).answered hmem with hold | hclosed | ⟨going, _⟩
    · exact .inl hold
    · exact .inr hclosed
    · exact absurd (going.symm.trans fired) Bool.false_ne_true

/-- Two closes come between the accept loop's look at the shutdown and its poll of the socket.  A
    failure is made up, and the call that waits learns that the listener is closed. -/
theorem clean_close_sample :
    ∃ l₀, ofRaw ⟨Octets.replicate 32 2⟩ 1 1000 (.ok ⟨.v4 ⟨127, 0, 0, 1⟩, 9735, 0⟩) = .ok l₀ ∧
      let events : List Event :=
        [.listener (.step .loop), .listener (.startCall 0), .listener (.step (.call 0)),
          .listener (.step .loop), .startClose 0, .startClose 1, .finishClose 1, .finishClose 0,
          .listener (.step .loop), .listener (.step (.call 0)), .listener (.step .loop)]
      let s := run .standard { listener := l₀ } events
      CleanlyClosed .standard events s ∧ s.inventions = 1 ∧
        s.listener.front.answers = [(0, .error .closed)] ∧
        s.closings.find? 0 = some (.returned (.ok ())) ∧ s.closers = [.closing 1] :=
  have opened : ofRaw ⟨Octets.replicate 32 2⟩ 1 1000 (.ok ⟨.v4 ⟨127, 0, 0, 1⟩, 9735, 0⟩) =
      .ok _ := rfl
  ⟨_, opened, clean_close .standard opened _, rfl, rfl, rfl, rfl⟩

end Scene

end Listener

end Gatehouse
