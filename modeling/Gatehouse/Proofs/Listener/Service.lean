import Gatehouse.Proofs.Listener.Draining

/-!
# First come, first served

The pool serves claims in the order in which they came: as long as one of them is not met, no token
is available, and nobody behind it has got any (`TokenPool.InTurn`).  So when nothing goes on in a
listener any more and all its tokens are back, the first party that waits for it to drain is ready.
It gives the tokens back, and then the next one is: at their turns all of them are done, and the
tokens are available (`Emptied.all_served`).
-/

namespace Gatehouse

/-- The party that waits for the listener to drain and has a claim. -/
def Claimant.drain? : Claimant → Option Nat
  | .loop => none
  | .drain id => some id

namespace TokenPool

/-! ## Claims are served in turn -/

/-- As long as a claim is not met, nobody behind it has got anything, and nothing is available. -/
structure InTurn (p : TokenPool) : Prop where
  behind : p.claims.Pairwise fun c d => c.got < c.need → d.got = 0
  used : ∀ c ∈ p.claims, c.got < c.need → p.available = 0

/-- With nothing to share out everything stays as it is. -/
theorem share_zero (claims : List Claim) : share claims 0 = (claims, 0) := by
  induction claims with
  | nil => rfl
  | cons c cs ih => simp only [share, Nat.zero_min, Nat.sub_zero, ih, Nat.add_zero]

/-- A claim that is not met uses up all that is shared out. -/
theorem share_short {c : Claim} {tokens : Nat}
    (short : c.got + min tokens (c.need - c.got) < c.need) :
    tokens - min tokens (c.need - c.got) = 0 := by
  omega

theorem share_rest (claims : List Claim) (tokens : Nat) :
    ∀ c ∈ (share claims tokens).1, c.got < c.need → (share claims tokens).2 = 0 := by
  induction claims generalizing tokens with
  | nil =>
    intro c hc
    cases hc
  | cons c cs ih =>
    intro d hd short
    rcases List.mem_cons.1 hd with rfl | hd
    · show (share cs (tokens - min tokens (c.need - c.got))).2 = 0
      rw [share_short short, share_zero]
    · exact ih _ d hd short

/-- Whoever is not served in full now was not served in full before. -/
theorem short_of_share {claims : List Claim} {tokens : Nat} {d : Claim}
    (hd : d ∈ (share claims tokens).1) (short : d.got < d.need) :
    ∃ c ∈ claims, c.got < c.need := by
  induction claims generalizing tokens with
  | nil => cases hd
  | cons c cs ih =>
    rcases List.mem_cons.1 hd with rfl | hd
    · have short : c.got + min tokens (c.need - c.got) < c.need := short
      exact ⟨c, List.mem_cons_self, by omega⟩
    · obtain ⟨b, hb, hshort⟩ := ih hd
      exact ⟨b, List.mem_cons_of_mem _ hb, hshort⟩

theorem share_behind {claims : List Claim}
    (behind : claims.Pairwise fun c d => c.got < c.need → d.got = 0) (tokens : Nat) :
    (share claims tokens).1.Pairwise fun c d => c.got < c.need → d.got = 0 := by
  induction claims generalizing tokens with
  | nil => exact .nil
  | cons c cs ih =>
    obtain ⟨hfirst, hrest⟩ := List.pairwise_cons.1 behind
    refine List.pairwise_cons.2 ⟨?_, ih hrest _⟩
    intro d hd (short : c.got + min tokens (c.need - c.got) < c.need)
    -- nothing is left over for those behind
    have hd : d ∈ (share cs (tokens - min tokens (c.need - c.got))).1 := hd
    rw [share_short short, share_zero] at hd
    exact hfirst d hd (by omega)

namespace InTurn

variable {p : TokenPool}

theorem release (inTurn : p.InTurn) (tokens : Nat) : (p.release tokens).InTurn where
  behind := share_behind inTurn.behind tokens
  used := by
    intro c hc short
    obtain ⟨b, hb, hshort⟩ := short_of_share hc short
    have hnone := inTurn.used b hb hshort
    have hrest := share_rest p.claims tokens c hc short
    show p.available + (share p.claims tokens).2 = 0
    omega

theorem ask (inTurn : p.InTurn) (claimant : Claimant) (need : Nat) :
    (p.ask claimant need).InTurn where
  behind := by
    refine List.pairwise_append.2 ⟨inTurn.behind, List.pairwise_singleton _ _, ?_⟩
    intro c hc d hd short
    have hnone := inTurn.used c hc short
    rw [List.mem_singleton.1 hd]
    show min p.available need = 0
    omega
  used := by
    intro c hc short
    show p.available - min p.available need = 0
    rcases List.mem_append.1 hc with hc | hc
    · have hnone := inTurn.used c hc short
      omega
    · rw [List.mem_singleton.1 hc] at short
      have short : min p.available need < need := short
      omega

theorem collect (inTurn : p.InTurn) (claimant : Claimant) : (p.collect claimant).InTurn where
  behind := inTurn.behind.filter _
  used := fun c hc => inTurn.used c (List.mem_filter.1 hc).1

theorem withdraw (inTurn : p.InTurn) (claimant : Claimant) : (p.withdraw claimant).InTurn :=
  (inTurn.collect claimant).release _

/-- When there are enough tokens for the first claim, it has got them. -/
theorem first_met (inTurn : p.InTurn) {c : Claim} {cs : List Claim} (claims : p.claims = c :: cs)
    (enough : c.need ≤ p.total) : c.need ≤ c.got := by
  by_contra hshort
  have short : c.got < c.need := by omega
  have hused : p.available = 0 := inTurn.used c (claims ▸ List.mem_cons_self) short
  have hbehind : ∀ d ∈ cs, d.got = 0 := by
    have hall := inTurn.behind
    rw [claims] at hall
    exact fun d hd => (List.pairwise_cons.1 hall).1 d hd short
  have hgranted : granted cs = 0 := by
    clear claims
    induction cs with
    | nil => rfl
    | cons d ds ih =>
      rw [granted, List.map_cons, sumOf_cons, hbehind d List.mem_cons_self]
      exact (Nat.zero_add _).trans (ih fun e he => hbehind e (List.mem_cons_of_mem _ he))
  have htotal : p.total = c.got := by
    rw [total, claims, granted, List.map_cons, sumOf_cons, hused]
    show 0 + (c.got + granted cs) = c.got
    omega
  omega

end InTurn

/-! ## Who has asked -/

/-- The parties that have asked for all tokens, in the order in which they did. -/
def askers (p : TokenPool) : List Nat := (p.demands.map (·.1)).filterMap Claimant.drain?

theorem mem_askers {p : TokenPool} {id : Nat} :
    id ∈ p.askers ↔ .drain id ∈ p.demands.map (·.1) := by
  rw [askers, List.mem_filterMap]
  constructor
  · rintro ⟨claimant, asked, heq⟩
    cases claimant with
    | loop => cases heq
    | drain k =>
      cases heq
      exact asked
  · exact fun asked => ⟨.drain id, asked, rfl⟩

theorem nodup_askers {p : TokenPool} (orderly : p.Orderly) : p.askers.Nodup := by
  refine orderly.distinct.filterMap ?_
  intro a b id ha hb
  cases a with
  | loop => cases ha
  | drain j =>
    cases b with
    | loop => cases hb
    | drain k =>
      cases ha
      cases hb
      rfl

theorem askers_release (p : TokenPool) (tokens : Nat) : (p.release tokens).askers = p.askers := by
  rw [askers, demands_release, askers]

theorem askers_ask (p : TokenPool) (id need : Nat) :
    (p.ask (.drain id) need).askers = p.askers ++ [id] := by
  rw [askers, demands_ask, List.map_append, List.filterMap_append]
  rfl

theorem askers_collect (p : TokenPool) (id : Nat) :
    (p.collect (.drain id)).askers = p.askers.filter (· != id) := by
  rw [askers, demands_collect, askers, List.filterMap_map, List.filterMap_filter,
    List.filterMap_map, List.filter_filterMap]
  congr 1
  funext demand
  obtain ⟨claimant, need⟩ := demand
  cases claimant with
  | loop => rfl
  | drain k =>
    by_cases hk : k = id
    · simp [Claimant.drain?, hk, Option.filter]
    · simp [Claimant.drain?, hk, Option.filter]

end TokenPool

namespace Listener

/-! ## The books of those who wait -/

namespace Books

variable {b b' : Books}

/-- Claims are served in turn, and a party that waits for tokens has a claim. -/
structure Served (b : Books) : Prop where
  inTurn : b.pool.InTurn
  asked : ∀ id, b.drains.find? id = some .claiming → .drain id ∈ b.pool.demands.map (·.1)

/-- A claim that is not struck out stays. -/
theorem mem_demands_filter {p : TokenPool} {claimant other : Claimant} (hne : claimant ≠ other)
    (asked : claimant ∈ p.demands.map (·.1)) :
    claimant ∈ (p.demands.filter (·.1 != other)).map (·.1) := by
  obtain ⟨demand, hdemand, rfl⟩ := List.mem_map.1 asked
  exact List.mem_map_of_mem (List.mem_filter.2 ⟨hdemand, bne_iff_ne.2 hne⟩)

theorem Served.move (served : b.Served) (move : Move b b') : b'.Served := by
  have hleaves : ∀ id, b.drains.find? id = some .claiming →
      .drain id ∈ (b.pool.demands.filter (·.1 != .loop)).map (·.1) :=
    fun id claiming => mem_demands_filter Claimant.noConfusion (served.asked id claiming)
  have hreleases : ∀ tokens id, b.drains.find? id = some .claiming →
      .drain id ∈ (b.pool.release tokens).demands.map (·.1) := by
    intro tokens id claiming
    rw [TokenPool.demands_release]
    exact served.asked id claiming
  cases move with
  | still | stops | refuses | resumes | takes => exact ⟨served.inTurn, served.asked⟩
  | queues seeking =>
    refine ⟨served.inTurn.ask _ _, fun id claiming => ?_⟩
    rw [TokenPool.demands_ask, List.map_append]
    exact List.mem_append_left _ (served.asked id claiming)
  | draws seeking met =>
    refine ⟨(served.inTurn.ask _ _).collect _, fun id claiming => ?_⟩
    rw [TokenPool.demands_collect, TokenPool.demands_ask, List.filter_append, List.map_append]
    exact List.mem_append_left _ (hleaves id claiming)
  | withdraws queued =>
    refine ⟨served.inTurn.withdraw _, fun id claiming => ?_⟩
    rw [TokenPool.demands_withdraw]
    exact hleaves id claiming
  | picksUp queued met =>
    refine ⟨served.inTurn.collect _, fun id claiming => ?_⟩
    rw [TokenPool.demands_collect]
    exact hleaves id claiming
  | returns | pauses | ends => exact ⟨served.inTurn.release _, hreleases 1⟩
  | waits k =>
    refine ⟨served.inTurn, fun id claiming => ?_⟩
    rcases Roster.find?_enter_cases claiming with hold | ⟨_, hnew⟩
    · exact served.asked id hold
    · cases hnew
  | claims k waiting =>
    refine ⟨served.inTurn.ask _ _, fun id claiming => ?_⟩
    have claiming : (b.drains.update k .claiming).find? id = some .claiming := claiming
    rw [TokenPool.demands_ask, List.map_append, List.mem_append]
    rw [Roster.find?_update] at claiming
    split at claiming
    · rename_i heq
      rw [heq]
      exact .inr (List.mem_singleton.2 rfl)
    · exact .inl (served.asked id claiming)
  | drains k holds met =>
    refine ⟨(served.inTurn.collect _).release _, fun id claiming => ?_⟩
    have claiming : (b.drains.update k .done).find? id = some .claiming := claiming
    rw [TokenPool.demands_release, TokenPool.demands_collect]
    rw [Roster.find?_update, holds] at claiming
    split at claiming
    · cases claiming
    · rename_i hne
      exact mem_demands_filter (fun h => hne (Claimant.drain.inj h)) (served.asked id claiming)
  | leaves k =>
    refine ⟨served.inTurn.withdraw _, fun id claiming => ?_⟩
    have claiming : (b.drains.erase k).find? id = some .claiming := claiming
    rw [TokenPool.demands_withdraw]
    rw [Roster.find?_erase] at claiming
    split at claiming
    · cases claiming
    · rename_i hne
      exact mem_demands_filter (fun h => hne (Claimant.drain.inj h)) (served.asked id claiming)

end Books

variable {S : Suite} {l l' : Listener} {id : Nat}

/-! ## Turns -/

theorem turn_of_none {p : Party} (fuel : Nat) (idle : l.stepParty S p = none) :
    l.turn S fuel p = l := by
  cases fuel with
  | zero => rfl
  | succ fuel => rw [turn, idle]

theorem turn_of_some {p : Party} (fuel : Nat) (step : l.stepParty S p = some l') :
    l.turn S (fuel + 1) p = l'.turn S fuel p := by
  rw [turn, step]

theorem happens_stepParty {p : Party} (step : l.stepParty S p = some l') : Happens S l l' := by
  have happens : Happens S l (l.apply S (.step p)) := .event (.step p)
  rw [apply, step] at happens
  exact happens

/-- What holds of a listener whatever happens holds after a turn. -/
theorem turn_induction {P : Listener → Prop} (step : ∀ l l', Happens S l l' → P l → P l')
    (start : P l) (fuel : Nat) (p : Party) : P (l.turn S fuel p) := by
  induction fuel generalizing l with
  | zero => exact start
  | succ fuel ih =>
    cases hstep : l.stepParty S p with
    | none =>
      rw [turn_of_none (fuel + 1) hstep]
      exact start
    | some l' =>
      rw [turn_of_some fuel hstep]
      exact ih (step l l' (happens_stepParty hstep) start)

/-! ## Those who wait, in turn -/

/-- Nothing goes on in a listener, but that parties may wait for it to drain. -/
structure Emptied (capacity taken : Nat) (l : Listener) : Prop where
  patient : Patient capacity l
  served : l.books.Served
  atRest : l.AtRest taken

namespace Emptied

variable {capacity taken : Nat}

theorem happens (emptied : Emptied capacity taken l) (happens : Happens S l l') :
    Emptied capacity taken l' where
  patient := emptied.patient.happens happens
  served := emptied.served.move (move_happens happens)
  atRest := emptied.patient.atRest_next emptied.atRest happens

theorem total (emptied : Emptied capacity taken l) : l.pool.total = capacity := by
  have hbalanced : l.pool.total + l.loop.inHand + l.tasks.ids.length = capacity :=
    emptied.patient.books.balanced
  rw [emptied.atRest.stopped, emptied.atRest.empty] at hbalanced
  exact hbalanced

theorem loop_absent (emptied : Emptied capacity taken l) :
    Claimant.loop ∉ l.pool.demands.map (·.1) := by
  refine emptied.patient.books.claimed.loop_absent ?_
  show l.loop ≠ .queued
  rw [emptied.atRest.stopped]
  decide

theorem claiming (emptied : Emptied capacity taken l) (asked : id ∈ l.pool.askers) :
    l.drains.find? id = some .claiming := by
  obtain ⟨⟨claimant, need⟩, hdemand, rfl⟩ := List.mem_map.1 (TokenPool.mem_askers.1 asked)
  exact (emptied.patient.books.claimed.drain id need hdemand).1

/-- The first of those who have asked is ready. -/
theorem met (emptied : Emptied capacity taken l) {rest : List Nat}
    (first : l.pool.askers = id :: rest) : l.pool.isMet (.drain id) = true := by
  have habsent := emptied.loop_absent
  rw [TokenPool.askers, TokenPool.demands] at first
  rw [TokenPool.demands] at habsent
  cases claims : l.pool.claims with
  | nil =>
    rw [claims] at first
    cases first
  | cons c cs =>
    have asked : c ∈ l.pool.claims := claims ▸ List.mem_cons_self
    rw [claims] at first habsent
    cases hclaimant : c.claimant with
    | loop => exact absurd (hclaimant ▸ List.mem_cons_self) habsent
    | drain k =>
      have hfirst : k = id := by
        simp only [List.map_cons, List.filterMap_cons, hclaimant, Claimant.drain?] at first
        exact (List.cons.inj first).1
      have hwhole : c.need = capacity := emptied.patient.whole asked hclaimant
      have henough := emptied.served.inTurn.first_met claims
        (hwhole.trans emptied.total.symm).le
      have hwithin := emptied.patient.books.claimed.orderly.within c asked
      have hgot : c.got = c.need := le_antisymm hwithin henough
      rw [TokenPool.isMet, List.any_eq_true]
      exact ⟨c, asked, by simp [Claim.isMet, hclaimant, hfirst, hgot]⟩

end Emptied

/-- A party whose claim is met is done at its turn. -/
theorem turn_of_met (S : Suite) (claiming : l.drains.find? id = some .claiming)
    (met : l.pool.isMet (.drain id) = true) (fuel : Nat) :
    (l.turn S (fuel + 1) (.drain id)).pool.askers = l.pool.askers.filter (· != id) ∧
      ∀ k, (l.turn S (fuel + 1) (.drain id)).drains.find? k =
        if k = id then some .done else l.drains.find? k := by
  let l' : Listener := { l with
    pool := (l.pool.collect (.drain id)).release l.drainNeed
    drains := l.drains.update id .done }.note (.drained id)
  have hstep : l.stepParty S (.drain id) = some l' := by
    show l.stepDrain id = some l'
    rw [stepDrain, claiming]
    exact if_pos met
  have hfind : ∀ k, l'.drains.find? k = if k = id then some .done else l.drains.find? k := by
    intro k
    show (l.drains.update id .done).find? k = _
    rw [Roster.find?_update, claiming]
    rfl
  have hidle : l'.stepParty S (.drain id) = none := by
    show l'.stepDrain id = none
    rw [stepDrain, hfind, if_pos rfl]
  rw [turn_of_some fuel hstep, turn_of_none fuel hidle]
  refine ⟨?_, hfind⟩
  show ((l.pool.collect (.drain id)).release l.drainNeed).askers = _
  rw [TokenPool.askers_release, TokenPool.askers_collect]

namespace Emptied

variable {capacity taken : Nat}

/-- A party that has not asked yet is done at its turn, if nobody has asked before it. -/
theorem turn_of_waiting (emptied : Emptied capacity taken l) (nobody : l.pool.askers = [])
    (waiting : l.drains.find? id = some .loopRuns) (fuel : Nat) :
    (l.turn S (fuel + 2) (.drain id)).pool.askers = [] ∧
      ∀ k, (l.turn S (fuel + 2) (.drain id)).drains.find? k =
        if k = id then some .done else l.drains.find? k := by
  let l₁ : Listener := { l with
    pool := l.pool.ask (.drain id) l.drainNeed
    drains := l.drains.update id .claiming }
  have hstep : l.stepParty S (.drain id) = some l₁ := by
    show l.stepDrain id = some l₁
    rw [stepDrain, waiting]
    exact if_pos emptied.atRest.stopped
  have emptied₁ : Emptied capacity taken l₁ := emptied.happens (happens_stepParty hstep)
  have hfirst : l₁.pool.askers = [id] := by
    show (l.pool.ask (.drain id) l.drainNeed).askers = [id]
    rw [TokenPool.askers_ask, nobody]
    rfl
  have hfind : ∀ k, l₁.drains.find? k = if k = id then some .claiming else l.drains.find? k := by
    intro k
    show (l.drains.update id .claiming).find? k = _
    rw [Roster.find?_update, waiting]
    rfl
  obtain ⟨hnobody, hdone⟩ := turn_of_met S (emptied₁.claiming (hfirst ▸ List.mem_cons_self))
    (emptied₁.met hfirst) fuel
  rw [turn_of_some (fuel + 1) hstep]
  refine ⟨?_, fun k => ?_⟩
  · rw [hnobody, hfirst]
    simp
  · rw [hdone, hfind]
    split
    · rfl
    · rfl

/-- Those who have asked are done at their turns, one after the other. -/
theorem serve_askers (emptied : Emptied capacity taken l) (fuel : Nat) {askers : List Nat}
    (asked : l.pool.askers = askers) :
    let l' := askers.foldl (fun l id => l.turn S (fuel + 1) (.drain id)) l
    Emptied capacity taken l' ∧ l'.pool.askers = [] ∧
      ∀ k, l'.drains.find? k = if k ∈ askers then some .done else l.drains.find? k := by
  induction askers generalizing l with
  | nil => exact ⟨emptied, asked, fun k => by simp⟩
  | cons id rest ih =>
    have hdistinct : l.pool.askers.Nodup :=
      TokenPool.nodup_askers emptied.patient.books.claimed.orderly
    have hclaiming := emptied.claiming (asked ▸ List.mem_cons_self)
    obtain ⟨hleft, hdone⟩ := turn_of_met S hclaiming (emptied.met asked) fuel
    have emptied' : Emptied capacity taken (l.turn S (fuel + 1) (.drain id)) :=
      turn_induction (fun _ _ happens emptied => emptied.happens happens) emptied _ _
    -- the others are still there, in the same order
    have hrest : (l.turn S (fuel + 1) (.drain id)).pool.askers = rest := by
      rw [hleft, asked]
      rw [asked, List.nodup_cons] at hdistinct
      rw [List.filter_cons_of_neg (by simp), List.filter_eq_self]
      intro k hk
      rw [bne_iff_ne]
      rintro rfl
      exact hdistinct.1 hk
    obtain ⟨hemptied, hnobody, hfind⟩ := ih emptied' hrest
    refine ⟨hemptied, hnobody, fun k => ?_⟩
    rw [List.foldl_cons, hfind, hdone]
    by_cases hk : k ∈ rest
    · simp [hk]
    · simp [hk]

/-- So are those who have not asked yet. -/
theorem serve_waiting (emptied : Emptied capacity taken l) (nobody : l.pool.askers = [])
    (fuel : Nat) {waiting : List Nat} (distinct : waiting.Nodup)
    (waits : ∀ id ∈ waiting, l.drains.find? id = some .loopRuns) :
    let l' := waiting.foldl (fun l id => l.turn S (fuel + 2) (.drain id)) l
    Emptied capacity taken l' ∧ l'.pool.askers = [] ∧
      ∀ k, l'.drains.find? k = if k ∈ waiting then some .done else l.drains.find? k := by
  induction waiting generalizing l with
  | nil => exact ⟨emptied, nobody, fun k => by simp⟩
  | cons id rest ih =>
    obtain ⟨hnew, hdistinct⟩ := List.nodup_cons.1 distinct
    obtain ⟨hnobody, hdone⟩ :=
      emptied.turn_of_waiting (S := S) nobody (waits id List.mem_cons_self) fuel
    have emptied' : Emptied capacity taken (l.turn S (fuel + 2) (.drain id)) :=
      turn_induction (fun _ _ happens emptied => emptied.happens happens) emptied _ _
    have hwaits : ∀ k ∈ rest,
        (l.turn S (fuel + 2) (.drain id)).drains.find? k = some .loopRuns := by
      intro k hk
      have hne : k ≠ id := by
        rintro rfl
        exact hnew hk
      rw [hdone, if_neg hne]
      exact waits k (List.mem_cons_of_mem _ hk)
    obtain ⟨hemptied, hleft, hfind⟩ := ih emptied' hnobody hdistinct hwaits
    refine ⟨hemptied, hleft, fun k => ?_⟩
    rw [List.foldl_cons, hfind, hdone]
    by_cases hk : k ∈ rest
    · simp [hk]
    · simp [hk]

/-- When nobody asks for tokens, all are available. -/
theorem available (emptied : Emptied capacity taken l) (nobody : l.pool.askers = []) :
    l.pool.available = capacity := by
  have hsettled : ∀ id, l.drains.find? id ≠ some .claiming := by
    intro id claiming
    have asked : id ∈ l.pool.askers := TokenPool.mem_askers.2 (emptied.served.asked id claiming)
    rw [nobody] at asked
    cases asked
  have hall := emptied.patient.available_of_atRest emptied.atRest
  rw [emptied.patient.drainTokens_eq_zero hsettled] at hall
  exact hall

/-- Everybody who waits is done at the next turn, if those who have asked come first, in the order
    in which they did; and then all tokens are available. -/
theorem all_served (S : Suite) (emptied : Emptied capacity taken l) {waiting : List Nat}
    (distinct : waiting.Nodup) (waits : ∀ id ∈ waiting, l.drains.find? id = some .loopRuns)
    {fuel : Nat} (enough : 2 ≤ fuel) :
    let l' := (l.pool.askers ++ waiting).foldl (fun l id => l.turn S fuel (.drain id)) l
    (∀ id ∈ l.pool.askers ++ waiting, l'.drains.find? id = some .done) ∧
      l'.pool.available = capacity := by
  obtain ⟨more, rfl⟩ := Nat.exists_eq_add_of_le' enough
  obtain ⟨emptied₁, nobody, hasked⟩ := emptied.serve_askers (S := S) (more + 1) rfl
  have hwaits : ∀ id ∈ waiting, ((l.pool.askers.foldl
      (fun l id => l.turn S (more + 2) (.drain id)) l).drains.find? id) = some .loopRuns := by
    intro id hid
    have hnot : id ∉ l.pool.askers := by
      intro asked
      exact absurd ((emptied.claiming asked).symm.trans (waits id hid)) (by decide)
    rw [hasked, if_neg hnot]
    exact waits id hid
  obtain ⟨emptied₂, hnobody, hfind⟩ := emptied₁.serve_waiting (S := S) nobody more distinct hwaits
  rw [List.foldl_append]
  refine ⟨fun id hid => ?_, emptied₂.available hnobody⟩
  rw [hfind]
  split
  · rfl
  · rename_i hnot
    rw [hasked, if_pos ((List.mem_append.1 hid).resolve_right hnot)]

end Emptied

end Listener

end Gatehouse
