import Gatehouse.Listener.TokenPool
import Mathlib.Data.List.Nodup

/-!
# Claims on tokens

Tokens that are shared out change what the claims have got, but not who asks for how much
(`demands`).  In a pool in good order nobody asks twice and no claim gets more than it asks for, so
that a claim that is met has got exactly what it asks for.
-/

namespace Gatehouse.TokenPool

/-- Who asks for how many tokens, in the order in which they came. -/
def demands (p : TokenPool) : List (Claimant × Nat) := p.claims.map fun c => (c.claimant, c.need)

/-- Nobody has two claims, and none has got more than it asks for. -/
structure Orderly (p : TokenPool) : Prop where
  distinct : (p.demands.map (·.1)).Nodup
  within : ∀ c ∈ p.claims, c.got ≤ c.need

/-! ## What the operations do to the demands -/

theorem share_demands (claims : List Claim) (tokens : Nat) :
    (share claims tokens).1.map (fun c => (c.claimant, c.need)) =
      claims.map fun c => (c.claimant, c.need) := by
  induction claims generalizing tokens with
  | nil => rfl
  | cons c cs ih => simp only [share, List.map_cons, ih]

@[simp] theorem demands_release (p : TokenPool) (tokens : Nat) :
    (p.release tokens).demands = p.demands :=
  share_demands p.claims tokens

@[simp] theorem demands_ask (p : TokenPool) (claimant : Claimant) (need : Nat) :
    (p.ask claimant need).demands = p.demands ++ [(claimant, need)] := by
  simp [demands, ask]

@[simp] theorem demands_collect (p : TokenPool) (claimant : Claimant) :
    (p.collect claimant).demands = p.demands.filter (·.1 != claimant) := by
  rw [demands, demands, collect, List.filter_map]
  rfl

@[simp] theorem demands_withdraw (p : TokenPool) (claimant : Claimant) :
    (p.withdraw claimant).demands = p.demands.filter (·.1 != claimant) := by
  rw [withdraw, demands_release, demands_collect]

theorem mem_demands {p : TokenPool} {c : Claim} (hc : c ∈ p.claims) :
    (c.claimant, c.need) ∈ p.demands :=
  List.mem_map_of_mem hc

/-! ## Good order is kept -/

/-- Sharing out stops at what a claim asks for. -/
theorem share_within {claims : List Claim} (within : ∀ c ∈ claims, c.got ≤ c.need) (tokens : Nat) :
    ∀ c ∈ (share claims tokens).1, c.got ≤ c.need := by
  induction claims generalizing tokens with
  | nil =>
    intro c hc
    cases hc
  | cons c cs ih =>
    intro d hd
    rcases List.mem_cons.1 hd with rfl | hd
    · have hgot := within c (List.mem_cons_self ..)
      show c.got + min tokens (c.need - c.got) ≤ c.need
      omega
    · exact ih (fun e he => within e (List.mem_cons_of_mem _ he)) _ d hd

theorem Orderly.release {p : TokenPool} (ord : p.Orderly) (tokens : Nat) :
    (p.release tokens).Orderly where
  distinct := by
    rw [demands_release]
    exact ord.distinct
  within := share_within ord.within tokens

theorem Orderly.ask {p : TokenPool} (ord : p.Orderly) {claimant : Claimant}
    (new : claimant ∉ p.demands.map (·.1)) (need : Nat) : (p.ask claimant need).Orderly where
  distinct := by
    rw [demands_ask, List.map_append, List.nodup_append]
    refine ⟨ord.distinct, List.nodup_singleton _, ?_⟩
    intro x hx y hy
    rw [List.map_singleton, List.mem_singleton] at hy
    subst hy
    rintro rfl
    exact new hx
  within := by
    intro c hc
    rcases List.mem_append.1 hc with hc | hc
    · exact ord.within c hc
    · rw [List.mem_singleton.1 hc]
      exact Nat.min_le_right _ _

theorem Orderly.collect {p : TokenPool} (ord : p.Orderly) (claimant : Claimant) :
    (p.collect claimant).Orderly where
  distinct := by
    rw [demands_collect]
    exact ord.distinct.sublist (List.filter_sublist.map _)
  within := fun c hc => ord.within c (List.mem_filter.1 hc).1

theorem Orderly.withdraw {p : TokenPool} (ord : p.Orderly) (claimant : Claimant) :
    (p.withdraw claimant).Orderly :=
  (ord.collect claimant).release _

/-! ## What a claim has got -/

/-- With nobody asking twice, the claim of a claimant is all that it has. -/
theorem Orderly.gotBy_eq {p : TokenPool} (ord : p.Orderly) {c : Claim} (hc : c ∈ p.claims) :
    p.gotBy c.claimant = c.got := by
  have distinct : ∀ claims : List Claim, (claims.map (·.claimant)).Nodup → c ∈ claims →
      claims.filter (·.claimant == c.claimant) = [c] := by
    intro claims
    induction claims with
    | nil =>
      intro _ hc
      cases hc
    | cons d ds ih =>
      intro nodup hc
      rw [List.map_cons, List.nodup_cons] at nodup
      rcases List.mem_cons.1 hc with rfl | hc
      · -- nobody behind asks again
        have hnone : ds.filter (·.claimant == c.claimant) = [] := by
          rw [List.filter_eq_nil_iff]
          intro e he heq
          exact nodup.1 (List.mem_map.2 ⟨e, he, by simpa using heq⟩)
        rw [List.filter_cons_of_pos (by simp), hnone]
      · have hne : d.claimant ≠ c.claimant := by
          intro heq
          exact nodup.1 (heq ▸ List.mem_map_of_mem hc)
        rw [List.filter_cons_of_neg (by simpa using hne)]
        exact ih nodup.2 hc
  have hmap : p.demands.map (·.1) = p.claims.map (·.claimant) := by
    rw [demands, List.map_map]
    rfl
  rw [gotBy, distinct p.claims (hmap ▸ ord.distinct) hc]
  simp

/-- Whoever asks for nothing has got nothing. -/
theorem gotBy_eq_zero {p : TokenPool} {claimant : Claimant}
    (none : claimant ∉ p.demands.map (·.1)) : p.gotBy claimant = 0 := by
  have hfilter : p.claims.filter (·.claimant == claimant) = [] := by
    rw [List.filter_eq_nil_iff]
    intro c hc heq
    have : c.claimant = claimant := by simpa using heq
    exact none (List.mem_map.2 ⟨_, mem_demands hc, this⟩)
  rw [gotBy, hfilter]
  rfl

/-- A claim that is met has got what it asks for. -/
theorem Orderly.gotBy_of_isMet {p : TokenPool} (ord : p.Orderly) {claimant : Claimant}
    (met : p.isMet claimant = true) : (claimant, p.gotBy claimant) ∈ p.demands := by
  obtain ⟨c, hc, hmet⟩ := List.any_eq_true.1 met
  simp only [Claim.isMet, Bool.and_eq_true, beq_iff_eq] at hmet
  obtain ⟨rfl, hgot⟩ := hmet
  rw [ord.gotBy_eq hc, hgot]
  exact mem_demands hc

/-- A claimant that asks for one token has got one just if its claim is met. -/
theorem Orderly.gotBy_single {p : TokenPool} (ord : p.Orderly) {claimant : Claimant}
    (single : ∀ need, (claimant, need) ∈ p.demands → need = 1) :
    p.gotBy claimant = if p.isMet claimant = true then 1 else 0 := by
  by_cases met : p.isMet claimant = true
  · rw [if_pos met]
    exact single _ (ord.gotBy_of_isMet met)
  · rw [if_neg met]
    by_cases asks : claimant ∈ p.demands.map (·.1)
    · -- the claim is there, and a single token would meet it
      obtain ⟨demand, hdemand, rfl⟩ := List.mem_map.1 asks
      obtain ⟨c, hc, rfl⟩ := List.mem_map.1 hdemand
      have hneed : c.need = 1 := single _ (mem_demands hc)
      have hgot : c.got ≤ c.need := ord.within c hc
      have hunmet : c.got ≠ c.need := by
        intro heq
        exact met (List.any_eq_true.2 ⟨c, hc, by simp [Claim.isMet, heq]⟩)
      rw [ord.gotBy_eq hc]
      omega
    · exact gotBy_eq_zero asks

end Gatehouse.TokenPool
