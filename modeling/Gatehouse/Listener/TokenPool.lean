import Gatehouse.Sum

/-!
# The token pool

Tokens bound how many handshakes run at a time.  Whoever asks for tokens takes what is there and
waits for the rest; tokens that come back go to those who wait, in the order in which they came, and
only what nobody waits for is available.

Main statement: tokens change hands, but none is lost (`total_release`, `total_ask`, `total_collect`).
-/

namespace Gatehouse

/-- Who asks for tokens. -/
inductive Claimant
  /-- The accept loop, for one token. -/
  | loop
  /-- A party that waits for the listener to drain, for all tokens. -/
  | drain (id : Nat)
deriving DecidableEq, Repr

/-- A claim on tokens that is not settled. -/
structure Claim where
  claimant : Claimant
  /-- How many tokens it asks for. -/
  need : Nat
  /-- How many of them it has got. -/
  got : Nat
deriving DecidableEq, Repr

/-- Does a claim have all that it asks for? -/
def Claim.isMet (c : Claim) : Bool := c.got == c.need

/-- The tokens that nobody holds, and the claims in the order in which they came. -/
structure TokenPool where
  available : Nat
  claims : List Claim := []
deriving DecidableEq, Repr

namespace TokenPool

/-- The most tokens that a pool can hold. -/
def largest : Nat := Nat.pow 2 61 - 1

/-- The most tokens that one claim can ask for: its count is a number of 32 bits. -/
def largestClaim : Nat := UInt32.size - 1

/-- Share tokens out over claims, the earliest first: the claims, and what is left over. -/
def share : List Claim → (tokens : Nat) → List Claim × Nat
  | [], tokens => ([], tokens)
  | c :: cs, tokens =>
    let part := min tokens (c.need - c.got)
    let (cs, rest) := share cs (tokens - part)
    ({ c with got := c.got + part } :: cs, rest)

/-- Tokens come back. -/
def release (p : TokenPool) (tokens : Nat) : TokenPool :=
  let (claims, rest) := share p.claims tokens
  -- something is left over only if every claim has been met
  { available := p.available + rest, claims }

/-- Ask for tokens: what is available is taken at once. -/
def ask (p : TokenPool) (claimant : Claimant) (need : Nat) : TokenPool :=
  let part := min p.available need
  { available := p.available - part, claims := p.claims ++ [⟨claimant, need, part⟩] }

/-- Has somebody's claim been met? -/
def isMet (p : TokenPool) (claimant : Claimant) : Bool :=
  p.claims.any fun c => c.claimant == claimant && c.isMet

/-- Strike out somebody's claim, and keep the tokens it has got. -/
def collect (p : TokenPool) (claimant : Claimant) : TokenPool :=
  { p with claims := p.claims.filter (·.claimant != claimant) }

/-- How many tokens somebody's claim has got. -/
def gotBy (p : TokenPool) (claimant : Claimant) : Nat :=
  sumOf ((p.claims.filter (·.claimant == claimant)).map (·.got))

/-- Give up somebody's claim: the tokens it has got come back. -/
def withdraw (p : TokenPool) (claimant : Claimant) : TokenPool :=
  (p.collect claimant).release (p.gotBy claimant)

/-! ## No token is lost -/

/-- The tokens that claims have got. -/
def granted (claims : List Claim) : Nat := sumOf (claims.map (·.got))

/-- The tokens that the pool knows of: those nobody holds, and those that open claims have got. -/
def total (p : TokenPool) : Nat := p.available + granted p.claims

/-- Sharing out only moves tokens. -/
theorem granted_share (claims : List Claim) (tokens : Nat) :
    granted (share claims tokens).1 + (share claims tokens).2 = granted claims + tokens := by
  induction claims generalizing tokens with
  | nil => simp [share]
  | cons c cs ih =>
    have ih := ih (tokens - min tokens (c.need - c.got))
    simp only [granted, share, List.map_cons, sumOf_cons] at ih ⊢
    omega

theorem total_release (p : TokenPool) (tokens : Nat) :
    (p.release tokens).total = p.total + tokens := by
  have := granted_share p.claims tokens
  simp only [total, release]
  omega

theorem total_ask (p : TokenPool) (claimant : Claimant) (need : Nat) :
    (p.ask claimant need).total = p.total := by
  simp only [total, ask, granted, List.map_append, sumOf_append, List.map_cons, List.map_nil,
    sumOf_cons, sumOf_nil]
  omega

/-- Whoever collects takes away just what the claim has got. -/
theorem total_collect (p : TokenPool) (claimant : Claimant) :
    (p.collect claimant).total + p.gotBy claimant = p.total := by
  have split : ∀ claims : List Claim,
      granted (claims.filter (·.claimant != claimant))
        + sumOf ((claims.filter (·.claimant == claimant)).map (·.got)) = granted claims := by
    intro claims
    induction claims with
    | nil => rfl
    | cons c cs ih =>
      by_cases h : c.claimant = claimant
      · have hb : (c.claimant == claimant) = true := by simpa using h
        simp only [granted, List.filter_cons, bne, hb, Bool.not_true, Bool.false_eq_true, if_false,
          if_true, List.map_cons, sumOf_cons] at ih ⊢
        omega
      · have hb : (c.claimant == claimant) = false := by simpa using h
        simp only [granted, List.filter_cons, bne, hb, Bool.not_false, Bool.false_eq_true, if_false,
          if_true, List.map_cons, sumOf_cons] at ih ⊢
        omega
  have := split p.claims
  simp only [total, collect, gotBy]
  omega

theorem total_withdraw (p : TokenPool) (claimant : Claimant) :
    (p.withdraw claimant).total = p.total := by
  rw [withdraw, total_release]
  exact total_collect p claimant

end TokenPool

/-- The largest capacity of a listener: its pool has to hold all tokens, and one claim has to be able
    to ask for all of them. -/
def maxCapacity : Nat := min TokenPool.largest TokenPool.largestClaim

theorem maxCapacity_eq : maxCapacity = 4294967295 := rfl

end Gatehouse
