import Gatehouse.Backoff
import Mathlib.Algebra.Group.Nat.Defs
import Mathlib.Data.List.Forall2
import Mathlib.Order.Monotone.Defs
import Mathlib.Order.Nat

/-!
# Pauses that double

The pause after the `k`-th failure in a row is said over the natural numbers (`cap`), where nothing
saturates, and the words of the program come to the same: the counter stops at its largest value
long after the shift has stopped growing, and a product that does not fit is above every limit
(`toNat_capped`).  From this one failure is known (`Decided`).  Back-offs are cloned and go on apart,
drawing from one supply of random numbers; what has happened to each is its life (`lives`), which a
clone takes over.  Every step keeps the counts (`Reflects.step`), and a run is answered by the law
(`Lawful`).
-/

namespace Gatehouse

namespace Backoff

/-! ## One failure, over the natural numbers -/

/-- The pause after the `k`-th failure in a row, without jitter. -/
def cap (base limit k : Nat) : Nat := min (base * 2 ^ min (k - 1) 32) limit

theorem cap_le_limit (base limit k : Nat) : cap base limit k ≤ limit := Nat.min_le_right _ _

theorem cap_le_cap {base limit k k' : Nat} (h : k ≤ k') :
    cap base limit k ≤ cap base limit k' := by
  have hexponent : min (k - 1) 32 ≤ min (k' - 1) 32 := by omega
  have hpower : 2 ^ min (k - 1) 32 ≤ 2 ^ min (k' - 1) 32 := Nat.pow_le_pow_right (by omega) hexponent
  have hproduct := Nat.mul_le_mul_left base hpower
  unfold cap
  omega

/-- A number of milliseconds, if a word can hold it. -/
def held (n : Nat) : Option Nat := if n < 2 ^ 64 then some n else none

theorem map_checkedAdd (a b : UInt64) :
    (checkedAdd a b).map UInt64.toNat = held (a.toNat + b.toNat) := by
  have hsize : UInt64.size = 2 ^ 64 := rfl
  unfold checkedAdd held
  rw [hsize]
  by_cases h : a.toNat + b.toNat < 2 ^ 64
  · have hsum : (a + b).toNat = a.toNat + b.toNat := by
      rw [UInt64.toNat_add, Nat.mod_eq_of_lt h]
    rw [if_pos h, if_pos h, Option.map_some, hsum]
  · rw [if_neg h, if_neg h, Option.map_none]

/-- The ways of deciding on the pause after the `k`-th failure in a row. -/
inductive Decides (base limit k : Nat) : Chance → Pause → Chance → Prop
  /-- A tenth of the pause is nothing: there is no jitter, and no number is drawn. -/
  | plain (chance : Chance) (length : Option UInt64) (tenth : cap base limit k / 10 = 0)
      (sum : length.map UInt64.toNat = held (cap base limit k)) :
    Decides base limit k chance ⟨none, length⟩ chance
  /-- The jitter is the next number, drawn below a tenth of the pause. -/
  | jittered (chance : Chance) (range jitter : UInt64) (length : Option UInt64)
      (tenth : range.toNat = cap base limit k / 10) (below : jitter.toNat < range.toNat)
      (drawn : jitter = (chance.takeBelow range).1)
      (sum : length.map UInt64.toNat = held (cap base limit k + jitter.toNat)) :
    Decides base limit k chance ⟨some range, length⟩ (chance.takeBelow range).2

/-- What is known of the pause after the `k`-th failure in a row. -/
structure Decided (base limit k : Nat) (chance : Chance) (pause : Pause) (rest : Chance) : Prop where
  decides : Decides base limit k chance pause rest
  /-- The pause is as long as the cap, or longer by less than a tenth. -/
  bounds : ∀ length ∈ pause.length, cap base limit k ≤ length.toNat ∧
    length.toNat < cap base limit k + max 1 (cap base limit k / 10)
  /-- It fits a word wherever the limit and its tenth do. -/
  fits : limit + limit / 10 ≤ 2 ^ 64 → pause.length ≠ none

theorem mem_held {n : Nat} {length : Option UInt64} (h : length.map UInt64.toNat = held n) :
    (∀ l ∈ length, l.toNat = n) ∧ (n < 2 ^ 64 → length ≠ none) := by
  unfold held at h
  constructor
  · rintro l rfl
    split at h
    · exact Option.some.inj h
    · cases h
  · rintro hn rfl
    rw [if_pos hn] at h
    cases h

theorem Decides.decided {base limit k : Nat} {chance rest : Chance} {pause : Pause}
    (h : Decides base limit k chance pause rest) (hlimit : limit < 2 ^ 64) :
    Decided base limit k chance pause rest := by
  have hcap := cap_le_limit base limit k
  refine ⟨h, ?_, ?_⟩
  · intro length hlength
    cases h with
    | plain length' tenth sum =>
      have heq := (mem_held sum).1 length hlength
      omega
    | jittered range jitter length' tenth below drawn sum =>
      have heq := (mem_held sum).1 length hlength
      omega
  · intro hroom
    cases h with
    | plain length' tenth sum => exact (mem_held sum).2 (by omega)
    | jittered range jitter length' tenth below drawn sum =>
      exact (mem_held sum).2 (by omega)

/-! ## One failure, in words -/

theorem toNat_shift {exponent : Nat} (h : exponent ≤ 32) :
    ((1 : UInt64) <<< UInt64.ofNat exponent).toNat = 2 ^ exponent := by
  have hexponent : (UInt64.ofNat exponent).toNat = exponent :=
    UInt64.toNat_ofNat_of_lt' (Nat.lt_of_le_of_lt h (by decide))
  have hone : (1 : UInt64).toNat = 1 := rfl
  have hpower : 2 ^ exponent ≤ 2 ^ 32 := Nat.pow_le_pow_right (by omega) h
  have hplaces : exponent % 64 = exponent := by omega
  rw [UInt64.toNat_shiftLeft, hexponent, hone, hplaces, Nat.one_shiftLeft]
  exact Nat.mod_eq_of_lt (by omega)

theorem toNat_min (a b : UInt64) : (min a b).toNat = min a.toNat b.toNat := by
  by_cases h : a.toNat ≤ b.toNat
  · rw [show min a b = a from if_pos h, Nat.min_eq_left h]
  · rw [show min a b = b from if_neg h, Nat.min_eq_right (by omega)]

/-- No saturation can be seen in the pause: the largest count is far above the largest shift, and
    the largest word is no less than any limit. -/
theorem toNat_capped (b : Backoff) {failures : UInt32} {k : Nat}
    (h : failures.toNat = min k (2 ^ 32 - 1)) :
    (b.capped failures).toNat = cap b.base.toNat b.limit.toNat k := by
  have hexponent : min (failures.toNat - 1) 32 = min (k - 1) 32 := by omega
  have hlimit := b.limit.toNat_lt
  unfold capped cap
  rw [toNat_min, toNat_saturatingMul, hexponent, toNat_shift (Nat.min_le_right _ _)]
  simp only [UInt64.size]
  omega

theorem toNat_pos_iff {n : UInt64} : 0 < n ↔ 0 < n.toNat := Iff.rfl

theorem toNat_tenth (n : UInt64) : (n / 10).toNat = n.toNat / 10 := UInt64.toNat_div n 10

theorem decides_recordFailure (b : Backoff) (chance : Chance) {k : Nat}
    (h : (saturatingSucc b.failures).toNat = min k (2 ^ 32 - 1)) :
    Decides b.base.toNat b.limit.toNat k chance (b.recordFailure chance).1
      (b.recordFailure chance).2.2 := by
  have hcap := b.toNat_capped h
  have htenth : (b.capped (saturatingSucc b.failures) / 10).toNat =
      cap b.base.toNat b.limit.toNat k / 10 := by rw [toNat_tenth, hcap]
  unfold recordFailure
  by_cases hrange : 0 < b.capped (saturatingSucc b.failures) / 10
  · simp only [if_pos hrange]
    refine .jittered chance _ _ _ htenth ?_ rfl ?_
    · show (chance.numbers.headD 0 % (b.capped (saturatingSucc b.failures) / 10)).toNat < _
      rw [UInt64.toNat_mod]
      exact Nat.mod_lt _ hrange
    · rw [map_checkedAdd, hcap]
  · simp only [if_neg hrange]
    refine .plain chance _ ?_ ?_
    · rw [toNat_pos_iff] at hrange
      omega
    · rw [map_checkedAdd, hcap]
      rfl

theorem recordFailure_after (b : Backoff) (chance : Chance) :
    (b.recordFailure chance).2.1 = { b with failures := saturatingSucc b.failures } := by
  unfold recordFailure
  by_cases hrange : 0 < b.capped (saturatingSucc b.failures) / 10
  · simp only [if_pos hrange]
  · simp only [if_neg hrange]

end Backoff

/-! ## Lives -/

/-- Back-offs that draw from one supply, numbered in the order of their making. -/
structure Backoffs where
  members : List Backoff
  chance : Chance

namespace Backoffs

open Backoff

/-- What can be done with them. -/
inductive Operation
  /-- Count a failure and decide on the pause after it. -/
  | fail (which : Nat)
  /-- End the row of failures. -/
  | reset (which : Nat)
  /-- Make a copy. -/
  | clone (which : Nat)

/-- A single new one. -/
def start (base limit : UInt64) (chance : Chance) : Backoffs := ⟨[{ base, limit }], chance⟩

/-- Carry out an operation; a failure is answered by the pause. -/
def step (f : Backoffs) : Operation → Option Pause × Backoffs
  | .fail i =>
    match f.members[i]? with
    | none => (none, f)
    | some b =>
      let (pause, after, chance) := b.recordFailure f.chance
      (some pause, ⟨f.members.set i after, chance⟩)
  | .reset i => (none, { f with members := f.members.modify i Backoff.reset })
  | .clone i => (none, { f with members := f.members ++ f.members[i]?.toList })

/-- Operations with their answers, and what is there after them. -/
def run (f : Backoffs) : List Operation → List (Operation × Option Pause) × Backoffs
  | [] => ([], f)
  | op :: ops =>
    let (answer, f₁) := f.step op
    let (answers, f₂) := f₁.run ops
    ((op, answer) :: answers, f₂)

/-- What can have happened to a back-off. -/
inductive Deed
  | failed
  | reset
deriving DecidableEq

/-- The lives of all back-offs after these operations; operations and lives have their latest part
    first.  A copy has the life of its original behind it. -/
def lives : List Operation → List (List Deed)
  | [] => [[]]
  | .fail i :: past => (lives past).modify i (.failed :: ·)
  | .reset i :: past => (lives past).modify i (.reset :: ·)
  | .clone i :: past => lives past ++ (lives past)[i]?.toList

/-- The failures since the last reset, or since the start. -/
def streak (life : List Deed) : Nat := (life.takeWhile (· = .failed)).length

/-- The state of a back-off with this life. -/
structure Member (base limit : UInt64) (life : List Deed) (b : Backoff) : Prop where
  /-- The count stops at its largest value. -/
  failures : b.failures.toNat = min (streak life) (2 ^ 32 - 1)
  sameBase : b.base = base
  sameLimit : b.limit = limit

/-- The answer to an operation after `past`, by the law, and what is left of the supply. -/
inductive Answered (base limit : UInt64) (past : List Operation) (chance : Chance) :
    Operation → Option Pause → Chance → Prop
  /-- The pause goes by the failures in a row, this one among them. -/
  | fails {i : Nat} {life : List Deed} {pause : Pause} {rest : Chance}
      (there : (lives past)[i]? = some life)
      (decided : Decided base.toNat limit.toNat (streak life + 1) chance pause rest) :
    Answered base limit past chance (.fail i) (some pause) rest
  /-- There is no such back-off. -/
  | absent {i : Nat} (notThere : (lives past)[i]? = none) :
    Answered base limit past chance (.fail i) none chance
  | resets {i : Nat} : Answered base limit past chance (.reset i) none chance
  | clones {i : Nat} : Answered base limit past chance (.clone i) none chance

/-- Operations after `past` are answered by the law, one after the other. -/
inductive Lawful (base limit : UInt64) :
    List Operation → Chance → List (Operation × Option Pause) → Chance → Prop
  | done {past : List Operation} {chance : Chance} : Lawful base limit past chance [] chance
  | next {past : List Operation} {chance rest last : Chance} {op : Operation}
      {answer : Option Pause} {answers : List (Operation × Option Pause)}
      (answered : Answered base limit past chance op answer rest)
      (later : Lawful base limit (op :: past) rest answers last) :
    Lawful base limit past chance ((op, answer) :: answers) last

/-- Every back-off is as its life says. -/
def Reflects (base limit : UInt64) (past : List Operation) (f : Backoffs) : Prop :=
  List.Forall₂ (Member base limit) (lives past) f.members

/-! ## What a step keeps -/

section Steps

variable {base limit : UInt64}

theorem Member.fails {life : List Deed} {b : Backoff} (m : Member base limit life b)
    (chance : Chance) :
    Decided base.toNat limit.toNat (streak life + 1) chance (b.recordFailure chance).1
      (b.recordFailure chance).2.2 ∧
    Member base limit (.failed :: life) (b.recordFailure chance).2.1 := by
  have hsucc : (saturatingSucc b.failures).toNat = min (streak life + 1) (2 ^ 32 - 1) := by
    have hfailures := m.failures
    rw [toNat_saturatingSucc]
    simp only [UInt32.size]
    omega
  constructor
  · have hdecides := b.decides_recordFailure chance hsucc
    rw [m.sameBase, m.sameLimit] at hdecides
    exact hdecides.decided limit.toNat_lt
  · rw [recordFailure_after]
    exact ⟨hsucc, m.sameBase, m.sameLimit⟩

theorem Member.resets {life : List Deed} {b : Backoff} (m : Member base limit life b) :
    Member base limit (.reset :: life) b.reset :=
  ⟨rfl, m.sameBase, m.sameLimit⟩

/-- Two lists that go together have elements at the same places. -/
theorem getElem?_of_forall₂ {α β : Type} {R : α → β → Prop} {xs : List α} {ys : List β}
    (h : List.Forall₂ R xs ys) (i : Nat) :
    xs[i]? = none ∧ ys[i]? = none ∨ ∃ x y, xs[i]? = some x ∧ ys[i]? = some y ∧ R x y := by
  induction h generalizing i with
  | nil => exact .inl ⟨rfl, rfl⟩
  | cons hxy rest ih =>
    cases i with
    | zero => exact .inr ⟨_, _, rfl, rfl, hxy⟩
    | succ i => exact ih i

theorem forall₂_modify {α β : Type} {R : α → β → Prop} {xs : List α} {ys : List β} {f : α → α}
    {g : β → β} (h : List.Forall₂ R xs ys) (i : Nat)
    (hfg : ∀ x y, xs[i]? = some x → ys[i]? = some y → R x y → R (f x) (g y)) :
    List.Forall₂ R (xs.modify i f) (ys.modify i g) := by
  induction h generalizing i with
  | nil => cases i <;> exact .nil
  | cons hxy rest ih =>
    cases i with
    | zero => exact .cons (hfg _ _ rfl rfl hxy) rest
    | succ i => exact .cons hxy (ih i hfg)

theorem Reflects.step {past : List Operation} {f : Backoffs} (r : Reflects base limit past f)
    (op : Operation) :
    Answered base limit past f.chance op (f.step op).1 (f.step op).2.chance ∧
    Reflects base limit (op :: past) (f.step op).2 := by
  cases op with
  | fail i =>
    unfold Backoffs.step
    obtain ⟨hlife, hmember⟩ | ⟨life, b, hlife, hmember, m⟩ := getElem?_of_forall₂ r i
    · -- neither list goes as far
      simp only [hmember]
      refine ⟨.absent hlife, ?_⟩
      show List.Forall₂ (Member base limit) ((lives past).modify i _) f.members
      rw [List.modify_eq_self (List.getElem?_eq_none_iff.1 hlife)]
      exact r
    · obtain ⟨decided, after⟩ := m.fails f.chance
      simp only [hmember]
      refine ⟨.fails hlife decided, ?_⟩
      show List.Forall₂ (Member base limit) ((lives past).modify i _) (f.members.set i _)
      rw [List.set_eq_modify]
      refine forall₂_modify r i ?_
      intro life' b' hlife' _ _
      obtain rfl : life = life' := Option.some.inj (hlife.symm.trans hlife')
      exact after
  | reset i => exact ⟨.resets, forall₂_modify r i fun _ _ _ _ m => m.resets⟩
  | clone i =>
    refine ⟨.clones, List.rel_append r ?_⟩
    obtain ⟨hlife, hmember⟩ | ⟨life, b, hlife, hmember, m⟩ := getElem?_of_forall₂ r i
    · rw [hlife, hmember]
      exact .nil
    · rw [hlife, hmember]
      exact .cons m .nil

theorem Reflects.run {past : List Operation} {f : Backoffs} (r : Reflects base limit past f)
    (ops : List Operation) :
    Lawful base limit past f.chance (f.run ops).1 (f.run ops).2.chance ∧
    Reflects base limit (ops.reverse ++ past) (f.run ops).2 := by
  induction ops generalizing f past with
  | nil => exact ⟨.done, r⟩
  | cons op ops ih =>
    obtain ⟨answered, next⟩ := r.step op
    obtain ⟨later, last⟩ := ih next
    refine ⟨.next answered later, ?_⟩
    rw [List.reverse_cons, List.append_assoc]
    exact last

theorem reflects_start (base limit : UInt64) (chance : Chance) :
    Reflects base limit [] (start base limit chance) :=
  .cons ⟨rfl, rfl, rfl⟩ .nil

end Steps

/-- A back-off with its life, and what the next failure can come to. -/
structure Placed (base limit : UInt64) (life : List Deed) (b : Backoff) : Prop
    extends Member base limit life b where
  /-- Every number below a tenth of the next pause is drawn from some supply. -/
  everyDraw : ∀ jitter : UInt64,
    jitter.toNat < cap base.toNat limit.toNat (streak life + 1) / 10 →
    ∃ supply, (b.recordFailure supply).1.length.map UInt64.toNat =
      held (cap base.toNat limit.toNat (streak life + 1) + jitter.toNat)

theorem Member.placed {base limit : UInt64} {life : List Deed} {b : Backoff}
    (m : Member base limit life b) : Placed base limit life b := by
  refine ⟨m, ?_⟩
  intro jitter hjitter
  refine ⟨{ numbers := [jitter] }, ?_⟩
  obtain ⟨⟨decides, _, _⟩, _⟩ := m.fails { numbers := [jitter] }
  generalize (b.recordFailure { numbers := [jitter] }).1 = pause at decides
  generalize (b.recordFailure { numbers := [jitter] }).2.2 = rest at decides
  cases decides with
  | plain length tenth sum => omega
  | jittered range drawn length tenth below hdrawn sum =>
    have hsame : drawn.toNat = jitter.toNat := by
      rw [hdrawn]
      show (jitter % range).toNat = jitter.toNat
      rw [UInt64.toNat_mod]
      exact Nat.mod_eq_of_lt (by omega)
    rw [← hsame]
    exact sum

/-- **Pauses double with every failure in a row up to the limit, and no word on the way wraps.**
    The answers go by the law and every back-off by its life, however long the run is; only the sum
    of the longest pause and its jitter can exceed a word. -/
theorem backs_off (base limit : UInt64) (chance : Chance) (ops : List Operation) :
    Lawful base limit [] chance ((start base limit chance).run ops).1
      ((start base limit chance).run ops).2.chance ∧
    List.Forall₂ (Placed base limit) (lives ops.reverse)
      ((start base limit chance).run ops).2.members ∧
    Monotone (cap base.toNat limit.toNat) ∧
    ∀ k, cap base.toNat limit.toNat k ≤ limit.toNat := by
  obtain ⟨lawful, reflects⟩ := (reflects_start base limit chance).run ops
  rw [List.append_nil] at reflects
  refine ⟨lawful, reflects.imp fun _ _ m => m.placed, ?_, cap_le_limit _ _⟩
  intro k k' hk
  exact cap_le_cap hk

/-- The longest pauses have no room for jitter. -/
example : (({ base := 1, limit := 18446744073709551615, failures := 4294967295 } :
    Backoff).recordFailure { numbers := [1] }).1.length = some 4294967297 ∧
    (({ base := 18446744073709551615, limit := 18446744073709551615 } :
      Backoff).recordFailure { numbers := [1] }).1.length = none := by decide

end Backoffs

end Gatehouse
