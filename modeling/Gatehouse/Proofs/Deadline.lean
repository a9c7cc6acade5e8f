import Gatehouse.Deadline
import Gatehouse.Sum

/-!
# Work that is cut off at its deadline

Work within a deadline is a race between its sleeps and one timer.  `Work.withDeadline` decides it by
adding up sleeps.  `Work.raced` is the race itself on a clock: whenever a sleep or the deadline is over,
and at whatever other moments the work is polled besides, it goes on as far as it can, and only then
the timer is looked at.  Both come to the same (`race_eq`), and what they come to depends on the sum
of the sleeps alone (`cut_off_at_deadline`): work that takes as long as the deadline has ended.
-/

namespace Gatehouse.Work

variable {α : Type}

/-- How long work sleeps in all. -/
def total (work : Work α) : Nat := sumOf work.sleeps

/-! ## The sum of the sleeps -/

theorem runUntil_eq {deadline : Nat} {act : Act} {result : Option (Except Failure α)}
    {elapsed : Nat} {sleeps : List Nat} (early : elapsed ≤ deadline) :
    runUntil deadline act result elapsed sleeps =
      match result with
      | some r =>
        if elapsed + sumOf sleeps ≤ deadline then (r, elapsed + sumOf sleeps)
        else (.error (.timeout act), deadline)
      | none => (.error (.timeout act), deadline) := by
  induction sleeps generalizing elapsed with
  | nil =>
    cases result with
    | none => rfl
    | some r => exact (if_pos early).symm
  | cons sleep sleeps ih =>
    rw [runUntil, sumOf_cons, ← Nat.add_assoc]
    by_cases hfits : elapsed + sleep ≤ deadline
    · rw [if_pos hfits, ih hfits]
    · rw [if_neg hfits]
      have hlate : ¬ elapsed + sleep + sumOf sleeps ≤ deadline := by omega
      cases result with
      | none => rfl
      | some r => exact (if_neg hlate).symm

theorem withDeadline_of_le {work : Work α} {deadline : Nat} {act : Act} {r : Except Failure α}
    (ends : work.result = some r) (fits : work.total ≤ deadline) :
    work.withDeadline deadline act = (r, work.total) := by
  have hfits : 0 + sumOf work.sleeps ≤ deadline := by rwa [Nat.zero_add]
  rw [withDeadline, runUntil_eq (Nat.zero_le deadline), ends]
  dsimp only
  rw [if_pos hfits, Nat.zero_add]
  rfl

theorem withDeadline_of_late {work : Work α} {deadline : Nat} {act : Act}
    (late : ∀ r, work.result = some r → deadline < work.total) :
    work.withDeadline deadline act = (.error (.timeout act), deadline) := by
  rw [withDeadline, runUntil_eq (Nat.zero_le deadline)]
  cases hresult : work.result with
  | none => rfl
  | some r =>
    have hlate : ¬ 0 + sumOf work.sleeps ≤ deadline := by
      rw [Nat.zero_add]
      exact Nat.not_le_of_lt (late r hresult)
    exact if_neg hlate

/-! ## The race -/

/-- Where work stands once it has been polled. -/
inductive Standing (α : Type)
  | ended (result : Except Failure α)
  /-- It sleeps until `wake`, and then these sleeps follow. -/
  | asleep (wake : Nat) (sleeps : List Nat)
  /-- It waits for what never comes. -/
  | stuck

/-- Work behind its last sleep. -/
def Standing.awake : Option (Except Failure α) → Standing α
  | some r => .ended r
  | none => .stuck

/-- Go on with work at the moment `now`, if it has slept until `wake`: the next sleep begins as soon as
    the one before it is found to be over. -/
def resume (result : Option (Except Failure α)) (now : Nat) :
    (wake : Nat) → (sleeps : List Nat) → Standing α
  | wake, [] => if expired now wake then .awake result else .asleep wake []
  | wake, sleep :: sleeps =>
    if expired now wake then resume result now (now + sleep) sleeps
    else .asleep wake (sleep :: sleeps)

/-- The race from the moment `now` on, while `left` is left until the deadline.  It is polled when a
    sleep is over, at the deadline, and at the moments of `besides`. -/
def race (besides : Nat → Bool) (act : Act) (result : Option (Except Failure α)) :
    (left now wake : Nat) → (sleeps : List Nat) → Except Failure α × Nat
  | 0, now, wake, sleeps =>
    -- the timer has gone off, but the work is asked first
    match resume result now wake sleeps with
    | .ended r => (r, now)
    | _ => (.error (.timeout act), now)
  | left + 1, now, wake, sleeps =>
    if expired now wake || besides now then
      match resume result now wake sleeps with
      | .ended r => (r, now)
      | .asleep wake sleeps => race besides act result left (now + 1) wake sleeps
      -- only the timer is left to go off
      | .stuck => (.error (.timeout act), now + (left + 1))
    else race besides act result left (now + 1) wake sleeps

/-- What comes of work within a deadline and when, by the clock. -/
def raced (besides : Nat → Bool) (work : Work α) (deadline : Nat) (act : Act) :
    Except Failure α × Nat :=
  race besides act work.result deadline 0 0 work.sleeps

theorem expired_iff {now due : Nat} : expired now due = true ↔ due ≤ now := decide_eq_true_iff

/-- Who is asleep stays asleep, whatever else happens. -/
theorem resume_of_lt {result : Option (Except Failure α)} {now wake : Nat} {sleeps : List Nat}
    (h : now < wake) : resume result now wake sleeps = .asleep wake sleeps := by
  have hasleep : ¬ expired now wake = true := by
    rw [expired_iff]
    omega
  cases sleeps with
  | nil => rw [resume, if_neg hasleep]
  | cons sleep sleeps => rw [resume, if_neg hasleep]

/-- Whoever falls asleep wakes up later. -/
theorem lt_of_resume {result : Option (Except Failure α)} {now wake wake' : Nat}
    {sleeps sleeps' : List Nat} (h : resume result now wake sleeps = .asleep wake' sleeps') :
    now < wake' := by
  induction sleeps generalizing wake with
  | nil =>
    rw [resume] at h
    split at h
    · cases result <;> cases h
    · rename_i hasleep
      cases h
      rw [expired_iff] at hasleep
      omega
  | cons sleep sleeps ih =>
    rw [resume] at h
    split at h
    · exact ih h
    · rename_i hasleep
      cases h
      rw [expired_iff] at hasleep
      omega

/-- Sleeps of no length pass within one poll, and they add nothing to the sum. -/
theorem runUntil_eq_resume {deadline now : Nat} {act : Act} {result : Option (Except Failure α)}
    {sleeps : List Nat} (early : now ≤ deadline) :
    runUntil deadline act result now sleeps =
      match resume result now now sleeps with
      | .ended r => (r, now)
      | .asleep wake sleeps =>
        if wake ≤ deadline then runUntil deadline act result wake sleeps
        else (.error (.timeout act), deadline)
      | .stuck => (.error (.timeout act), deadline) := by
  have hawake : expired now now = true := expired_iff.2 (Nat.le_refl now)
  induction sleeps with
  | nil =>
    rw [resume, if_pos hawake]
    cases result <;> rfl
  | cons sleep sleeps ih =>
    rw [resume, if_pos hawake, runUntil]
    rcases Nat.eq_zero_or_pos sleep with rfl | hpos
    · rw [Nat.add_zero, if_pos early, ih]
    · rw [resume_of_lt (Nat.lt_add_of_pos_right hpos)]

/-- The race comes to what the sums come to.  The induction is on the time that is left; a sleep ends
    on a moment of the clock, so that none is overslept. -/
theorem race_eq (besides : Nat → Bool) (act : Act) (result : Option (Except Failure α))
    {left now wake : Nat} {sleeps : List Nat} (ahead : now ≤ wake) :
    race besides act result left now wake sleeps =
      if wake ≤ now + left then runUntil (now + left) act result wake sleeps
      else (.error (.timeout act), now + left) := by
  induction left generalizing now wake sleeps with
  | zero =>
    rw [race, Nat.add_zero]
    rcases Nat.lt_or_eq_of_le ahead with hlt | rfl
    · rw [resume_of_lt hlt, if_neg (Nat.not_le_of_lt hlt)]
    · rw [if_pos (Nat.le_refl now), runUntil_eq_resume (Nat.le_refl now)]
      cases hstands : resume result now now sleeps with
      | ended r => rfl
      | stuck => rfl
      | asleep wake sleeps => exact (if_neg (Nat.not_le_of_lt (lt_of_resume hstands))).symm
  | succ left ih =>
    have hdue : now + (left + 1) = now + 1 + left := by omega
    rw [race]
    rcases Nat.lt_or_eq_of_le ahead with hlt | rfl
    · rw [resume_of_lt hlt]
      dsimp only
      rw [ite_self, ih hlt, hdue]
    · have hpolled : (expired now now || besides now) = true := by
        rw [expired_iff.2 (Nat.le_refl now), Bool.true_or]
      have hearly : now ≤ now + (left + 1) := Nat.le_add_right now (left + 1)
      rw [if_pos hpolled, if_pos hearly, runUntil_eq_resume hearly]
      cases hstands : resume result now now sleeps with
      | ended r => rfl
      | stuck => rfl
      | asleep wake sleeps =>
        dsimp only
        rw [ih (lt_of_resume hstands), hdue]

theorem raced_eq (besides : Nat → Bool) (work : Work α) (deadline : Nat) (act : Act) :
    work.raced besides deadline act = work.withDeadline deadline act := by
  have hdeadline : 0 + deadline = deadline := Nat.zero_add deadline
  rw [raced, race_eq besides act work.result (Nat.le_refl 0), hdeadline,
    if_pos (Nat.zero_le deadline), withDeadline]

/-- **Work is cut off exactly at its deadline.**  Work that ends has its own result, after the sum of
    its sleeps, exactly if that is within the deadline; of any other work nothing comes but a timeout
    of the act, at the deadline.  That is also how the race between the work and the timer ends,
    however often it is polled.

    The deadline and the sleeps are whole milliseconds, as the clock counts them, where a program may
    ask for fractions of one; and the clock has no last moment, so a deadline that would be too far
    away for a real one is not accounted for. -/
theorem cut_off_at_deadline (work : Work α) (deadline : Nat) (act : Act) :
    (∀ r, work.result = some r →
      (work.withDeadline deadline act = (r, work.total) ↔ work.total ≤ deadline)) ∧
    ((∀ r, work.result = some r → deadline < work.total) →
      work.withDeadline deadline act = (.error (.timeout act), deadline)) ∧
    ∀ besides, work.raced besides deadline act = work.withDeadline deadline act := by
  refine ⟨fun r ends => ⟨fun h => ?_, withDeadline_of_le ends⟩, withDeadline_of_late,
    fun besides => raced_eq besides work deadline act⟩
  rcases Nat.lt_or_ge deadline work.total with hlate | hfits
  · -- it would have ended after the deadline
    rw [withDeadline_of_late fun _ _ => hlate] at h
    have htime : deadline = work.total := congrArg Prod.snd h
    exact Nat.le_of_eq htime.symm
  · exact hfits

/-- Two sleeps that are as long as the deadline together, the same sleeps with a moment less, and work
    of no length with no time at all. -/
theorem cut_off_at_deadline_sample :
    (⟨[3, 7], some (.ok 7)⟩ : Work Nat).withDeadline 10 .two = (.ok 7, 10) ∧
    (⟨[3, 7], some (.ok 7)⟩ : Work Nat).withDeadline 9 .two = (.error (.timeout .two), 9) ∧
    (⟨[], some (.error .closed)⟩ : Work Nat).withDeadline 0 .one = (.error .closed, 0) ∧
    (⟨[3], none⟩ : Work Nat).withDeadline 10 .one = (.error (.timeout .one), 10) := by
  refine ⟨?_, ?_, ?_, ?_⟩
  · exact ((cut_off_at_deadline _ 10 .two).1 (.ok 7) rfl).2 (by decide)
  · refine (cut_off_at_deadline _ 9 .two).2.1 ?_
    rintro r -
    decide
  · exact ((cut_off_at_deadline _ 0 .one).1 (.error .closed) rfl).2 (by decide)
  · refine (cut_off_at_deadline _ 10 .one).2.1 ?_
    rintro r h
    cases h

end Gatehouse.Work
