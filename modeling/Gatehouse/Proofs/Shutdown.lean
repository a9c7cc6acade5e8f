import Gatehouse.Shutdown
import Mathlib.Data.List.Basic

/-!
# The signal fires once and stays fired

What an operation is answered follows from the operations and answers before it (`Answered`): the
first trigger fires the signal, a check and a waiter's look ask whether there was a trigger before
them, and drops of handles are not looked at.  A record of a run stands for the state of the signal
(`Reflects`), every step keeps it so, and everything else is read off the record.
-/

namespace Gatehouse.Shutdown

/-- The handle that an operation is made on. -/
def Operation.handle? : Operation → Option Nat
  | .trigger h | .check h | .clone h | .wait h | .drop h => some h
  | .poll _ | .abandon _ => none

/-- The waiter that an operation is made on. -/
def Operation.waiter? : Operation → Option Nat
  | .trigger _ | .check _ | .clone _ | .wait _ | .drop _ => none
  | .poll w | .abandon w => some w

/-- Operations with their answers, in the order in which they were carried out. -/
abbrev Record := List (Operation × Reply)

/-- The record of a list of operations. -/
def record (s : Shutdown) (ops : List Operation) : Record := ops.zip (s.run ops).1

theorem record_cons (s : Shutdown) (op : Operation) (ops : List Operation) :
    s.record (op :: ops) = (op, (s.step op).1) :: (s.step op).2.record ops := rfl

/-! ## What a record says -/

namespace Record

/-- Was a trigger made, on whichever handle? -/
def Triggered (past : Record) : Prop := ∃ h answer, (.trigger h, .flag answer) ∈ past

/-- How many triggers were told that they fired the signal. -/
def firings (past : Record) : Nat :=
  past.countP fun entry => match entry with | (.trigger _, .flag true) => true | _ => false

/-- How many handles there have been: the first one and those made since. -/
def handles (past : Record) : Nat :=
  1 + past.countP fun entry => match entry with | (_, .handle _) => true | _ => false

/-- How many waiters there have been. -/
def waiters (past : Record) : Nat :=
  past.countP fun entry => match entry with | (_, .waiter _) => true | _ => false

/-- Is this one of the handles, and not dropped? -/
def Holds (past : Record) (h : Nat) : Prop := h < past.handles ∧ (.drop h, .dropped) ∉ past

/-- Is this one of the waiters, and neither done nor dropped? -/
def Waits (past : Record) (w : Nat) : Prop :=
  w < past.waiters ∧ (.poll w, .ready) ∉ past ∧ (.abandon w, .dropped) ∉ past

variable {past : Record} {entry : Operation × Reply}

theorem triggered_snoc :
    Triggered (past ++ [entry]) ↔
      past.Triggered ∨ ∃ h answer, entry = (.trigger h, .flag answer) := by
  constructor
  · rintro ⟨h, answer, hmem⟩
    rcases List.mem_append.1 hmem with hold | hnew
    · exact Or.inl ⟨h, answer, hold⟩
    · exact Or.inr ⟨h, answer, (List.mem_singleton.1 hnew).symm⟩
  · rintro (⟨h, answer, hmem⟩ | ⟨h, answer, rfl⟩)
    · exact ⟨h, answer, List.mem_append_left _ hmem⟩
    · exact ⟨h, answer, List.mem_append_right _ List.mem_cons_self⟩

end Record

open Record

/-- The law of a signal that fires once and stays fired: what an operation is answered after
    `past`. -/
inductive Answered (past : Record) : Operation → Reply → Prop
  /-- The first trigger fires the signal. -/
  | fires {h : Nat} (holds : past.Holds h) (first : ¬ past.Triggered) :
      Answered past (.trigger h) (.flag true)
  /-- Any other one finds it fired. -/
  | repeats {h : Nat} (holds : past.Holds h) (again : past.Triggered) :
      Answered past (.trigger h) (.flag false)
  /-- A check after a trigger. -/
  | shows {h : Nat} (holds : past.Holds h) (fired : past.Triggered) :
      Answered past (.check h) (.flag true)
  /-- A check before any trigger. -/
  | hides {h : Nat} (holds : past.Holds h) (quiet : ¬ past.Triggered) :
      Answered past (.check h) (.flag false)
  /-- Another handle. -/
  | clones {h : Nat} (holds : past.Holds h) : Answered past (.clone h) (.handle past.handles)
  /-- Another waiter. -/
  | waits {h : Nat} (holds : past.Holds h) : Answered past (.wait h) (.waiter past.waiters)
  /-- One handle less. -/
  | drops {h : Nat} (holds : past.Holds h) : Answered past (.drop h) .dropped
  /-- A waiter looks after a trigger. -/
  | ready {w : Nat} (waits : past.Waits w) (fired : past.Triggered) : Answered past (.poll w) .ready
  /-- A waiter looks before any trigger. -/
  | pending {w : Nat} (waits : past.Waits w) (quiet : ¬ past.Triggered) :
      Answered past (.poll w) .pending
  /-- One waiter less. -/
  | abandons {w : Nat} (waits : past.Waits w) : Answered past (.abandon w) .dropped
  /-- The handle or the waiter is not there. -/
  | gone {op : Operation} (noHandle : ∀ h, op.handle? = some h → ¬ past.Holds h)
      (noWaiter : ∀ w, op.waiter? = some w → ¬ past.Waits w) : Answered past op .gone

/-! ## The state behind a record -/

/-- What a record says is so in the state. -/
structure Reflects (s : Shutdown) (past : Record) : Prop where
  fired : s.fired = true ↔ past.Triggered
  /-- One trigger in all fires the signal. -/
  firings : past.firings = s.fired.toNat
  handles : s.handles.length = past.handles
  waiters : s.waiters.length = past.waiters
  holds : ∀ h, s.handles.getD h false = true ↔ past.Holds h
  waits : ∀ w, s.waiters.getD w false = true ↔ past.Waits w
  /-- What was dropped or is done has been there. -/
  known : (∀ h, (.drop h, .dropped) ∈ past → h < past.handles) ∧
    ∀ w, (.poll w, .ready) ∈ past ∨ (.abandon w, .dropped) ∈ past → w < past.waiters

theorem reflects_fresh : Reflects fresh [] where
  fired := by simp [fresh, Triggered]
  firings := rfl
  handles := rfl
  waiters := rfl
  holds h := by cases h <;> simp [fresh, Holds, Record.handles]
  waits w := by simp [fresh, Waits, Record.waiters]
  known := by simp

/-- Somebody who waits holds the signal, so that its wait ends by the firing only. -/
theorem endsWait_of_waiting {s : Shutdown} {w : Nat} (h : s.waiters.getD w false = true) :
    s.endsWait = s.fired := by
  have hheld : s.isHeld = true := by
    rw [isHeld, Bool.or_eq_true]
    right
    rw [List.any_eq_true]
    rw [List.getD_eq_getElem?_getD, Option.getD_eq_iff] at h
    rcases h with h | h
    · exact ⟨true, List.mem_of_getElem? h, rfl⟩
    · cases h.2
  rw [endsWait, hheld, Bool.not_true, Bool.or_false]


/-! ## What is added and struck out -/

theorem getD_add {marks : List Bool} {k : Nat} :
    (marks ++ [true]).getD k false = true ↔ marks.getD k false = true ∨ k = marks.length := by
  rw [List.getD_eq_getElem?_getD, List.getD_eq_getElem?_getD]
  rcases Nat.lt_trichotomy k marks.length with h | h | h
  · rw [List.getElem?_append_left h]
    exact (or_iff_left (Nat.ne_of_lt h)).symm
  · simp [h]
  · simp [List.getElem?_append_right (Nat.le_of_lt h), Nat.le_of_lt h,
      Nat.sub_ne_zero_of_lt h, Nat.ne_of_gt h]

theorem getD_strike {marks : List Bool} {i k : Nat} :
    (marks.set i false).getD k false = true ↔ marks.getD k false = true ∧ k ≠ i := by
  rw [List.getD_eq_getElem?_getD, List.getD_eq_getElem?_getD, List.getElem?_set]
  by_cases h : i = k
  · subst h
    by_cases hi : i < marks.length <;> simp [hi]
  · simp [h, Ne.symm h]

section Steps

variable {s : Shutdown} {past : Record}

/-- An answer that says what was seen, or that nobody was there, changes nothing. -/
theorem Reflects.silent (r : Reflects s past) {op : Operation} {reply : Reply}
    (h : (∃ k b, (op, reply) = (.check k, .flag b)) ∨ (∃ w, (op, reply) = (.poll w, .pending)) ∨
      reply = .gone) : Reflects s (past ++ [(op, reply)]) := by
  have hhandles : Record.handles (past ++ [(op, reply)]) = past.handles := by
    obtain ⟨k, b, ⟨⟩⟩ | ⟨w, ⟨⟩⟩ | rfl := h <;> simp [Record.handles]
  have hwaiters : Record.waiters (past ++ [(op, reply)]) = past.waiters := by
    obtain ⟨k, b, ⟨⟩⟩ | ⟨w, ⟨⟩⟩ | rfl := h <;> simp [Record.waiters]
  constructor
  · rw [r.fired, triggered_snoc]
    obtain ⟨k, b, ⟨⟩⟩ | ⟨w, ⟨⟩⟩ | rfl := h <;> simp
  · rw [← r.firings]
    obtain ⟨k, b, ⟨⟩⟩ | ⟨w, ⟨⟩⟩ | rfl := h <;> simp [Record.firings]
  · rw [r.handles, hhandles]
  · rw [r.waiters, hwaiters]
  · intro k
    rw [r.holds, Holds, Holds, hhandles]
    obtain ⟨k, b, ⟨⟩⟩ | ⟨w, ⟨⟩⟩ | rfl := h <;> simp
  · intro k
    rw [r.waits, Waits, Waits, hwaiters]
    obtain ⟨k, b, ⟨⟩⟩ | ⟨w, ⟨⟩⟩ | rfl := h <;> simp
  · rw [hhandles, hwaiters]
    obtain ⟨k, b, ⟨⟩⟩ | ⟨w, ⟨⟩⟩ | rfl := h <;> simpa using r.known

/-- A trigger that is told whether it is the first one. -/
theorem Reflects.triggers (r : Reflects s past) (k : Nat) :
    Reflects { s with fired := true } (past ++ [(.trigger k, .flag !s.fired)]) where
  fired := by simp [triggered_snoc]
  firings := by
    have hfirings := r.firings
    cases hfired : s.fired <;> simp_all [Record.firings]
  handles := by simpa [Record.handles] using r.handles
  waiters := by simpa [Record.waiters] using r.waiters
  holds h := by simpa [Holds, Record.handles] using r.holds h
  waits w := by simpa [Waits, Record.waiters] using r.waits w
  known := by simpa [Record.handles, Record.waiters] using r.known

/-- A new handle has the next number, which none of the dropped ones has. -/
theorem Reflects.clones (r : Reflects s past) (k : Nat) :
    Reflects { s with handles := s.handles ++ [true] }
      (past ++ [(.clone k, .handle past.handles)]) := by
  have hhandles : Record.handles (past ++ [(.clone k, .handle past.handles)]) =
      past.handles + 1 := by simp [Record.handles, Nat.add_assoc]
  have hdrop : (.drop past.handles, .dropped) ∉ past :=
    fun h => Nat.lt_irrefl _ (r.known.1 _ h)
  constructor
  · simpa [triggered_snoc] using r.fired
  · simpa [Record.firings] using r.firings
  · rw [List.length_append, r.handles, hhandles]
    rfl
  · simpa [Record.waiters] using r.waiters
  · intro h
    rw [getD_add, r.holds, r.handles, Holds, Holds, hhandles, Nat.lt_succ_iff_lt_or_eq,
      or_and_right]
    refine or_congr (by simp) ⟨?_, And.left⟩
    rintro rfl
    exact ⟨rfl, by simpa using hdrop⟩
  · intro w
    simpa [Waits, Record.waiters] using r.waits w
  · rw [hhandles]
    refine ⟨fun h hmem => Nat.lt_succ_of_lt (r.known.1 h (by simpa using hmem)), ?_⟩
    simpa [Record.waiters] using r.known.2

/-- A new waiter has the next number too. -/
theorem Reflects.waiting (r : Reflects s past) (k : Nat) :
    Reflects { s with waiters := s.waiters ++ [true] }
      (past ++ [(.wait k, .waiter past.waiters)]) := by
  have hwaiters : Record.waiters (past ++ [(.wait k, .waiter past.waiters)]) =
      past.waiters + 1 := by simp [Record.waiters]
  have hdone : ¬ ((.poll past.waiters, .ready) ∈ past ∨ (.abandon past.waiters, .dropped) ∈ past) :=
    fun h => Nat.lt_irrefl _ (r.known.2 _ h)
  constructor
  · simpa [triggered_snoc] using r.fired
  · simpa [Record.firings] using r.firings
  · simpa [Record.handles] using r.handles
  · rw [List.length_append, r.waiters, hwaiters]
    rfl
  · intro h
    simpa [Holds, Record.handles] using r.holds h
  · intro w
    rw [getD_add, r.waits, r.waiters, Waits, Waits, hwaiters, Nat.lt_succ_iff_lt_or_eq,
      or_and_right]
    refine or_congr (by simp) ⟨?_, And.left⟩
    rintro rfl
    exact ⟨rfl, by simpa using not_or.1 hdone⟩
  · rw [hwaiters]
    refine ⟨by simpa [Record.handles] using r.known.1, fun w hmem => ?_⟩
    exact Nat.lt_succ_of_lt (r.known.2 w (by simpa using hmem))

/-- A handle is dropped. -/
theorem Reflects.drops (r : Reflects s past) {k : Nat} (hk : past.Holds k) :
    Reflects { s with handles := s.handles.set k false } (past ++ [(.drop k, .dropped)]) := by
  have hhandles : Record.handles (past ++ [(.drop k, .dropped)]) = past.handles := by
    simp [Record.handles]
  constructor
  · simpa [triggered_snoc] using r.fired
  · simpa [Record.firings] using r.firings
  · rw [List.length_set, r.handles, hhandles]
  · simpa [Record.waiters] using r.waiters
  · intro h
    rw [getD_strike, r.holds, Holds, Holds, hhandles, and_assoc]
    simp
  · intro w
    simpa [Waits, Record.waiters] using r.waits w
  · rw [hhandles]
    refine ⟨fun h hmem => ?_, by simpa [Record.waiters] using r.known.2⟩
    rcases List.mem_append.1 hmem with hold | hnew
    · exact r.known.1 h hold
    · cases List.mem_singleton.1 hnew
      exact hk.1

/-- A waiter goes, because it is done or because it is dropped. -/
theorem Reflects.letsGo (r : Reflects s past) {k : Nat} (hk : past.Waits k) {op : Operation}
    {reply : Reply} (h : (op, reply) = (.poll k, .ready) ∨ (op, reply) = (.abandon k, .dropped)) :
    Reflects (s.withoutWaiter k) (past ++ [(op, reply)]) := by
  have hhandles : Record.handles (past ++ [(op, reply)]) = past.handles := by
    obtain ⟨⟨⟩⟩ | ⟨⟨⟩⟩ := h <;> simp [Record.handles]
  have hwaiters : Record.waiters (past ++ [(op, reply)]) = past.waiters := by
    obtain ⟨⟨⟩⟩ | ⟨⟨⟩⟩ := h <;> simp [Record.waiters]
  constructor
  · show s.fired = true ↔ _
    rw [r.fired, triggered_snoc]
    obtain ⟨⟨⟩⟩ | ⟨⟨⟩⟩ := h <;> simp
  · show _ = s.fired.toNat
    rw [← r.firings]
    obtain ⟨⟨⟩⟩ | ⟨⟨⟩⟩ := h <;> simp [Record.firings]
  · exact r.handles.trans hhandles.symm
  · rw [withoutWaiter, List.length_set, r.waiters, hwaiters]
  · intro i
    show s.handles.getD i false = true ↔ _
    rw [r.holds, Holds, Holds, hhandles]
    obtain ⟨⟨⟩⟩ | ⟨⟨⟩⟩ := h <;> simp
  · intro w
    rw [withoutWaiter, getD_strike, r.waits, Waits, Waits, hwaiters]
    obtain ⟨⟨⟩⟩ | ⟨⟨⟩⟩ := h <;> simp <;> tauto
  · rw [hhandles, hwaiters]
    constructor
    · obtain ⟨⟨⟩⟩ | ⟨⟨⟩⟩ := h <;> simpa using r.known.1
    · intro w hmem
      by_cases hw : w = k
      · rw [hw]
        exact hk.1
      · refine r.known.2 w ?_
        obtain ⟨⟨⟩⟩ | ⟨⟨⟩⟩ := h <;> simpa [hw] using hmem

/-- An answer by the law, and the state that goes with the longer record. -/
def Lawful (past : Record) (op : Operation) (answer : Reply × Shutdown) : Prop :=
  Answered past op answer.1 ∧ Reflects answer.2 (past ++ [(op, answer.1)])

theorem Reflects.lawful_onHandle (r : Reflects s past) {op : Operation} {h : Nat}
    (hop : op.handle? = some h ∧ op.waiter? = none) {answer : Reply × Shutdown}
    (hanswer : past.Holds h → Lawful past op answer) : Lawful past op (s.onHandle h answer) := by
  by_cases hh : s.handles.getD h false = true
  · rw [onHandle, if_pos hh]
    exact hanswer ((r.holds h).1 hh)
  · rw [onHandle, if_neg hh]
    refine ⟨.gone (fun k hk => ?_) (fun w hw => ?_), r.silent (Or.inr (Or.inr rfl))⟩
    · rw [hop.1] at hk
      cases hk
      rwa [← r.holds]
    · rw [hop.2] at hw
      cases hw

theorem Reflects.lawful_onWaiter (r : Reflects s past) {op : Operation} {w : Nat}
    (hop : op.handle? = none ∧ op.waiter? = some w) {answer : Reply × Shutdown}
    (hanswer : s.waiters.getD w false = true → Lawful past op answer) :
    Lawful past op (s.onWaiter w answer) := by
  by_cases hw : s.waiters.getD w false = true
  · rw [onWaiter, if_pos hw]
    exact hanswer hw
  · rw [onWaiter, if_neg hw]
    refine ⟨.gone (fun k hk => ?_) (fun i hi => ?_), r.silent (Or.inr (Or.inr rfl))⟩
    · rw [hop.1] at hk
      cases hk
    · rw [hop.2] at hi
      cases hi
      rwa [← r.waits]

/-- Every step is answered by the law. -/
theorem Reflects.step (r : Reflects s past) (op : Operation) : Lawful past op (s.step op) := by
  have quiet : s.fired = false → ¬ past.Triggered := fun h hfired => by
    rw [r.fired.2 hfired] at h
    cases h
  cases op with
  | trigger h =>
    refine r.lawful_onHandle ⟨rfl, rfl⟩ fun hold => ⟨?_, r.triggers h⟩
    cases hfired : s.fired with
    | false => exact .fires hold (quiet hfired)
    | true => exact .repeats hold (r.fired.1 hfired)
  | check h =>
    refine r.lawful_onHandle ⟨rfl, rfl⟩ fun hold => ⟨?_, r.silent (Or.inl ⟨h, s.fired, rfl⟩)⟩
    cases hfired : s.fired with
    | false => exact .hides hold (quiet hfired)
    | true => exact .shows hold (r.fired.1 hfired)
  | clone h =>
    refine r.lawful_onHandle ⟨rfl, rfl⟩ fun hold => ?_
    rw [r.handles]
    exact ⟨.clones hold, r.clones h⟩
  | wait h =>
    refine r.lawful_onHandle ⟨rfl, rfl⟩ fun hold => ?_
    rw [r.waiters]
    exact ⟨.waits hold, r.waiting h⟩
  | drop h => exact r.lawful_onHandle ⟨rfl, rfl⟩ fun hold => ⟨.drops hold, r.drops hold⟩
  | poll w =>
    refine r.lawful_onWaiter ⟨rfl, rfl⟩ fun hwait => ?_
    have hold := (r.waits w).1 hwait
    rw [endsWait_of_waiting hwait]
    cases hfired : s.fired with
    | false => exact ⟨.pending hold (quiet hfired), r.silent (Or.inr (Or.inl ⟨w, rfl⟩))⟩
    | true => exact ⟨.ready hold (r.fired.1 hfired), r.letsGo hold (Or.inl rfl)⟩
  | abandon w =>
    refine r.lawful_onWaiter ⟨rfl, rfl⟩ fun hwait => ?_
    have hold := (r.waits w).1 hwait
    exact ⟨.abandons hold, r.letsGo hold (Or.inr rfl)⟩

end Steps

/-- A run goes on by the law. -/
theorem Reflects.run {past : Record} {s : Shutdown} (r : Reflects s past) (ops : List Operation) :
    (∀ before op reply after, s.record ops = before ++ (op, reply) :: after →
      Answered (past ++ before) op reply) ∧
    Reflects (s.run ops).2 (past ++ s.record ops) := by
  induction ops generalizing s past with
  | nil =>
    refine ⟨fun before op reply after h => ?_, ?_⟩
    · cases before <;> cases h
    · rw [show s.record [] = [] from rfl, List.append_nil]
      exact r
  | cons op ops ih =>
    obtain ⟨answered, next⟩ := r.step op
    obtain ⟨later, last⟩ := ih next
    rw [record_cons]
    refine ⟨fun before op' reply after h => ?_, ?_⟩
    · cases before with
      | nil =>
        cases h
        rw [List.append_nil]
        exact answered
      | cons entry before =>
        obtain ⟨rfl, htail⟩ := List.cons.inj h
        have hlater := later before op' reply after htail
        rwa [List.append_assoc] at hlater
    · rwa [List.append_assoc] at last

/-! ## Handles that are dropped unnoticed -/

/-- Two signals that differ in the handles of a list only. -/
structure AlikeBut (gone : List Nat) (s s' : Shutdown) : Prop where
  fired : s'.fired = s.fired
  waiters : s'.waiters = s.waiters
  length : s'.handles.length = s.handles.length
  handles : ∀ h, h ∉ gone → s'.handles.getD h false = s.handles.getD h false

section Unnoticed

variable {gone : List Nat} {s s' : Shutdown}

theorem AlikeBut.onHandle (a : AlikeBut gone s s') {h : Nat} (hh : h ∉ gone)
    {answer answer' : Reply × Shutdown} (hreply : answer'.1 = answer.1)
    (hnext : AlikeBut gone answer.2 answer'.2) :
    (s'.onHandle h answer').1 = (s.onHandle h answer).1 ∧
      AlikeBut gone (s.onHandle h answer).2 (s'.onHandle h answer').2 := by
  rw [Shutdown.onHandle, Shutdown.onHandle, a.handles h hh]
  split
  · exact ⟨hreply, hnext⟩
  · exact ⟨rfl, a⟩

theorem AlikeBut.onWaiter (a : AlikeBut gone s s') {w : Nat} {answer answer' : Reply × Shutdown}
    (hanswer : s.waiters.getD w false = true →
      answer'.1 = answer.1 ∧ AlikeBut gone answer.2 answer'.2) :
    (s'.onWaiter w answer').1 = (s.onWaiter w answer).1 ∧
      AlikeBut gone (s.onWaiter w answer).2 (s'.onWaiter w answer').2 := by
  rw [Shutdown.onWaiter, Shutdown.onWaiter, a.waiters]
  split
  · exact hanswer ‹_›
  · exact ⟨rfl, a⟩

theorem AlikeBut.withoutWaiter (a : AlikeBut gone s s') (w : Nat) :
    AlikeBut gone (s.withoutWaiter w) (s'.withoutWaiter w) :=
  ⟨a.fired, congrArg (List.set · w false) a.waiters, a.length, a.handles⟩

theorem getD_congr_add {marks marks' : List Bool} (hlength : marks'.length = marks.length) {h : Nat}
    (hh : marks'.getD h false = marks.getD h false) :
    (marks' ++ [true]).getD h false = (marks ++ [true]).getD h false := by
  rw [Bool.eq_iff_iff, getD_add, getD_add, hh, hlength]

/-- What is done elsewhere gets the same answer, and the two stay alike. -/
theorem AlikeBut.step (a : AlikeBut gone s s') {op : Operation}
    (hop : ∀ h, op.handle? = some h → h ∉ gone) :
    (s'.step op).1 = (s.step op).1 ∧ AlikeBut gone (s.step op).2 (s'.step op).2 := by
  cases op with
  | trigger h =>
    exact a.onHandle (hop h rfl) (congrArg (fun b => Reply.flag !b) a.fired)
      ⟨rfl, a.waiters, a.length, a.handles⟩
  | check h => exact a.onHandle (hop h rfl) (congrArg Reply.flag a.fired) a
  | clone h =>
    refine a.onHandle (hop h rfl) (congrArg Reply.handle a.length)
      ⟨a.fired, a.waiters, ?_, fun k hk => ?_⟩
    · show (s'.handles ++ [true]).length = (s.handles ++ [true]).length
      rw [List.length_append, List.length_append, a.length]
    · exact getD_congr_add a.length (a.handles k hk)
  | wait h =>
    refine a.onHandle (hop h rfl) (congrArg (fun l => Reply.waiter l.length) a.waiters)
      ⟨a.fired, ?_, a.length, a.handles⟩
    exact congrArg (· ++ [true]) a.waiters
  | drop h =>
    refine a.onHandle (hop h rfl) rfl ⟨a.fired, a.waiters, ?_, fun k hk => ?_⟩
    · show (s'.handles.set h false).length = (s.handles.set h false).length
      rw [List.length_set, List.length_set, a.length]
    · show (s'.handles.set h false).getD k false = (s.handles.set h false).getD k false
      rw [Bool.eq_iff_iff, getD_strike, getD_strike, a.handles k hk]
  | poll w =>
    refine a.onWaiter fun hwait => ?_
    -- the waiter itself keeps the signal, so the handles do not matter
    have hwait' : s'.waiters.getD w false = true := by rwa [a.waiters]
    rw [endsWait_of_waiting hwait, endsWait_of_waiting hwait', a.fired]
    split
    · exact ⟨rfl, a.withoutWaiter w⟩
    · exact ⟨rfl, a⟩
  | abandon w => exact a.onWaiter fun _ => ⟨rfl, a.withoutWaiter w⟩

theorem AlikeBut.run (a : AlikeBut gone s s') {ops : List Operation}
    (hops : ∀ op ∈ ops, ∀ h, op.handle? = some h → h ∉ gone) : (s'.run ops).1 = (s.run ops).1 := by
  induction ops generalizing s s' with
  | nil => rfl
  | cons op ops ih =>
    obtain ⟨hreply, next⟩ := a.step (hops op List.mem_cons_self)
    have hrest := ih next fun op hop => hops op (List.mem_cons_of_mem _ hop)
    show (s'.step op).1 :: ((s'.step op).2.run ops).1 = (s.step op).1 :: ((s.step op).2.run ops).1
    rw [hreply, hrest]

/-- A dropped handle makes no other difference. -/
theorem AlikeBut.dropped (a : AlikeBut gone s s') {h : Nat} (hh : h ∈ gone) :
    AlikeBut gone s (s'.step (.drop h)).2 := by
  rw [Shutdown.step, Shutdown.onHandle]
  split
  · refine ⟨a.fired, a.waiters, ?_, fun k hk => ?_⟩
    · rw [List.length_set, a.length]
    · have hne : k ≠ h := fun heq => hk (heq ▸ hh)
      rw [Bool.eq_iff_iff, getD_strike, a.handles k hk]
      exact and_iff_left hne
  · exact a

theorem AlikeBut.drops (a : AlikeBut gone s s') {handles : List Nat} (hsub : handles ⊆ gone) :
    AlikeBut gone s (s'.run (handles.map .drop)).2 := by
  induction handles generalizing s' with
  | nil => exact a
  | cons h handles ih =>
    obtain ⟨hh, hrest⟩ := List.cons_subset.1 hsub
    exact ih (a.dropped hh) hrest

end Unnoticed

theorem run_append (s : Shutdown) (ops ops' : List Operation) :
    (s.run (ops ++ ops')).1 = (s.run ops).1 ++ ((s.run ops).2.run ops').1 := by
  induction ops generalizing s with
  | nil => rfl
  | cons op ops ih => exact congrArg ((s.step op).1 :: ·) (ih (s.step op).2)

/-- Handles that are dropped between two parts of a run, of which the second one does not use them,
    change no answer. -/
theorem run_drop (s : Shutdown) (before : List Operation) (handles : List Nat)
    {after : List Operation} (h : ∀ op ∈ after, ∀ k, op.handle? = some k → k ∉ handles) :
    (s.run (before ++ (handles.map .drop ++ after))).1 =
      (s.run before).1 ++ (((s.run before).2.run (handles.map .drop)).1 ++
        ((s.run before).2.run after).1) := by
  have alike : AlikeBut handles (s.run before).2 (s.run before).2 := ⟨rfl, rfl, rfl, fun _ _ => rfl⟩
  rw [run_append, run_append, (alike.drops (List.Subset.refl _)).run h]

/-! ## One firing -/

/-- A signal that fires once and stays fired. -/
structure OneShot (ops : List Operation) : Prop where
  /-- Every operation is answered by what was done before it. -/
  answered : ∀ before op reply after, fresh.record ops = before ++ (op, reply) :: after →
    Answered before op reply
  /-- At most one trigger fires the signal, and one does if any trigger is made. -/
  once : (fresh.record ops).firings ≤ 1 ∧
    ((fresh.record ops).firings = 1 ↔ (fresh.record ops).Triggered)
  /-- The answers to what comes next are the same if handles that it does not use are dropped
      first. -/
  unnoticed : ∀ (handles : List Nat) (next : List Operation),
    (∀ op ∈ next, ∀ h, op.handle? = some h → h ∉ handles) →
    ∃ drops rest : List Reply, drops.length = handles.length ∧
      (fresh.run (ops ++ next)).1 = (fresh.run ops).1 ++ rest ∧
      (fresh.run (ops ++ (handles.map .drop ++ next))).1 = (fresh.run ops).1 ++ (drops ++ rest)

theorem length_run (s : Shutdown) (ops : List Operation) : (s.run ops).1.length = ops.length := by
  induction ops generalizing s with
  | nil => rfl
  | cons op ops ih => exact congrArg (· + 1) (ih (s.step op).2)

/-- However handles and waiters are made, used and dropped, the signal fires once and stays
    fired. -/
theorem fires_once_and_stays_fired (ops : List Operation) : OneShot ops := by
  obtain ⟨answered, last⟩ := reflects_fresh.run ops
  rw [List.nil_append] at last
  refine ⟨fun before op reply after h => ?_, ⟨?_, ?_⟩, fun handles next h => ?_⟩
  · exact answered before op reply after h
  · rw [last.firings]
    exact Bool.toNat_le _
  · rw [last.firings, Bool.toNat_eq_one, last.fired]
  · refine ⟨((fresh.run ops).2.run (handles.map .drop)).1, ((fresh.run ops).2.run next).1, ?_⟩
    refine ⟨?_, ?_, ?_⟩
    · rw [length_run, List.length_map]
    · exact run_append _ _ _
    · exact run_drop fresh ops handles h

/-- The only handle is dropped between two looks of a waiter, and another waiter comes too late to
    see the signal being fired. -/
example : (fresh.run [.wait 0, .poll 0, .clone 0, .drop 0, .poll 0, .trigger 1, .wait 1, .trigger 1,
      .drop 1, .poll 1, .poll 0, .poll 0, .check 1]).1 =
    [.waiter 0, .pending, .handle 1, .dropped, .pending, .flag true, .waiter 1, .flag false,
      .dropped, .ready, .ready, .gone, .gone] := rfl

end Gatehouse.Shutdown
