import Gatehouse.Proofs.Dial.Progress
import Gatehouse.Proofs.Dial.Tale
import Gatehouse.Proofs.Listener.Carrying

/-!
# When a dialer reads act two

The time for act two begins with the turn that writes the last of act one (`exists_begun`), and
reading is over with a turn that finds the last of act two, the end of the stream, or nothing when
the time is up (`Sofar.exists_over`).

A dialer is prompt when time goes on only after it has done what there was to do (`Line.Prompt`).
Then it never reads when the time is over (`Line.InTime.run`).  Whatever the other side does and when,
a dialer can be prompt (`exists_prompt`).
-/

namespace Gatehouse.Dial

variable {S : Suite} {own : Identity} {remote : PublicKey} {draw : Secret} {t : Tale} {d d' : Dial}
  {wire wire' : Wire} {now due : Nat} {l : Line} {got : Bytes} {e : Event}

/-! ## Prompt runs -/

/-- Time goes on only when the dialer has nothing to do, and by no more than a millisecond. -/
def Line.Prompt (S : Suite) : Line → List Event → Prop
  | _, [] => True
  | l, e :: events =>
    (∀ ms, e = .advance ms → ms ≤ 1 ∧ l.dial.step S l.now l.wire = none) ∧
      (l.apply S e).Prompt S events

theorem prompt_append {events more : List Event} :
    l.Prompt S (events ++ more) ↔ l.Prompt S events ∧ (l.run S events).Prompt S more := by
  induction events generalizing l with
  | nil => exact ⟨fun h => ⟨trivial, h⟩, And.right⟩
  | cons e events ih => exact (and_congr_right fun _ => ih).trans and_assoc.symm

theorem prompt_steps (S : Suite) (l : Line) (steps : Nat) :
    l.Prompt S (List.replicate steps .step) := by
  induction steps generalizing l with
  | zero => trivial
  | succ steps ih => exact ⟨nofun, ih _⟩

/-- Is an event none of the dialer's own turns? -/
def Event.isOutside : Event → Bool
  | .step => false
  | .wire _ | .advance _ => true

/-- **Whatever the other side does, and when, a dialer can be prompt.** -/
theorem exists_prompt (unfinished : Unfinished l.dial.phase) (doings : List Event)
    (slow : ∀ ms, .advance ms ∈ doings → ms ≤ 1) :
    ∃ events, l.Prompt S events ∧ events.filter Event.isOutside = doings.filter Event.isOutside ∧
      let l' := l.run S events
      l'.dial.step S l'.now l'.wire = none := by
  have steps_inside : ∀ steps, (List.replicate steps Event.step).filter Event.isOutside = [] :=
    fun steps => List.filter_eq_nil_iff.2 fun e mem => by
      rw [List.eq_of_mem_replicate mem]
      exact Bool.false_ne_true
  induction doings generalizing l with
  | nil =>
    obtain ⟨steps, idle⟩ := exists_idle S unfinished
    exact ⟨_, prompt_steps S l steps, steps_inside steps, idle⟩
  | cons e doings ih =>
    -- first what there is to do, then the event
    obtain ⟨steps, idle⟩ := exists_idle S unfinished
    have unfinished' := (unfinished.run (S := S) (List.replicate steps .step)).apply (S := S) e
    obtain ⟨later, prompt, same, idle'⟩ :=
      ih unfinished' fun ms mem => slow ms (List.mem_cons_of_mem _ mem)
    refine ⟨List.replicate steps .step ++ e :: later, ?_, ?_, ?_⟩
    · refine prompt_append.2 ⟨prompt_steps S l steps, ?_, prompt⟩
      rintro ms rfl
      exact ⟨slow ms List.mem_cons_self, idle⟩
    · rw [List.filter_append, steps_inside, List.nil_append, List.filter_cons, List.filter_cons, same]
    · rw [run_append]
      exact idle'

/-! ## When reading begins -/

/-- The next turn of a dialer writes the last of act one, and act two is due so long after. -/
structure Begins (l : Line) (timeout due : Nat) : Prop where
  writes : ∃ left, l.dial.phase = .writeOne left ∧ (l.wire.outward.write left).1 = .ready (.ok [])
  due_eq : due = l.now + timeout

theorem begins_of_stepped (stepped : Stepped S now d wire d' wire')
    (reading : d'.phase = .readTwo got due) :
    (∃ got, d.phase = .readTwo got due) ∨ Begins ⟨d, wire, now⟩ d.timeout due := by
  cases stepped with
  | writesOne left rest outward phase_eq written =>
    by_cases all : rest = []
    · simp only [if_pos all] at reading
      cases reading
      subst all
      exact .inr ⟨⟨left, phase_eq, congrArg (·.1) written⟩, rfl⟩
    · simp only [if_neg all] at reading
      cases reading
  | reads got' bytes due' inward phase_eq =>
    cases reading
    exact .inl ⟨got', phase_eq⟩
  | writesThree left rest =>
    by_cases all : rest = []
    · simp only [if_pos all] at reading
      cases reading
    · simp only [if_neg all] at reading
      cases reading
  | _ => cases reading

/-- **The time for act two begins with the turn that writes the last of act one.** -/
theorem exists_begun {events : List Event} (reading : (l.run S events).dial.phase = .readTwo got due) :
    (∃ got, l.dial.phase = .readTwo got due) ∨
      ∃ first rest, events = first ++ .step :: rest ∧ Begins (l.run S first) l.dial.timeout due := by
  induction events generalizing l with
  | nil => exact .inl ⟨got, reading⟩
  | cons e events ih =>
    have same := (settings_apply S l e).2.2
    rcases ih (l := l.apply S e) reading with ⟨got', before⟩ | ⟨first, rest, rfl, begins⟩
    · cases e with
      | step =>
        cases hstep : l.dial.step S l.now l.wire with
        | none =>
          rw [Line.apply, hstep] at before
          exact .inl ⟨got', before⟩
        | some next =>
          rw [Line.apply, hstep] at before
          exact (begins_of_stepped (step_spec hstep) before).imp_right
            fun begins => ⟨[], events, rfl, begins⟩
      | wire change => exact .inl ⟨got', before⟩
      | advance milliseconds => exact .inl ⟨got', before⟩
    · rw [same] at begins
      exact .inr ⟨e :: first, rest, rfl, begins⟩

/-! ## The time for act two -/

/-- A dialer that reads act two has time for it, if only this millisecond. -/
def Line.InTime (l : Line) : Prop := ∀ got due, l.dial.phase = .readTwo got due → l.now ≤ due

theorem Line.InTime.stepped (inTime : ∀ got due, d.phase = .readTwo got due → now ≤ due)
    (stepped : Stepped S now d wire d' wire') :
    ∀ got due, d'.phase = .readTwo got due → now ≤ due := by
  intro got due reading
  rcases begins_of_stepped stepped reading with ⟨got', before⟩ | begins
  · exact inTime got' due before
  · rw [begins.due_eq]
    exact Nat.le_add_right now d.timeout

theorem Line.InTime.apply (inTime : l.InTime)
    (prompt : ∀ ms, e = .advance ms → ms ≤ 1 ∧ l.dial.step S l.now l.wire = none) :
    (l.apply S e).InTime := by
  cases e with
  | step =>
    cases hstep : l.dial.step S l.now l.wire with
    | none =>
      rw [Line.apply, hstep]
      exact inTime
    | some next =>
      rw [Line.apply, hstep]
      exact Line.InTime.stepped inTime (step_spec hstep)
  | wire change => exact inTime
  | advance milliseconds =>
    intro got due phase_eq
    obtain ⟨slow, idle⟩ := prompt milliseconds rfl
    have phase_eq : l.dial.phase = .readTwo got due := phase_eq
    -- it has found nothing, and that it is not too late
    have early : l.now < due := by
      rcases done_or_waits idle with done | waits
      · rw [result?, phase_eq] at done
        cases done
      · cases waits with
        | room act left writing =>
          rw [phase_eq] at writing
          cases writing
        | actTwo got' due' reading absent early =>
          cases phase_eq.symm.trans reading
          exact early
    show l.now + milliseconds ≤ due
    omega

/-- **A prompt dialer never reads act two when the time for it is over.** -/
theorem Line.InTime.run (inTime : l.InTime) {events : List Event} (prompt : l.Prompt S events) :
    (l.run S events).InTime := by
  induction events generalizing l with
  | nil => exact inTime
  | cons e events ih =>
    obtain ⟨now, later⟩ := prompt
    exact ih (inTime.apply now) later

/-! ## When it is over -/

/-- What a dialer that reads act two, and has read `got` of it, finds when it is over with that; what
    it has read then, and why it is not act two, if it is not. -/
inductive Over (l : Line) (got : Bytes) (due : Nat) : Bytes → Option Lapse → Prop
  | whole (last : Bytes) (there : l.wire.inward.unread.take (keyActSize - got.length) = last)
      (full : (got ++ last).length = keyActSize) : Over l got due (got ++ last) none
  | ended (ending : StreamEnd) (empty : l.wire.inward.unread = [])
      (ends : l.wire.inward.ends? = some ending) : Over l got due got (some (.ended ending))
  | late (empty : l.wire.inward.unread = []) (unended : l.wire.inward.ends? = none)
      (elapsed : due ≤ l.now) : Over l got due got (some .late)

/-- Act two is read, or cannot be. -/
def Tale.Decided (t : Tale) : Prop := t.lapse ≠ none ∨ t.two.length = keyActSize

/-- Nothing is added to what was read of act two when it is decided. -/
theorem Sofar.see_of_decided (sofar : Sofar S own remote draw t l.dial.phase l.dial.machine)
    (decided : t.Decided) (e : Event) :
    (l.see t e).two = t.two ∧ (l.see t e).lapse = t.lapse := by
  cases e with
  | step =>
    obtain ⟨⟨peer, key, timeout, machine, phase⟩, wire, now⟩ := l
    cases sofar with
    | begun | writeOne => exact ⟨rfl, rfl⟩
    | readTwo asked got due short =>
      rcases decided with lapse | full
      · exact absurd rfl lapse
      · exact absurd full (Nat.ne_of_lt short)
    | _ => exact ⟨rfl, rfl⟩
  | wire change => exact ⟨rfl, rfl⟩
  | advance milliseconds => exact ⟨rfl, rfl⟩

theorem Sofar.tale_of_decided (sofar : Sofar S own remote draw t l.dial.phase l.dial.machine)
    (decided : t.Decided) (events : List Event) :
    (l.tale S events t).two = t.two ∧ (l.tale S events t).lapse = t.lapse := by
  induction events generalizing l t with
  | nil => exact ⟨rfl, rfl⟩
  | cons e events ih =>
    obtain ⟨two, lapse⟩ := sofar.see_of_decided decided e
    have decided' : (l.see t e).Decided := by
      rw [Tale.Decided, two, lapse]
      exact decided
    obtain ⟨two', lapse'⟩ := ih (sofar.apply e) decided'
    exact ⟨two'.trans two, lapse'.trans lapse⟩

/-- A turn that decides over act two is one that reads. -/
theorem Sofar.over_of_see (sofar : Sofar S own remote draw t l.dial.phase l.dial.machine)
    (open_ : ¬ t.Decided) (decided : (l.see t e).Decided) :
    e = .step ∧ ∃ got due, l.dial.phase = .readTwo got due ∧
      Over l got due (l.see t e).two (l.see t e).lapse := by
  cases e with
  | step =>
    obtain ⟨⟨peer, key, timeout, machine, phase⟩, wire, now⟩ := l
    refine ⟨rfl, ?_⟩
    cases sofar with
    | readTwo asked got due short =>
      refine ⟨got, due, rfl, ?_⟩
      by_cases empty : wire.inward.unread = []
      · have found := Pipe.found_of_empty empty (keyActSize - got.length)
        cases ends : wire.inward.ends? with
        | some ending =>
          rw [ends] at found
          cases ending with
          | eof =>
            simp only [Line.see, found]
            exact .ended .eof empty ends
          | fault error =>
            simp only [Line.see, found]
            exact .ended (.fault error) empty ends
        | none =>
          rw [ends] at found
          simp only [Line.see, found] at decided ⊢
          by_cases elapsed : expired now due = true
          · rw [if_pos elapsed]
            exact .late empty ends (of_decide_eq_true elapsed)
          · rw [if_neg elapsed] at decided
            exact absurd decided open_
      · have found := Pipe.found_of_some empty (keyActSize - got.length)
        simp only [Line.see, found] at decided ⊢
        exact .whole _ rfl (decided.resolve_left fun lapse => lapse rfl)
    | _ => exact absurd decided open_
  | wire change => exact absurd decided open_
  | advance milliseconds => exact absurd decided open_

/-- **Reading act two is over with one turn**, which finds the last of it, or the end of the stream, or
    that it is too late. -/
theorem Sofar.exists_over (sofar : Sofar S own remote draw t l.dial.phase l.dial.machine)
    (open_ : ¬ t.Decided) {events : List Event} (decided : (l.tale S events t).Decided) :
    ∃ before after got due, events = before ++ .step :: after ∧
      (l.run S before).dial.phase = .readTwo got due ∧
      Over (l.run S before) got due (l.tale S events t).two (l.tale S events t).lapse := by
  obtain ⟨before, e, after, rfl, still, now⟩ := exists_turn Tale.Decided open_ decided
  have sofar' := sofar.run before
  obtain ⟨rfl, got, due, phase_eq, ended⟩ := sofar'.over_of_see still now
  -- and so it stays
  obtain ⟨two, lapse⟩ := (sofar'.apply .step).tale_of_decided now after
  have told : l.tale S (before ++ .step :: after) t = _ := tale_append S l before (.step :: after) t
  refine ⟨before, after, got, due, rfl, phase_eq, ?_⟩
  rw [told, Line.tale, two, lapse]
  exact ended

end Gatehouse.Dial
