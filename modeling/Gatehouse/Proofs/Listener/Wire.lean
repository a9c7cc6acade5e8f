import Gatehouse.Listener.Wire

/-!
# What the two ends of a pipe meet with

What writing to a pipe can come to (`Pipe.Written`) and what reading from it can (`Pipe.Read`).  On a
connection on which nothing goes wrong (`Wire.Clean`) an end reads what is there and writes behind
it (`Wire.Used`).
-/

namespace Gatehouse

namespace Pipe

variable {p q : Pipe} {count : Nat} {b rest : Bytes}

/-! ## Writing -/

/-- What comes of writing. -/
inductive Written (p : Pipe) (b : Bytes) : Poll (Except SystemError Bytes) → Pipe → Prop
  | refused (e : SystemError) (refusal : p.refusal = some e) : Written p b (.ready (.error e)) p
  | waits (full : p.room = some 0) : Written p b .pending p
  /-- Some of it is taken if there is any, and all of it if there is no limit. -/
  | takes (sent rest : Bytes) (room : Option Nat) (split : b = sent ++ rest)
      (some_ : b ≠ [] → sent ≠ []) (unlimited : p.room = none → rest = [] ∧ room = none) :
    Written p b (.ready (.ok rest)) { p with unread := p.unread ++ sent, room }

theorem write_spec (p : Pipe) (b : Bytes) : Written p b (p.write b).1 (p.write b).2 := by
  unfold write
  split
  · exact .refused _ ‹_›
  · split
    · rename_i unlimited
      have taken := Written.takes (p := p) (b := b) b [] none (List.append_nil b).symm (fun h => h)
        fun _ => ⟨rfl, rfl⟩
      rw [← unlimited] at taken
      exact taken
    · rename_i full
      split
      · rename_i empty
        have nothing := Written.takes (p := p) (b := b) [] [] p.room (List.isEmpty_iff.1 empty)
          (fun more => absurd (List.isEmpty_iff.1 empty) more)
          fun unlimited => by cases full.symm.trans unlimited
        rw [List.append_nil] at nothing
        exact nothing
      · exact .waits full
    · rename_i n left limited
      refine .takes (b.take n) (b.drop n) _ (List.take_append_drop n b).symm (fun more taken => ?_)
        fun unlimited => by cases limited.symm.trans unlimited
      rcases List.take_eq_nil_iff.1 taken with rfl | empty
      · exact left rfl
      · exact more empty

/-- Writing changes the bytes and the room. -/
theorem write_eq_ok_rest (h : p.write b = (.ready (.ok rest), q)) :
    q = { p with unread := q.unread, room := q.room } := by
  have written := write_spec p b
  rw [h] at written
  cases written
  rfl

theorem write_ne_error (willing : p.refusal = none) (b : Bytes) (e : SystemError) :
    (p.write b).1 ≠ .ready (.error e) := by
  intro h
  have written := write_spec p b
  rw [h] at written
  generalize (p.write b).2 = q at written
  cases written with
  | refused _ refusal => cases willing.symm.trans refusal

theorem write_ne_pending (room : p.room ≠ some 0) (b : Bytes) : (p.write b).1 ≠ .pending := by
  intro h
  have written := write_spec p b
  rw [h] at written
  generalize (p.write b).2 = q at written
  cases written with
  | waits full => exact room full

/-- Whoever is not kept waiting writes something. -/
theorem length_rest_lt (h : p.write b = (.ready (.ok rest), q)) (more : b ≠ []) :
    rest.length < b.length := by
  have written := write_spec p b
  rw [h] at written
  cases written with
  | takes sent _ room split some_ =>
    have positive : 0 < sent.length := List.length_pos_iff.2 (some_ more)
    rw [split, List.length_append]
    omega

theorem refusal_write (p : Pipe) (b : Bytes) : (p.write b).2.refusal = p.refusal := by
  have written := write_spec p b
  generalize (p.write b).1 = answer, (p.write b).2 = q at written
  cases written <;> rfl

/-- Where nobody is refused and there is no limit, all that is written is taken. -/
theorem write_of_roomy (welcome : p.refusal = none) (roomy : p.room = none) (b : Bytes) :
    p.write b = (.ready (.ok []), { p with unread := p.unread ++ b }) := by
  have written := write_spec p b
  generalize p.write b = result at written ⊢
  obtain ⟨answer, q⟩ := result
  cases written with
  | refused _ refusal => cases welcome.symm.trans refusal
  | waits full => cases roomy.symm.trans full
  | takes sent rest room split _ unlimited =>
    obtain ⟨rfl, rfl⟩ := unlimited roomy
    rw [split, List.append_nil, ← roomy]

/-- The bytes that are taken of what somebody writes. -/
def accepted (p : Pipe) (b : Bytes) : Bytes :=
  match (p.write b).1 with
  | .ready (.ok rest) => b.take (b.length - rest.length)
  | _ => []

theorem unread_write (p : Pipe) (b : Bytes) : (p.write b).2.unread = p.unread ++ p.accepted b := by
  have written := write_spec p b
  rw [accepted]
  generalize (p.write b).1 = answer, (p.write b).2 = q at written
  cases written with
  | refused => exact (List.append_nil _).symm
  | waits => exact (List.append_nil _).symm
  | takes sent rest room split =>
    simp only
    rw [split, List.length_append, Nat.add_sub_cancel, List.take_left]

/-! ## Reading -/

/-- What comes of reading. -/
inductive Read (p : Pipe) (count : Nat) : Found → Pipe → Prop
  | fault (e : SystemError) (empty : p.unread = []) (fault : p.fault = some e) :
    Read p count (.fault e) { p with fault := none }
  | ended (empty : p.unread = []) (ended : p.ended = true) : Read p count .ended p
  | nothing (empty : p.unread = []) : Read p count .nothing p
  | bytes (some_ : p.unread ≠ []) :
    Read p count (.bytes (p.unread.take count)) { p with unread := p.unread.drop count }

theorem read_spec (p : Pipe) (count : Nat) : Read p count (p.read count).1 (p.read count).2 := by
  unfold read
  split
  · rename_i empty
    have empty := List.isEmpty_iff.1 empty
    split
    · exact .fault _ empty ‹_›
    · split
      · exact .ended empty ‹_›
      · exact .nothing empty
  · rename_i some_
    exact .bytes fun empty => some_ (List.isEmpty_iff.2 empty)

/-- Where no error and no end is on its way, the reader finds what is there. -/
theorem read_of_clean (faultless : p.fault = none) (unended : p.ended = false) (count : Nat) :
    p.read count =
      if p.unread = [] then (.nothing, p)
      else (.bytes (p.unread.take count), { p with unread := p.unread.drop count }) := by
  unfold read
  simp only [faultless, unended, List.isEmpty_iff, Bool.false_eq_true, if_false]

/-- Reading bytes changes nothing else. -/
theorem read_eq_bytes_rest (h : p.read count = (.bytes b, q)) :
    q = { p with unread := q.unread } := by
  have read := read_spec p count
  rw [h] at read
  cases read
  rfl

/-- Whoever wants bytes and finds some gets some. -/
theorem length_bytes_pos (h : p.read count = (.bytes b, q)) (wanted : 0 < count) :
    0 < b.length := by
  have read := read_spec p count
  rw [h] at read
  cases read with
  | bytes some_ =>
    have there : 0 < p.unread.length := List.length_pos_iff.2 some_
    rw [List.length_take]
    omega

theorem unread_read (p : Pipe) (count : Nat) : (p.read count).2.unread = p.unread.drop count := by
  have read := read_spec p count
  generalize (p.read count).1 = found, (p.read count).2 = q at read
  cases read with
  | bytes => rfl
  | fault _ empty | ended empty | nothing empty =>
    show p.unread = _
    rw [empty, List.drop_nil]

theorem refusal_read (p : Pipe) (count : Nat) : (p.read count).2.refusal = p.refusal := by
  have read := read_spec p count
  generalize (p.read count).1 = found, (p.read count).2 = q at read
  cases read <;> rfl

end Pipe

namespace Wire

/-- Hanging up takes nothing back that was written. -/
theorem unread_closeGate (w : Wire) : w.closeGate.outward.unread = w.outward.unread := by
  unfold closeGate
  split <;> rfl

/-! ## Connections on which nothing goes wrong -/

/-- Nothing has gone wrong with a connection: the gate's end is open, and it meets with no error and
    no end, neither when it reads nor when it writes. -/
structure Clean (w : Wire) : Prop where
  isOpen : w.gateOpen = true
  faultless : w.inward.fault = none
  unended : w.inward.ended = false
  /-- What comes in is taken, and finds room. -/
  welcome : w.inward.refusal = none
  roomy : w.inward.room = none
  willing : w.outward.refusal = none

/-- An end reads some bytes and writes some. -/
structure Used (w w' : Wire) (taken put : Bytes) : Prop where
  inward : w.inward.unread = taken ++ w'.inward.unread
  outward : w'.outward.unread = w.outward.unread ++ put
  clean : w.Clean → w'.Clean

variable {w : Wire} {pipe : Pipe} {count : Nat} {b rest : Bytes}

theorem used_refl (w : Wire) : w.Used w [] [] := ⟨rfl, (List.append_nil _).symm, fun h => h⟩

theorem used_read (read : w.inward.read count = (.bytes b, pipe)) :
    w.Used { w with inward := pipe } b [] := by
  refine ⟨(Pipe.read_eq_bytes read).1.symm, (List.append_nil _).symm, fun clean => ?_⟩
  have same := Pipe.read_eq_bytes_rest read
  exact ⟨clean.isOpen, by rw [same]; exact clean.faultless, by rw [same]; exact clean.unended,
    by rw [same]; exact clean.welcome, by rw [same]; exact clean.roomy, clean.willing⟩

theorem used_write (written : w.outward.write b = (.ready (.ok rest), pipe)) :
    ∃ sent, b = sent ++ rest ∧ w.Used { w with outward := pipe } [] sent := by
  obtain ⟨sent, split, outward⟩ := Pipe.write_eq_ok written
  refine ⟨sent, split, rfl, outward, fun clean => ?_⟩
  have same := Pipe.write_eq_ok_rest written
  exact ⟨clean.isOpen, clean.faultless, clean.unended, clean.welcome, clean.roomy,
    by rw [same]; exact clean.willing⟩

/-- What the other end sends arrives. -/
theorem Clean.send (clean : w.Clean) (b : Bytes) :
    (w.change (.send b)).Clean ∧ (w.change (.send b)).inward.unread = w.inward.unread ++ b := by
  have written := Pipe.write_of_roomy clean.welcome clean.roomy b
  have same : (w.inward.write b).2 = { w.inward with unread := w.inward.unread ++ b } := by
    rw [written]
  refine ⟨⟨clean.isOpen, ?_, ?_, ?_, ?_, clean.willing⟩, congrArg Pipe.unread same⟩
  · exact (congrArg Pipe.fault same).trans clean.faultless
  · exact (congrArg Pipe.ended same).trans clean.unended
  · exact (congrArg Pipe.refusal same).trans clean.welcome
  · exact (congrArg Pipe.room same).trans clean.roomy

/-- What the other end does with what is sent, and how much of it is taken, breaks nothing. -/
theorem Clean.setOutward (clean : w.Clean) {outward : Pipe}
    (same : outward.refusal = w.outward.refusal) : { w with outward }.Clean where
  isOpen := clean.isOpen
  faultless := clean.faultless
  unended := clean.unended
  welcome := clean.welcome
  roomy := clean.roomy
  willing := same.trans clean.willing

end Wire

end Gatehouse
