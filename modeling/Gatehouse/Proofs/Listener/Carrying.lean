import Gatehouse.Proofs.Listener.Schedule
import Gatehouse.Proofs.Listener.Verdict
import Gatehouse.Proofs.Listener.Wire

/-!
# A stream with a schedule

The gate's end of a stream holds what has arrived on it and was not read, and what was written
(`Schedule.Carries`).  That goes on when something arrives (`Carries.arrive`), when a handshake
takes some of it and when it writes (`Carries.takes`, `Carries.puts`).
-/

namespace Gatehouse

namespace Pipe

variable {p : Pipe} {count : Nat}

/-- How a pipe ends for its reader, if it does. -/
def ends? (p : Pipe) : Option StreamEnd :=
  match p.fault with
  | some e => some (.fault e)
  | none => if p.ended then some .eof else none

/-- When all is read that is there, the reader finds the end. -/
theorem found_of_empty (empty : p.unread = []) (count : Nat) :
    (p.read count).1 = match p.ends? with
      | some (.fault e) => .fault e
      | some .eof => .ended
      | none => .nothing := by
  unfold read ends?
  rw [if_pos (List.isEmpty_iff.2 empty)]
  cases p.fault with
  | some e => rfl
  | none =>
    simp only
    split <;> rfl

theorem found_of_some (there : p.unread ≠ []) (count : Nat) :
    (p.read count).1 = .bytes (p.unread.take count) := by
  unfold read
  rw [if_neg fun empty => there (List.isEmpty_iff.1 empty)]

end Pipe

namespace Schedule

variable {s : Schedule} {k n d : Nat} {t : Transcript} {w : Wire}

/-- The gate's end of a stream on which everything has arrived that comes before instant `n`, for a
    handshake that has met with `t`. -/
structure Carries (s : Schedule) (n : Nat) (t : Transcript) (w : Wire) : Prop where
  read : t.one ++ t.three ++ w.inward.unread = s.before n
  written : w.outward.unread = t.two
  willing : w.outward.refusal = none
  unlimited : w.outward.room = none
  ends : w.inward.ends? = (s.ending.filter (·.1 < n)).map (·.2)
  /-- Until the stream has ended, more can arrive. -/
  welcome : (∀ e ∈ s.ending, n ≤ e.1) → w.inward.refusal = none ∧ w.inward.room = none

/-- Nothing that arrives is in the way of what is written. -/
theorem outward_changes (s : Schedule) (k : Nat) (w : Wire) :
    ((s.changes k).foldl Wire.change w).outward = w.outward := by
  have each : ∀ c ∈ s.changes k, ∀ w : Wire, (w.change c).outward = w.outward := by
    intro c hc w
    rcases List.mem_append.1 hc with hc | hc
    · obtain ⟨chunk, _, rfl⟩ := List.mem_map.1 hc
      rfl
    · obtain ⟨⟨_, ending⟩, _, rfl⟩ := List.mem_map.1 hc
      cases ending <;> rfl
  generalize s.changes k = changes at each
  induction changes generalizing w with
  | nil => rfl
  | cons c changes ih =>
    rw [List.foldl_cons, ih _ fun c hc => each c (List.mem_cons_of_mem _ hc)]
    exact each c List.mem_cons_self w

/-- Pieces of bytes arrive one behind the other. -/
theorem inward_sends (chunks : List (Nat × Bytes)) (w : Wire) (welcome : w.inward.refusal = none)
    (roomy : w.inward.room = none) :
    ((chunks.map fun chunk => Wire.Change.send chunk.2).foldl Wire.change w).inward =
      { w.inward with unread := w.inward.unread ++ chunks.flatMap (·.2) } := by
  induction chunks generalizing w with
  | nil =>
    rw [List.flatMap_nil, List.append_nil]
    rfl
  | cons chunk chunks ih =>
    have sent : (w.change (.send chunk.2)).inward =
        { w.inward with unread := w.inward.unread ++ chunk.2 } :=
      congrArg Prod.snd (Pipe.write_of_roomy welcome roomy chunk.2)
    rw [List.map_cons, List.foldl_cons, ih _ (by rw [sent]; exact welcome) (by rw [sent]; exact roomy),
      sent, List.flatMap_cons, ← List.append_assoc]

/-- Then the stream may end. -/
theorem inward_end (w : Wire) (ending : StreamEnd) (unended : w.inward.ends? = none) :
    (w.change ending.change).inward.unread = w.inward.unread ∧
      (w.change ending.change).inward.ends? = some ending := by
  cases ending with
  | eof =>
    have faultless : w.inward.fault = none := by
      unfold Pipe.ends? at unended
      split at unended
      · cases unended
      · assumption
    refine ⟨rfl, ?_⟩
    show (match w.inward.fault with
      | some e => some (StreamEnd.fault e)
      | none => if true then some .eof else none) = _
    rw [faultless]
    rfl
  | fault e => exact ⟨rfl, rfl⟩

/-- What has come of the end of a stream before the next instant. -/
theorem ending_succ (going : ∀ e ∈ s.ending, k ≤ e.1) :
    s.ending.filter (·.1 < k) = none ∧
      s.ending.filter (·.1 < k + 1) = s.ending.filter (·.1 = k) := by
  cases hending : s.ending with
  | none => exact ⟨rfl, rfl⟩
  | some e =>
    have notBefore := going e hending
    have same : decide (e.1 < k + 1) = decide (e.1 = k) := decide_eq_decide.2 (by omega)
    have none_ : decide (e.1 < k) = false := decide_eq_false (Nat.not_lt.2 notBefore)
    simp only [Option.filter, same, none_, Bool.false_eq_true, if_false, and_self]

/-- What comes at an instant arrives. -/
theorem Carries.arrive (carries : s.Carries k t w) (going : ∀ e ∈ s.ending, k ≤ e.1) :
    s.Carries (k + 1) t ((s.changes k).foldl Wire.change w) := by
  obtain ⟨welcome, roomy⟩ := carries.welcome going
  obtain ⟨none_, now⟩ := ending_succ going
  have outward := s.outward_changes k w
  have unended := carries.ends
  rw [none_, Option.map_none] at unended
  -- first the bytes
  have sent := inward_sends (s.chunks.filter (·.1 = k)) w welcome roomy
  have split : (s.changes k).foldl Wire.change w =
      ((s.ending.filter (·.1 = k)).toList.map fun e => e.2.change).foldl Wire.change
        (((s.chunks.filter (·.1 = k)).map fun chunk => Wire.Change.send chunk.2).foldl
          Wire.change w) := by
    rw [changes, List.foldl_append]
  generalize ((s.chunks.filter (·.1 = k)).map fun chunk => Wire.Change.send chunk.2).foldl
    Wire.change w = w₁ at sent split
  have unended₁ : w₁.inward.ends? = none := (congrArg Pipe.ends? sent).trans unended
  have read₁ : t.one ++ t.three ++ w₁.inward.unread = s.before (k + 1) := by
    rw [congrArg Pipe.unread sent, before_succ, ← carries.read]
    exact (List.append_assoc ..).symm
  -- then the end
  suffices inward : t.one ++ t.three ++ ((s.changes k).foldl Wire.change w).inward.unread =
        s.before (k + 1) ∧
      ((s.changes k).foldl Wire.change w).inward.ends? = (s.ending.filter (·.1 = k)).map (·.2) ∧
      ((∀ e ∈ s.ending, k + 1 ≤ e.1) → ((s.changes k).foldl Wire.change w).inward = w₁.inward) by
    obtain ⟨read, ends, more⟩ := inward
    refine ⟨read, outward ▸ carries.written, outward ▸ carries.willing,
      outward ▸ carries.unlimited, now ▸ ends, fun later => ?_⟩
    rw [more later, congrArg Pipe.refusal sent, congrArg Pipe.room sent]
    exact ⟨welcome, roomy⟩
  rw [split]
  cases hends : s.ending.filter (·.1 = k) with
  | none => exact ⟨read₁, unended₁, fun _ => rfl⟩
  | some e =>
    obtain ⟨unread, ended⟩ := inward_end w₁ e.2 unended₁
    refine ⟨?_, ended, fun later => ?_⟩
    · show t.one ++ t.three ++ (w₁.change e.2.change).inward.unread = _
      rw [unread]
      exact read₁
    · obtain ⟨ends, this⟩ := Option.filter_eq_some_iff.1 hends
      have after := later e ends
      have := of_decide_eq_true this
      omega

/-- What comes at the beginning is there. -/
theorem carries_zero (s : Schedule) :
    s.Carries 1 {} ((s.changes 0).foldl Wire.change {}) := by
  have empty : s.Carries 0 {} {} :=
    { read := s.before_zero.symm
      written := rfl
      willing := rfl
      unlimited := rfl
      ends := by
        cases s.ending with
        | none => rfl
        | some e => rfl
      welcome := fun _ => ⟨rfl, rfl⟩ }
  exact empty.arrive fun e _ => Nat.zero_le e.1

namespace Carries

variable {t' : Transcript} {count : Nat} {b : Bytes} {inward : Pipe} {one : Octets keyActSize}
  {three : Octets staticActSize}

/-- What is taken is added to what was read. -/
theorem takes (carries : s.Carries n t w) (taken : w.inward.read count = (.bytes b, inward))
    (read : t'.one ++ t'.three = t.one ++ t.three ++ b) (written : t'.two = t.two) :
    s.Carries n t' { w with inward } := by
  have rest := Pipe.read_eq_bytes_rest taken
  refine ⟨?_, carries.written.trans written.symm, carries.willing, carries.unlimited, ?_, ?_⟩
  · rw [← carries.read, ← (Pipe.read_eq_bytes taken).1, read, List.append_assoc]
  · show inward.ends? = _
    rw [rest]
    exact carries.ends
  · show _ → inward.refusal = none ∧ inward.room = none
    rw [rest]
    exact carries.welcome

/-- What is written is added to what went out. -/
theorem puts (carries : s.Carries n t w) (read : t'.one ++ t'.three = t.one ++ t.three)
    (written : t'.two = t.two ++ b) :
    s.Carries n t' { w with outward := { w.outward with unread := w.outward.unread ++ b } } where
  read := by
    rw [read]
    exact carries.read
  written := by
    rw [written, ← carries.written]
  willing := carries.willing
  unlimited := carries.unlimited
  ends := carries.ends
  welcome := carries.welcome

/-- Act one is there. -/
theorem actOne (carries : s.Carries n t w) (read : t.one = one.bytes) :
    keyActSize ≤ (s.before n).length ∧ s.gist.actOne = one := by
  have bytes := carries.read
  rw [read, List.append_assoc] at bytes
  have first : one.bytes <+: s.before n := ⟨_, bytes⟩
  have length := first.length_le
  rw [one.length_eq] at length
  exact ⟨length, actOne_gist (first.trans (s.before_prefix n))⟩

/-- Act three is there. -/
theorem actThree (carries : s.Carries n t w) (read : t.one = one.bytes)
    (read' : t.three = three.bytes) :
    keyActSize + staticActSize ≤ (s.before n).length ∧ s.gist.actThree = three := by
  have bytes := carries.read
  rw [read, read'] at bytes
  have first : one.bytes ++ three.bytes <+: s.before n := ⟨_, bytes⟩
  have length := first.length_le
  rw [List.length_append, one.length_eq, three.length_eq] at length
  exact ⟨length, actThree_gist (first.trans (s.before_prefix n))⟩

end Carries

end Schedule

end Gatehouse
