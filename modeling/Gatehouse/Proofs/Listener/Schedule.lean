import Mathlib.Data.List.Basic
import Gatehouse.Listener.Step

/-!
# What a peer sends, and when

A `Schedule` says which bytes arrive on a stream at which instant, and when and how the stream ends,
if it ever does.  Instants are milliseconds from when the handshake on it begins; what has come
earlier counts as coming then, since nobody could read it.

`Gist.answer` is what the responder has to make of that.  It is computed from all the bytes one
after another, the instants at which the last byte of act one and the last byte of act three are
there, and the end of the stream (`Gist`); in which pieces the bytes arrive is not asked.
-/

namespace Gatehouse

/-- What is longer than that is cut off. -/
theorem Octets.ofPrefix_append {n : Nat} (o : Octets n) (rest : Bytes) :
    ofPrefix n (o.bytes ++ rest) = o := by
  refine Octets.ext ?_
  have enough : n - (o.bytes ++ rest).length = 0 := by
    rw [List.length_append, o.length_eq]
    omega
  show (o.bytes ++ rest).take n ++ List.replicate (n - (o.bytes ++ rest).length) 0 = o.bytes
  rw [enough, List.replicate_zero, List.append_nil, List.take_left' o.length_eq]

/-- How a stream ends. -/
inductive StreamEnd
  /-- The peer sends no more. -/
  | eof
  /-- Reading past what has arrived fails. -/
  | fault (error : SystemError)
deriving DecidableEq

namespace StreamEnd

/-- What an act fails with in which a stream ends.  An error of these two kinds says itself that the
    stream has come to its end, or that there was a wait that is over. -/
def failure (act : Act) : StreamEnd → Failure
  | eof => .shortRead act
  | fault e =>
    if e.kind = .unexpectedEof then .shortRead act
    else if e.kind = .timedOut then .timeout act
    else .io act e

theorem failure_fault (act : Act) (e : SystemError) :
    (fault e).failure act = Failure.ofRead act e := by
  show (if e.kind = .unexpectedEof then Failure.shortRead act
    else if e.kind = .timedOut then .timeout act else .io act e) = _
  unfold Failure.ofRead
  split
  · rename_i eof
    rw [eof]
  · split
    · rename_i timedOut
      rw [timedOut]
    · split
      · contradiction
      · contradiction
      · rfl

theorem failure_ne_closed (act : Act) (ending : StreamEnd) : ending.failure act ≠ .closed := by
  unfold failure
  split
  · exact Failure.noConfusion
  · split
    · exact Failure.noConfusion
    · split <;> exact Failure.noConfusion

/-- What happens to the wire. -/
def change : StreamEnd → Wire.Change
  | eof => .endWrites
  | fault e => .failRead e

end StreamEnd

/-- What a peer sends, and when. -/
structure Schedule where
  /-- Pieces of bytes, each with the instant at which it arrives, in the order in which they do. -/
  chunks : List (Nat × Bytes)
  /-- The end of the stream, if there is one. -/
  ending : Option (Nat × StreamEnd) := none
  sorted : chunks.Pairwise fun a b => a.1 ≤ b.1
  /-- Nothing comes after the end. -/
  last : ∀ e ∈ ending, ∀ chunk ∈ chunks, chunk.1 ≤ e.1

namespace Schedule

/-- All bytes, one after another. -/
def bytes (s : Schedule) : Bytes := s.chunks.flatMap (·.2)

/-- When byte number `n` of these is there, counted from one. -/
def arrivalIn : List (Nat × Bytes) → Nat → Option Nat
  | [], _ => none
  | (k, b) :: rest, n => if n ≤ b.length then some k else arrivalIn rest (n - b.length)

/-- When byte number `n` is there. -/
def arrival (s : Schedule) (n : Nat) : Option Nat := arrivalIn s.chunks n

/-- What happens on the wire at an instant. -/
def changes (s : Schedule) (k : Nat) : List Wire.Change :=
  (s.chunks.filter (·.1 = k)).map (fun chunk => .send chunk.2) ++
    (s.ending.filter (·.1 = k)).toList.map (fun e => e.2.change)

/-! ## What is there before an instant -/

/-- The bytes that arrive before an instant. -/
def before (s : Schedule) (k : Nat) : Bytes := (s.chunks.filter (·.1 < k)).flatMap (·.2)

section Chunks

variable {chunks : List (Nat × Bytes)}

theorem filter_lt_eq_nil {chunk : Nat × Bytes} {k : Nat} (first : ∀ c ∈ chunks, chunk.1 ≤ c.1)
    (late : k ≤ chunk.1) : chunks.filter (·.1 < k) = [] := by
  refine List.filter_eq_nil_iff.2 fun c hc => ?_
  have hle := first c hc
  simp only [decide_eq_true_eq]
  omega

/-- What is there before the next instant was there before, or arrives now. -/
theorem filter_lt_succ (sorted : chunks.Pairwise fun a b => a.1 ≤ b.1) (k : Nat) :
    chunks.filter (·.1 < k + 1) = chunks.filter (·.1 < k) ++ chunks.filter (·.1 = k) := by
  induction chunks with
  | nil => rfl
  | cons chunk rest ih =>
    obtain ⟨first, sorted⟩ := List.pairwise_cons.1 sorted
    have ih := ih sorted
    have whole : ∀ c ∈ chunk :: rest, chunk.1 ≤ c.1 :=
      List.forall_mem_cons.2 ⟨Nat.le_refl _, first⟩
    rcases Nat.lt_trichotomy chunk.1 k with early | now | late
    · rw [List.filter_cons_of_pos (by simp; omega), List.filter_cons_of_pos (by simpa using early),
        List.filter_cons_of_neg (by simp; omega), ih, List.cons_append]
    · have none_ : (chunk :: rest).filter (·.1 < k) = [] :=
        filter_lt_eq_nil whole (Nat.le_of_eq now.symm)
      have none' : rest.filter (·.1 < k) = [] := filter_lt_eq_nil first (Nat.le_of_eq now.symm)
      rw [List.filter_cons_of_pos (by simp; omega), none_, List.nil_append,
        List.filter_cons_of_pos (by simpa using now), ih, none', List.nil_append]
    · have none_ : ∀ j, j ≤ chunk.1 → (chunk :: rest).filter (·.1 < j) = [] := fun j hj =>
        filter_lt_eq_nil whole hj
      have none' : (chunk :: rest).filter (·.1 = k) = [] := by
        refine List.filter_eq_nil_iff.2 fun c hc => ?_
        have hle := whole c hc
        simp only [decide_eq_true_eq]
        omega
      rw [none_ (k + 1) late, none_ k (Nat.le_of_lt late), none']
      rfl

/-- What is there before an instant is the beginning of all that comes. -/
theorem filter_lt_prefix (sorted : chunks.Pairwise fun a b => a.1 ≤ b.1) (k : Nat) :
    chunks.filter (·.1 < k) <+: chunks := by
  induction chunks with
  | nil => exact List.nil_prefix
  | cons chunk rest ih =>
    obtain ⟨first, sorted⟩ := List.pairwise_cons.1 sorted
    by_cases early : chunk.1 < k
    · rw [List.filter_cons_of_pos (by simpa using early)]
      exact (List.prefix_cons_inj chunk).2 (ih sorted)
    · have none_ : (chunk :: rest).filter (·.1 < k) = [] :=
        filter_lt_eq_nil (List.forall_mem_cons.2 ⟨Nat.le_refl _, first⟩) (Nat.not_lt.1 early)
      rw [none_]
      exact List.nil_prefix

/-- Byte number `n` is there before an instant just if so many bytes are. -/
theorem arrivalIn_lt_iff (sorted : chunks.Pairwise fun a b => a.1 ≤ b.1) {n k : Nat} (pos : 0 < n) :
    (∃ j ∈ arrivalIn chunks n, j < k) ↔ n ≤ ((chunks.filter (·.1 < k)).flatMap (·.2)).length := by
  induction chunks generalizing n with
  | nil =>
    show (∃ j, j ∈ (none : Option Nat) ∧ j < k) ↔ n ≤ 0
    simp only [Option.mem_def, reduceCtorEq, false_and, exists_false, false_iff]
    omega
  | cons chunk rest ih =>
    obtain ⟨j, b⟩ := chunk
    obtain ⟨first, sorted⟩ := List.pairwise_cons.1 sorted
    by_cases early : j < k
    · rw [List.filter_cons_of_pos (by simpa using early), List.flatMap_cons, List.length_append,
        arrivalIn]
      show _ ↔ n ≤ b.length + _
      split
      · rename_i here
        simp only [Option.mem_def, Option.some.injEq, exists_eq_left']
        omega
      · rename_i later
        rw [ih sorted (by omega)]
        omega
    · have none_ : rest.filter (·.1 < k) = [] := filter_lt_eq_nil first (Nat.not_lt.1 early)
      rw [List.filter_cons_of_neg (by simpa using early), none_, arrivalIn]
      have small : ¬ n ≤ (([] : List (Nat × Bytes)).flatMap (·.2)).length := by
        simp only [List.flatMap_nil, List.length_nil]
        omega
      split
      · simp only [Option.mem_def, Option.some.injEq, exists_eq_left']
        exact ⟨fun h => absurd h early, fun h => absurd h small⟩
      · rename_i later
        have ih := ih sorted (n := n - b.length) (by omega)
        rw [none_, List.flatMap_nil, List.length_nil] at ih
        rw [ih]
        exact ⟨fun h => absurd h (by omega), fun h => absurd h small⟩

end Chunks

variable {s : Schedule} {n k size due : Nat} {act : Act} {ending : StreamEnd}

theorem before_zero (s : Schedule) : s.before 0 = [] := by
  simp [before]

theorem before_succ (s : Schedule) (k : Nat) :
    s.before (k + 1) = s.before k ++ (s.chunks.filter (·.1 = k)).flatMap (·.2) := by
  rw [before, filter_lt_succ s.sorted, List.flatMap_append]
  rfl

theorem before_prefix (s : Schedule) (k : Nat) : s.before k <+: s.bytes := by
  obtain ⟨rest, whole⟩ := filter_lt_prefix s.sorted k
  refine ⟨rest.flatMap (·.2), ?_⟩
  rw [before, ← List.flatMap_append, whole]
  rfl

theorem length_before_le_succ (s : Schedule) (k : Nat) :
    (s.before k).length ≤ (s.before (k + 1)).length := by
  rw [before_succ, List.length_append]
  exact Nat.le_add_right _ _

theorem arrival_lt_iff (pos : 0 < n) : (∃ j ∈ s.arrival n, j < k) ↔ n ≤ (s.before k).length :=
  arrivalIn_lt_iff s.sorted pos

/-- A byte arrives at the instant before which it is not there, and after which it is. -/
theorem arrival_eq_some (pos : 0 < n) (short : (s.before k).length < n)
    (whole : n ≤ (s.before (k + 1)).length) : s.arrival n = some k := by
  obtain ⟨j, harrival, hlt⟩ := (arrival_lt_iff pos).2 whole
  have notBefore : ¬ j < k := fun early =>
    absurd ((arrival_lt_iff pos).1 ⟨j, harrival, early⟩) (Nat.not_le.2 short)
  obtain rfl : j = k := by omega
  exact harrival

theorem le_of_arrival (pos : 0 < n) (short : (s.before k).length < n) {j : Nat}
    (arrives : s.arrival n = some j) : k ≤ j := by
  by_contra early
  exact absurd ((arrival_lt_iff pos).1 ⟨j, arrives, Nat.not_le.1 early⟩) (Nat.not_le.2 short)

/-- No byte comes after the end. -/
theorem le_of_ending {e : Nat × StreamEnd} (ends : s.ending = some e) {j : Nat}
    (arrives : s.arrival n = some j) : j ≤ e.1 := by
  have mem : ∀ {chunks : List (Nat × Bytes)} {n : Nat}, arrivalIn chunks n = some j →
      ∃ chunk ∈ chunks, chunk.1 = j := by
    intro chunks
    induction chunks with
    | nil =>
      intro n h
      cases h
    | cons chunk rest ih =>
      intro n h
      rw [arrivalIn] at h
      split at h
      · cases h
        exact ⟨chunk, List.mem_cons_self, rfl⟩
      · obtain ⟨c, hc, heq⟩ := ih h
        exact ⟨c, List.mem_cons_of_mem _ hc, heq⟩
  obtain ⟨chunk, hmem, rfl⟩ := mem arrives
  exact s.last e ends chunk hmem

end Schedule

/-! ## What the responder has to make of it -/

/-- What of a schedule decides over the answer. -/
structure Gist where
  /-- All bytes, one after another. -/
  bytes : Bytes
  /-- When the last byte of act one is there. -/
  one : Option Nat
  /-- When the last byte of act three is there. -/
  three : Option Nat
  /-- When and how the stream ends. -/
  ending : Option (Nat × StreamEnd)

/-- The gist of a schedule. -/
def Schedule.gist (s : Schedule) : Gist where
  bytes := s.bytes
  one := s.arrival keyActSize
  three := s.arrival (keyActSize + staticActSize)
  ending := s.ending

/-- What the responder comes to. -/
structure Answer where
  /-- The machine of the secured connection with the peer's key, or why there is none. -/
  result : Except Failure (Machine × PublicKey)
  /-- The instant at which this is settled. -/
  instant : Nat
  /-- What has been written to the peer. -/
  written : Bytes

/-- The outcome that a connection has with that. -/
def Answer.outcome (a : Answer) (id stream : Nat) (peer : SocketAddress) : Outcome :=
  a.result.map fun (machine, remote) => ⟨id, stream, peer, remote, machine⟩

namespace Gist

variable (S : Suite) (g : Gist)

/-- Act one, if it comes. -/
def actOne : Octets keyActSize := .ofPrefix keyActSize g.bytes

/-- Act three, if it comes. -/
def actThree : Octets staticActSize := .ofPrefix staticActSize (g.bytes.drop keyActSize)

/-- Wait for an act until `due`: when its last byte is there, or why it has failed and when.  Bytes
    that arrive do so before the stream ends. -/
def wait (act : Act) (arrival : Option Nat) (due : Nat) : Except (Failure × Nat) Nat :=
  match arrival with
  | some k => if k ≤ due then .ok k else .error (.timeout act, due)
  | none =>
    match g.ending with
    | some (k, ending) =>
      if k ≤ due then .error (ending.failure act, k) else .error (.timeout act, due)
    | none => .error (.timeout act, due)

/-- The answer once act two is written. -/
def conclude (machine : Machine) (written : Bytes) (due : Nat) : Answer :=
  match g.wait .three g.three due with
  | .error (failure, k) => ⟨.error failure, k, written⟩
  | .ok k =>
    match machine.receiveActThree S g.actThree with
    | (.error e, _) => ⟨.error (.handshake e), k, written⟩
    | (.ok (), machine) =>
      match machine.remoteStatic with
      | none => ⟨.error (.handshake (.invalidKey .three)), k, written⟩
      | some remote => ⟨.ok (machine, remote), k, written⟩

/-- **The answer of a responder** that draws this secret and gives each act so much time: act three
    has its time from when act two is written, which is when act one is there. -/
def answer (identity : Identity) (deadline : Nat) (draw : Secret) : Answer :=
  match g.wait .one g.one deadline with
  | .error (failure, k) => ⟨.error failure, k, []⟩
  | .ok k =>
    match (Machine.responder S identity).receiveActOne S g.actOne with
    | (.error e, _) => ⟨.error (.handshake e), k, []⟩
    | (.ok (), machine) =>
      match machine.sendActTwo S draw with
      | (.error e, _) => ⟨.error (.handshake e), k, []⟩
      | (.ok two, machine) => g.conclude S machine two.bytes (k + deadline)

/-! ## How waiting ends -/

variable {S g}

/-- The ways that waiting for an act can end. -/
inductive Waited (g : Gist) (act : Act) (arrival : Option Nat) (due : Nat) :
    Except (Failure × Nat) Nat → Prop
  | whole (k : Nat) (arrives : arrival = some k) (inTime : k ≤ due) :
    Waited g act arrival due (.ok k)
  | ended (k : Nat) (ending : StreamEnd) (ends : g.ending = some (k, ending)) (inTime : k ≤ due) :
    Waited g act arrival due (.error (ending.failure act, k))
  | late : Waited g act arrival due (.error (.timeout act, due))

theorem wait_spec (act : Act) (arrival : Option Nat) (due : Nat) :
    Waited g act arrival due (g.wait act arrival due) := by
  unfold wait
  split
  · split
    · exact .whole _ rfl ‹_›
    · exact .late
  · split
    · split
      · exact .ended _ _ ‹_› ‹_›
      · exact .late
    · exact .late

theorem le_of_wait_ok {act : Act} {arrival : Option Nat} {due k : Nat}
    (h : g.wait act arrival due = .ok k) : k ≤ due := by
  have waited := g.wait_spec act arrival due
  rw [h] at waited
  cases waited with
  | whole _ _ inTime => exact inTime

theorem of_wait_error {act : Act} {arrival : Option Nat} {due k : Nat} {failure : Failure}
    (h : g.wait act arrival due = .error (failure, k)) : k ≤ due ∧ failure ≠ .closed := by
  have waited := g.wait_spec act arrival due
  rw [h] at waited
  cases waited with
  | ended _ ending _ inTime => exact ⟨inTime, ending.failure_ne_closed act⟩
  | late => exact ⟨Nat.le_refl _, Failure.noConfusion⟩

theorem conclude_le (machine : Machine) (written : Bytes) (due : Nat) :
    (g.conclude S machine written due).instant ≤ due ∧
      (g.conclude S machine written due).result ≠ .error .closed := by
  unfold conclude
  split
  · rename_i failure k failed
    obtain ⟨hle, hne⟩ := of_wait_error failed
    exact ⟨hle, fun closed => hne (Except.error.inj closed)⟩
  · rename_i k whole
    have hle := le_of_wait_ok whole
    split
    · exact ⟨hle, nofun⟩
    · split
      · exact ⟨hle, nofun⟩
      · exact ⟨hle, nofun⟩

/-- **Whatever a peer does, the acts take no longer than two deadlines**, and they never end as the
    shutdown ends them. -/
theorem answer_le (identity : Identity) (deadline : Nat) (draw : Secret) :
    (g.answer S identity deadline draw).instant ≤ 2 * deadline ∧
      (g.answer S identity deadline draw).result ≠ .error .closed := by
  unfold answer
  split
  · rename_i failure k failed
    obtain ⟨hle, hne⟩ := of_wait_error failed
    exact ⟨by show k ≤ _; omega, fun closed => hne (Except.error.inj closed)⟩
  · rename_i k whole
    have hle := le_of_wait_ok whole
    split
    · exact ⟨by show k ≤ _; omega, nofun⟩
    · split
      · exact ⟨by show k ≤ _; omega, nofun⟩
      · rename_i two answering _
        obtain ⟨hle', hne⟩ := g.conclude_le (S := S) answering two.bytes (k + deadline)
        exact ⟨by omega, hne⟩

end Gist

namespace Schedule

variable {s : Schedule} {k size due : Nat} {act : Act} {ending : StreamEnd}

/-- At instant `k`, before anything happens at it, an act that ends with byte number `size` is still
    waited for: it is not all there, the stream has not ended, and there is time left. -/
structure Awaits (s : Schedule) (size due k : Nat) : Prop where
  short : (s.before k).length < size
  going : ∀ e ∈ s.ending, k ≤ e.1
  early : k ≤ due

namespace Awaits

theorem pos (awaits : s.Awaits size due k) : 0 < size :=
  Nat.lt_of_le_of_lt (Nat.zero_le _) awaits.short

/-- Its last byte arrives. -/
theorem wait_whole (awaits : s.Awaits size due k) (act : Act)
    (whole : size ≤ (s.before (k + 1)).length) :
    s.gist.wait act (s.arrival size) due = .ok k := by
  rw [arrival_eq_some awaits.pos awaits.short whole]
  exact if_pos awaits.early

/-- It does not, and the stream ends. -/
theorem wait_ended (awaits : s.Awaits size due k) (act : Act)
    (short : (s.before (k + 1)).length < size) (ends : s.ending = some (k, ending)) :
    s.gist.wait act (s.arrival size) due = .error (ending.failure act, k) := by
  cases arrives : s.arrival size with
  | some j =>
    have after := le_of_arrival awaits.pos short arrives
    have notAfter := le_of_ending ends arrives
    simp only at notAfter
    omega
  | none =>
    unfold Gist.wait
    have gist : s.gist.ending = some (k, ending) := ends
    simp only [gist]
    exact if_pos awaits.early

/-- It does not, the stream goes on, and the time is up. -/
theorem wait_late (awaits : s.Awaits size due k) (act : Act)
    (short : (s.before (k + 1)).length < size) (going : ∀ e ∈ s.ending, k < e.1) (late : due ≤ k) :
    s.gist.wait act (s.arrival size) due = .error (.timeout act, k) := by
  obtain rfl : k = due := Nat.le_antisymm awaits.early late
  unfold Gist.wait
  cases arrives : s.arrival size with
  | some j =>
    have after := le_of_arrival awaits.pos short arrives
    exact if_neg (Nat.not_le.2 after)
  | none =>
    have gist : s.gist.ending = s.ending := rfl
    cases ends : s.ending with
    | none => simp only [gist, ends]
    | some e =>
      simp only [gist, ends]
      exact if_neg (Nat.not_le.2 (going e ends))

/-- Waiting does not end before the instant. -/
theorem le_wait (awaits : s.Awaits size due k) (act : Act) :
    (∀ j, s.gist.wait act (s.arrival size) due = .ok j → k ≤ j) ∧
      ∀ failure j, s.gist.wait act (s.arrival size) due = .error (failure, j) → k ≤ j := by
  have waited := s.gist.wait_spec act (s.arrival size) due
  generalize s.gist.wait act (s.arrival size) due = result at waited
  cases waited with
  | whole j arrives =>
    have hle := le_of_arrival awaits.pos awaits.short arrives
    refine ⟨fun _ h => ?_, nofun⟩
    cases h
    exact hle
  | ended j ending ends =>
    have hle := awaits.going _ ends
    refine ⟨nofun, fun _ _ h => ?_⟩
    cases h
    exact hle
  | late =>
    refine ⟨nofun, fun _ _ h => ?_⟩
    cases h
    exact awaits.early

end Awaits

/-! ## The acts among the bytes -/

/-- The first bytes that come are act one. -/
theorem actOne_gist {one : Octets keyActSize} (first : one.bytes <+: s.bytes) :
    s.gist.actOne = one := by
  obtain ⟨rest, whole⟩ := first
  have bytes : s.gist.bytes = one.bytes ++ rest := whole.symm
  rw [Gist.actOne, bytes, Octets.ofPrefix_append]

/-- The next ones are act three. -/
theorem actThree_gist {one : Octets keyActSize} {three : Octets staticActSize}
    (first : one.bytes ++ three.bytes <+: s.bytes) : s.gist.actThree = three := by
  obtain ⟨rest, whole⟩ := first
  have bytes : s.gist.bytes = one.bytes ++ (three.bytes ++ rest) := by
    rw [← List.append_assoc]
    exact whole.symm
  rw [Gist.actThree, bytes, List.drop_left' one.length_eq, Octets.ofPrefix_append]

end Schedule

end Gatehouse
