/-!
# Spans of time

A span is a number of seconds in sixty-four bits, and the nanoseconds that are left over of another
second.  Not every two spans have a sum: its seconds have to fit.
-/

namespace Gatehouse

/-- The nanoseconds in a second. -/
def nanosPerSecond : Nat := 1000000000

theorem nanosPerSecond_pos : 0 < nanosPerSecond := Nat.zero_lt_succ _

/-- A span of time. -/
structure Span where
  seconds : UInt64
  nanos : Nat
  /-- Less than a second is left over. -/
  nanos_lt : nanos < nanosPerSecond
deriving DecidableEq

namespace Span

theorem nanos_ofMillis_lt (millis : UInt64) :
    (millis % 1000).toNat * 1000000 < nanosPerSecond := by
  have hmod : (millis % 1000).toNat = millis.toNat % 1000 := UInt64.toNat_mod millis 1000
  simp only [nanosPerSecond]
  omega

/-- So many milliseconds. -/
def ofMillis (millis : UInt64) : Span :=
  ⟨millis / 1000, (millis % 1000).toNat * 1000000, nanos_ofMillis_lt millis⟩

/-- So many seconds. -/
def ofSeconds (seconds : UInt64) : Span := ⟨seconds, 0, nanosPerSecond_pos⟩

/-- The sum of two spans, if its seconds fit. -/
def add? (s t : Span) : Option Span :=
  let seconds := s.seconds.toNat + t.seconds.toNat + (s.nanos + t.nanos) / nanosPerSecond
  if seconds < UInt64.size then
    some ⟨UInt64.ofNat seconds, (s.nanos + t.nanos) % nanosPerSecond,
      Nat.mod_lt _ nanosPerSecond_pos⟩
  else none

/-- The nanoseconds in a span. -/
def toNanos (s : Span) : Nat := s.seconds.toNat * nanosPerSecond + s.nanos

theorem toNanos_ofMillis (millis : UInt64) : (ofMillis millis).toNanos = millis.toNat * 1000000 := by
  have hdiv : (millis / 1000).toNat = millis.toNat / 1000 := UInt64.toNat_div millis 1000
  have hmod : (millis % 1000).toNat = millis.toNat % 1000 := UInt64.toNat_mod millis 1000
  simp only [toNanos, ofMillis, nanosPerSecond]
  omega

/-- A sum that is there is the sum. -/
theorem toNanos_add? {s t sum : Span} (h : s.add? t = some sum) :
    sum.toNanos = s.toNanos + t.toNanos := by
  unfold add? at h
  simp only [Option.ite_none_right_eq_some] at h
  obtain ⟨hfits, hsum⟩ := h
  obtain rfl := Option.some.inj hsum
  have hseconds : (UInt64.ofNat (s.seconds.toNat + t.seconds.toNat
      + (s.nanos + t.nanos) / nanosPerSecond)).toNat =
        s.seconds.toNat + t.seconds.toNat + (s.nanos + t.nanos) / nanosPerSecond :=
    UInt64.toNat_ofNat_of_lt' hfits
  rw [toNanos, hseconds]
  simp only [toNanos, nanosPerSecond]
  omega

/-- There is a sum exactly if its seconds can be counted. -/
theorem isSome_add? (s t : Span) :
    (s.add? t).isSome = true ↔ s.toNanos + t.toNanos < UInt64.size * nanosPerSecond := by
  have hseconds : s.seconds.toNat + t.seconds.toNat + (s.nanos + t.nanos) / nanosPerSecond =
      (s.toNanos + t.toNanos) / nanosPerSecond := by
    simp only [toNanos, nanosPerSecond]
    omega
  rw [← Nat.div_lt_iff_lt_mul nanosPerSecond_pos, ← hseconds]
  simp only [add?]
  split
  · rename_i hfits
    exact iff_of_true rfl hfits
  · rename_i hfits
    exact iff_of_false Bool.false_ne_true hfits

end Span

end Gatehouse
