import BearerClient.Time.Duration

/-!
# Instants

Points of time in nanoseconds since the epoch, between a first and a last instant.  Moving an
instant by a duration is exact arithmetic followed by clamping to that range, so it never fails.
-/

namespace BearerClient

namespace Instant

/-- The first and the last instant, in nanoseconds since the epoch. -/
def minNanos : Int := -8334601228800000000000

def maxNanos : Int := 8210266876799999999999

end Instant

structure Instant where
  nanos : Int
  min_le : Instant.minNanos ≤ nanos
  le_max : nanos ≤ Instant.maxNanos
  deriving DecidableEq

namespace Instant

@[ext] theorem ext {a b : Instant} (h : a.nanos = b.nanos) : a = b := by
  cases a; cases b; cases h; rfl

/-- The instant nearest to a number of nanoseconds since the epoch. -/
def clamp (nanos : Int) : Instant where
  nanos := max minNanos (min nanos maxNanos)
  min_le := Int.le_max_left ..
  le_max := Int.max_le.2 ⟨by decide, Int.min_le_right ..⟩

theorem nanos_clamp (n : Int) : (clamp n).nanos = max minNanos (min n maxNanos) := rfl

def first : Instant := clamp minNanos

def last : Instant := clamp maxNanos

def epoch : Instant := clamp 0

instance : Inhabited Instant := ⟨epoch⟩

/-- The instant of a whole number of milliseconds, if it lies in the range. -/
def ofMillis? (millis : Int) : Option Instant :=
  if h : minNanos ≤ millis * 1000000 ∧ millis * 1000000 ≤ maxNanos then
    some ⟨millis * 1000000, h.1, h.2⟩
  else none

/-- Whole milliseconds since the epoch, rounded towards the past. -/
def millis (t : Instant) : Int := t.nanos / 1000000

/-- The instant a duration later. -/
def later (t : Instant) (d : Duration) : Instant := clamp (t.nanos + d.nanos)

/-- The instant a duration earlier. -/
def earlier (t : Instant) (d : Duration) : Instant := clamp (t.nanos - d.nanos)

instance : LT Instant := ⟨fun a b => a.nanos < b.nanos⟩

instance : LE Instant := ⟨fun a b => a.nanos ≤ b.nanos⟩

instance (a b : Instant) : Decidable (a < b) := inferInstanceAs (Decidable (a.nanos < b.nanos))

instance (a b : Instant) : Decidable (a ≤ b) := inferInstanceAs (Decidable (a.nanos ≤ b.nanos))

theorem lt_iff {a b : Instant} : a < b ↔ a.nanos < b.nanos := Iff.rfl

theorem le_iff {a b : Instant} : a ≤ b ↔ a.nanos ≤ b.nanos := Iff.rfl

/-- How long it is from `now` until `t`; nothing is left once `t` has passed. -/
def wait (now t : Instant) : Duration := Duration.ofNanos (t.nanos - now.nanos).toNat

end Instant
end BearerClient
