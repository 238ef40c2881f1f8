/-!
# Durations

Lengths of time in whole nanoseconds, up to the largest one, 2^64 seconds less a nanosecond.
-/

namespace BearerClient

/-- The largest duration in nanoseconds. -/
def Duration.maxNanos : Nat := 18446744073709551615999999999

structure Duration where
  nanos : Nat
  le_max : nanos ≤ Duration.maxNanos := by decide
  deriving DecidableEq

namespace Duration

/-- The duration of a number of nanoseconds, or the largest one where that is too large. -/
def ofNanos (nanos : Nat) : Duration := ⟨min nanos maxNanos, Nat.min_le_right ..⟩

def ofMillis (millis : Nat) : Duration := ofNanos (millis * 1000000)

def zero : Duration := ⟨0, Nat.zero_le _⟩

def max : Duration := ⟨maxNanos, Nat.le_refl _⟩

instance : Inhabited Duration := ⟨zero⟩

/-- Whole milliseconds; a part of one is dropped. -/
def millis (d : Duration) : Nat := d.nanos / 1000000

def isZero (d : Duration) : Bool := d.nanos = 0

/-- The larger of two durations. -/
def atLeast (d floor : Duration) : Duration := if floor.nanos ≤ d.nanos then d else floor

@[ext] theorem ext {a b : Duration} (h : a.nanos = b.nanos) : a = b := by
  cases a; cases b; cases h; rfl

@[simp] theorem nanos_zero : zero.nanos = 0 := rfl

theorem nanos_ofNanos (n : Nat) : (ofNanos n).nanos = min n maxNanos := rfl

/-- A fraction of `unit` without trailing zeros, where it is not zero: a point and `places`
digits at most. -/
def fractionText (places value : Nat) : List Char :=
  let digits := Nat.toDigits 10 value
  let padded := List.replicate (places - digits.length) '0' ++ digits
  let kept := (padded.reverse.dropWhile (· = '0')).reverse
  if kept.isEmpty then [] else '.' :: kept

/-- The duration in the largest unit, from seconds down, of which it has at least one. -/
def text (d : Duration) : String :=
  let inUnit (unit places : Nat) (name : String) : String :=
    toString (d.nanos / unit) ++ String.ofList (fractionText places (d.nanos % unit)) ++ name
  if 1000000000 ≤ d.nanos then inUnit 1000000000 9 "s"
  else if 1000000 ≤ d.nanos then inUnit 1000000 6 "ms"
  else if 1000 ≤ d.nanos then inUnit 1000 3 "µs"
  else toString d.nanos ++ "ns"

end Duration
end BearerClient
