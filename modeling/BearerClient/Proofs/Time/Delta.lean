import BearerClient.Time.Clock

/-!
# Signed lengths of time

The exact way to move an instant has two steps, and each of them can fail.  The duration has to
be a delta, a signed length of time of at most 2^63 - 1 milliseconds; and the delta has to lead
to an instant.  Whoever moves an instant puts the bound that lies ahead in place of a step that
fails, and this comes to exact arithmetic that is clamped once, at its end.

What lies between two instants is always a delta, so to subtract them cannot fail.
-/

namespace BearerClient

/-- The longest delta, in nanoseconds. -/
def Delta.maxNanos : Int := 9223372036854775807000000

/-- A length of time with a direction. -/
structure Delta where
  nanos : Int
  min_le : -Delta.maxNanos ≤ nanos
  le_max : nanos ≤ Delta.maxNanos

namespace Delta

def longest : Delta := ⟨maxNanos, by decide, Int.le_refl _⟩

/-- A duration as a delta, unless it is too long. -/
def ofDuration? (d : Duration) : Option Delta :=
  if h : (d.nanos : Int) ≤ maxNanos then
    some ⟨d.nanos, Int.le_trans (by decide) (Int.natCast_nonneg d.nanos), h⟩
  else none

/-- A delta as a duration, unless it leads to the past. -/
def duration? (delta : Delta) : Option Duration :=
  if 0 ≤ delta.nanos then
    some ⟨delta.nanos.toNat, by
      have hle := delta.le_max
      unfold maxNanos Duration.maxNanos at *
      omega⟩
  else none

theorem maxNanos_lt_of_ofDuration? {d : Duration} (hlong : ofDuration? d = none) :
    maxNanos < d.nanos := by
  unfold ofDuration? at hlong
  split at hlong
  · cases hlong
  · omega

theorem nanos_of_ofDuration? {d : Duration} {delta : Delta}
    (hdelta : ofDuration? d = some delta) : delta.nanos = d.nanos := by
  unfold ofDuration? at hdelta
  split at hdelta
  · cases hdelta
    rfl
  · cases hdelta

end Delta

namespace Instant

variable (t : Instant) (d : Duration)

@[simp] theorem nanos_first : first.nanos = minNanos := rfl

@[simp] theorem nanos_last : last.nanos = maxNanos := rfl

/-- The instant at a number of nanoseconds since the epoch, if there is one. -/
def ofNanos? (nanos : Int) : Option Instant :=
  if h : minNanos ≤ nanos ∧ nanos ≤ maxNanos then some ⟨nanos, h.1, h.2⟩ else none

/-- The instant moved by a delta, if there is one. -/
def plus? (delta : Delta) : Option Instant := ofNanos? (t.nanos + delta.nanos)

/-- The instant moved back by a delta, if there is one. -/
def minus? (delta : Delta) : Option Instant := ofNanos? (t.nanos - delta.nanos)

/-- What lies between two instants. -/
def since (start : Instant) : Delta where
  nanos := t.nanos - start.nanos
  min_le := by
    have hle := t.min_le
    have hmax := start.le_max
    unfold minNanos maxNanos Delta.maxNanos at *
    omega
  le_max := by
    have hle := t.le_max
    have hmin := start.min_le
    unfold minNanos maxNanos Delta.maxNanos at *
    omega

/-! ## Moves -/

theorem ofNanos?_getD_last {nanos : Int} (hnanos : minNanos ≤ nanos) :
    (ofNanos? nanos).getD last = clamp nanos := by
  unfold ofNanos?
  split
  · rename_i hrange
    ext
    rw [Option.getD_some, nanos_clamp]
    dsimp only
    omega
  · ext
    rw [Option.getD_none, nanos_clamp, nanos_last]
    unfold minNanos maxNanos at *
    omega

theorem ofNanos?_getD_first {nanos : Int} (hnanos : nanos ≤ maxNanos) :
    (ofNanos? nanos).getD first = clamp nanos := by
  unfold ofNanos?
  split
  · rename_i hrange
    ext
    rw [Option.getD_some, nanos_clamp]
    dsimp only
    omega
  · ext
    rw [Option.getD_none, nanos_clamp, nanos_first]
    omega

/-- To move on, step by step. -/
theorem later_eq : t.later d = ((Delta.ofDuration? d).bind t.plus?).getD last := by
  have hmin := t.min_le
  cases hdelta : Delta.ofDuration? d with
  | none =>
      have hlong := Delta.maxNanos_lt_of_ofDuration? hdelta
      ext
      rw [Option.bind_none, Option.getD_none, nanos_last, later, nanos_clamp]
      unfold minNanos maxNanos Delta.maxNanos at *
      omega
  | some delta =>
      have hnanos := Delta.nanos_of_ofDuration? hdelta
      rw [Option.bind_some, plus?, ofNanos?_getD_last (by omega), hnanos, later]

/-- To move back, step by step. -/
theorem earlier_eq : t.earlier d = ((Delta.ofDuration? d).bind t.minus?).getD first := by
  have hmax := t.le_max
  cases hdelta : Delta.ofDuration? d with
  | none =>
      have hlong := Delta.maxNanos_lt_of_ofDuration? hdelta
      ext
      rw [Option.bind_none, Option.getD_none, nanos_first, earlier, nanos_clamp]
      unfold minNanos maxNanos Delta.maxNanos at *
      omega
  | some delta =>
      have hnanos := Delta.nanos_of_ofDuration? hdelta
      rw [Option.bind_some, minus?, ofNanos?_getD_first (by omega), hnanos, earlier]

/-- The wait until an instant is what lies in between, as long as that lies ahead. -/
theorem wait_eq (now : Instant) : wait now t = ((t.since now).duration?).getD .zero := by
  have hle := (t.since now).le_max
  have hnanos : (t.since now).nanos = t.nanos - now.nanos := rfl
  unfold Delta.duration?
  split
  · ext
    rw [Option.getD_some, wait, Duration.nanos_ofNanos, ← hnanos]
    dsimp only
    unfold Delta.maxNanos Duration.maxNanos at *
    omega
  · ext
    rw [Option.getD_none, wait, Duration.nanos_ofNanos, Duration.nanos_zero]
    omega

theorem nanos_wait (now : Instant) :
    ((wait now t).nanos : Int) = max 0 (t.since now).nanos := by
  rw [wait_eq]
  unfold Delta.duration?
  split
  · rw [Option.getD_some]
    dsimp only
    omega
  · rw [Option.getD_none, Duration.nanos_zero]
    omega

/-! ## Waits -/

section Waits

variable {t d} {now : Instant}

/-- A wait leads to its end. -/
theorem later_wait (hahead : now ≤ t) : now.later (wait now t) = t := by
  have hfirst := t.min_le
  have hlast := t.le_max
  have hle : now.nanos ≤ t.nanos := hahead
  have hwait : ((wait now t).nanos : Int) = max 0 (t.nanos - now.nanos) := nanos_wait t now
  ext
  rw [later, nanos_clamp, hwait]
  omega

/-- Nothing is left to wait for at the end or after it. -/
theorem wait_of_le (hpast : t ≤ now) : wait now t = .zero := by
  have hle : t.nanos ≤ now.nanos := hpast
  ext
  rw [wait, Duration.nanos_ofNanos, Duration.nanos_zero]
  omega

/-- A longer time than a wait leads past its end, unless there is nothing past it. -/
theorem lt_later_of_wait_lt (hlonger : (wait now t).nanos < d.nanos) :
    t < now.later d ↔ t ≠ last := by
  have hfirst := t.min_le
  have hlast := t.le_max
  have hwait : ((wait now t).nanos : Int) = max 0 (t.nanos - now.nanos) := nanos_wait t now
  have hne : t ≠ last ↔ t.nanos ≠ maxNanos := by rw [ne_eq, Instant.ext_iff, nanos_last]
  rw [hne, lt_iff, later, nanos_clamp]
  omega

end Waits

end Instant

/-! ## Clocks -/

namespace Clocks

variable {clocks : Clocks} {clock handle : Nat}

/-- A clock is moved by the longest delta where the duration is none; it stops at the last
instant all the same. -/
theorem advance_eq (clocks : Clocks) (clock : Nat) (d : Duration) :
    clocks.advance clock d =
      clocks.adjust clock fun time =>
        (time.plus? ((Delta.ofDuration? d).getD .longest)).getD .last := by
  unfold advance
  congr 1
  funext time
  rw [Instant.later_eq]
  cases hdelta : Delta.ofDuration? d with
  | none =>
      have hmin := time.min_le
      have hnone : time.plus? .longest = none := by
        refine dif_neg fun hrange => ?_
        have hle := hrange.2
        unfold Delta.longest Instant.minNanos Instant.maxNanos Delta.maxNanos at *
        dsimp only at hle
        omega
      change Instant.last = (time.plus? .longest).getD .last
      rw [hnone, Option.getD_none]
  | some delta => rfl

/-- A clock shows what is made of the time of its family through any clock of the family. -/
theorem time?_adjust (hfamily : clocks.families[handle]? = clocks.families[clock]?)
    (change : Instant → Instant) :
    (clocks.adjust handle change).time? clock = (clocks.time? clock).map change := by
  unfold adjust time?
  rw [hfamily]
  cases hclock : clocks.families[clock]? with
  | none => simp [hclock]
  | some family =>
      simp only [hclock, Option.bind_some]
      exact List.getElem?_modify_eq ..

theorem time?_advance (hfamily : clocks.families[handle]? = clocks.families[clock]?)
    (d : Duration) :
    (clocks.advance handle d).time? clock = (clocks.time? clock).map (·.later d) :=
  time?_adjust hfamily _

end Clocks
end BearerClient
