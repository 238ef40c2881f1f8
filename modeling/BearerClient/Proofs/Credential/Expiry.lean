import BearerClient.Credential
import BearerClient.Proofs.Time.Delta

/-!
# Expiry in exact arithmetic

Whether a credential is due for renewal, and whether it is fresh, is asked of an instant that may
have been clamped to the range.  For a question at any other instant than the end of the range
the clamp does not show: the answer is that of the comparison over the integers.  At the end of
the range the strict comparison with a clamped instant never holds.

So a longer margin only makes more credentials due, and a longer while only makes more of them
fresh; and as time goes on a credential becomes due and ceases to be fresh, once.
-/

namespace BearerClient

namespace Instant

variable {t now : Instant} {d d' : Duration}

/-- Past an instant that was moved back. -/
theorem earlier_lt_iff (hnow : first < now) :
    t.earlier d < now ↔ t.nanos - d.nanos < now.nanos := by
  have hfirst : minNanos < now.nanos := hnow
  have hlast := now.le_max
  rw [lt_iff, earlier, nanos_clamp]
  omega

theorem not_earlier_lt_first : ¬t.earlier d < first :=
  fun hlt => absurd (t.earlier d).min_le (Int.not_le.2 hlt)

/-- Before an instant that was moved on. -/
theorem lt_later_iff (hnow : now < last) :
    now < t.later d ↔ now.nanos < t.nanos + d.nanos := by
  have hlast : now.nanos < maxNanos := hnow
  have hfirst := now.min_le
  rw [lt_iff, later, nanos_clamp]
  omega

theorem not_last_lt_later : ¬last < t.later d :=
  fun hlt => absurd (t.later d).le_max (Int.not_le.2 hlt)

theorem earlier_le_earlier (hle : d.nanos ≤ d'.nanos) : t.earlier d' ≤ t.earlier d := by
  rw [le_iff, earlier, earlier, nanos_clamp, nanos_clamp]
  omega

theorem later_le_later (hle : d.nanos ≤ d'.nanos) : t.later d ≤ t.later d' := by
  rw [le_iff, later, later, nanos_clamp, nanos_clamp]
  omega

theorem lt_of_lt_of_le {a b c : Instant} (hlt : a < b) (hle : b ≤ c) : a < c :=
  Int.lt_of_lt_of_le hlt hle

theorem lt_of_le_of_lt {a b c : Instant} (hle : a ≤ b) (hlt : b < c) : a < c :=
  Int.lt_of_le_of_lt hle hlt

end Instant

namespace Credential

variable {credential : Credential} {now now' : Instant} {d d' : Duration}

theorem isExpired_iff :
    credential.isExpired now d = true ↔
      ∀ expiresAt, credential.expiresAt = some expiresAt →
        credential.isBlank = true ∨ expiresAt.earlier d < now := by
  unfold isExpired threshold
  cases credential.expiresAt <;> simp

theorem isFresh_iff :
    credential.isFresh now d = true ↔
      ∃ last, credential.lastUpdate = some last ∧ now < last.later d := by
  unfold isFresh
  cases credential.lastUpdate <;> simp

theorem isExpired_of_expiresAt {expiresAt : Instant} (hblank : credential.isBlank = false)
    (hexpires : credential.expiresAt = some expiresAt) :
    credential.isExpired now d = true ↔ expiresAt.earlier d < now := by
  simp [isExpired_iff, hblank, hexpires]

theorem isFresh_of_lastUpdate {last : Instant} (hlast : credential.lastUpdate = some last) :
    credential.isFresh now d = true ↔ now < last.later d := by
  simp [isFresh_iff, hlast]

/-- A credential stays due, and the more so the longer the margin is. -/
theorem isExpired_mono (hnow : now ≤ now') (hmargin : d.nanos ≤ d'.nanos)
    (hexpired : credential.isExpired now d = true) : credential.isExpired now' d' = true := by
  rw [isExpired_iff] at hexpired ⊢
  intro expiresAt hexpires
  refine (hexpired expiresAt hexpires).imp_right fun hpast => ?_
  exact Instant.lt_of_le_of_lt (Instant.earlier_le_earlier hmargin)
    (Instant.lt_of_lt_of_le hpast hnow)

/-- A credential that is fresh was so before, and is so for every longer while. -/
theorem isFresh_mono (hnow : now' ≤ now) (hwhile : d.nanos ≤ d'.nanos)
    (hfresh : credential.isFresh now d = true) : credential.isFresh now' d' = true := by
  rw [isFresh_iff] at hfresh ⊢
  obtain ⟨last, hlast, hahead⟩ := hfresh
  exact ⟨last, hlast, Instant.lt_of_le_of_lt hnow
    (Instant.lt_of_lt_of_le hahead (Instant.later_le_later hwhile))⟩

/-- What is asked of the times of a credential is answered by exact arithmetic. -/
structure ExactlyTimed (credential : Credential) : Prop where
  /-- the margin is taken off in two steps, with the first instant in place of one that fails -/
  threshold_eq : ∀ margin, credential.threshold margin =
    credential.expiresAt.map fun expiresAt =>
      ((Delta.ofDuration? margin).bind expiresAt.minus?).getD .first
  /-- the while is added in two steps, with the last instant in place of one that fails -/
  isFresh_eq : ∀ now while_, credential.isFresh now while_ =
    credential.lastUpdate.any fun last =>
      decide (now < ((Delta.ofDuration? while_).bind last.plus?).getD .last)
  expired : ∀ expiresAt now margin, credential.isBlank = false →
    credential.expiresAt = some expiresAt → .first < now →
    (credential.isExpired now margin = true ↔ expiresAt.nanos - margin.nanos < now.nanos)
  fresh : ∀ last now while_, credential.lastUpdate = some last → now < .last →
    (credential.isFresh now while_ = true ↔ now.nanos < last.nanos + while_.nanos)
  /-- nothing that has an expiry is due at the first instant -/
  expired_first : ∀ margin, credential.isBlank = false → credential.expiresAt.isSome = true →
    credential.isExpired .first margin = false
  /-- nothing is fresh at the last instant -/
  fresh_last : ∀ while_, credential.isFresh .last while_ = false
  expired_mono : ∀ (now now' : Instant) (margin margin' : Duration),
    now ≤ now' → margin.nanos ≤ margin'.nanos →
    credential.isExpired now margin = true → credential.isExpired now' margin' = true
  fresh_mono : ∀ (now now' : Instant) (while_ while_' : Duration),
    now' ≤ now → while_.nanos ≤ while_'.nanos →
    credential.isFresh now while_ = true → credential.isFresh now' while_' = true

/-- Clamping never shows in an answer. -/
theorem exactlyTimed (credential : Credential) : credential.ExactlyTimed where
  threshold_eq margin := by
    unfold threshold
    congr 1
    funext expiresAt
    exact expiresAt.earlier_eq margin
  isFresh_eq now while_ := by
    unfold isFresh
    cases credential.lastUpdate with
    | none => rfl
    | some last => rw [Option.any_some, ← last.later_eq]
  expired expiresAt now margin hblank hexpires hnow := by
    rw [isExpired_of_expiresAt hblank hexpires, Instant.earlier_lt_iff hnow]
  fresh last now while_ hlast hnow := by
    rw [isFresh_of_lastUpdate hlast, Instant.lt_later_iff hnow]
  expired_first margin hblank hsome := by
    obtain ⟨expiresAt, hexpires⟩ := Option.isSome_iff_exists.1 hsome
    rw [← Bool.not_eq_true, isExpired_of_expiresAt hblank hexpires]
    exact Instant.not_earlier_lt_first
  fresh_last while_ := by
    rw [← Bool.not_eq_true, isFresh_iff]
    rintro ⟨last, -, hahead⟩
    exact Instant.not_last_lt_later hahead
  expired_mono _ _ _ _ hnow hmargin := isExpired_mono hnow hmargin
  fresh_mono _ _ _ _ hnow hwhile := isFresh_mono hnow hwhile

end Credential
end BearerClient
