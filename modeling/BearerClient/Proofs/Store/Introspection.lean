import BearerClient.Proofs.Operation.Reachable
import BearerClient.Proofs.Time.Delta
import BearerClient.Rehearsal.Script

/-!
# The schedule of a store

A store shows when its credential falls due, how long it is until then and whether the next use
of the token renews it.  Each of these is asked by itself and computed by itself, from what is
stored and what the clock shows; the three agree with each other and with what the clock shows
once it was advanced, by exactly what was left or by more.

The instant at which the credential falls due is the last one at which it can still be used.  So
at that instant nothing is left and nothing is due, and a moment later a renewal is.  Only the
last instant of all has no moment after it.
-/

namespace BearerClient

/-- A credential that falls due is due once its threshold has passed. -/
theorem Credential.BlankOrComplete.isExpired_iff_lt {credential : Credential}
    (hstored : credential.BlankOrComplete) {margin : Duration} {due : Instant}
    (hdue : credential.threshold margin = some due) (now : Instant) :
    credential.isExpired now margin = true ↔ due < now := by
  have hheld := hstored.threshold margin
  rw [hdue, Option.isSome_some, eq_comm, Bool.not_eq_true'] at hheld
  simp [isExpired, hdue, hheld]

namespace Store

variable {σ : Type} {config : Config} {backend : Backend σ} {world : World σ}
  {credential : Credential} {now : Instant}

/-- What is shown of the schedule. -/
structure Outlook where
  /-- whether a credential is held -/
  held : Bool
  due : Option Instant
  left : Option Duration
  /-- whether the next use of the token renews it -/
  renewal : Bool

/-- The store shows an outlook, one question at a time. -/
structure Shows (config : Config) (backend : Backend σ) (world : World σ) (outlook : Outlook) :
    Prop where
  held : (authenticated.run backend world).1 = some outlook.held
  due : ((threshold config).run backend world).1 = some outlook.due
  left : ((untilRefresh config).run backend world).1 = some outlook.left
  renewal : ((needsRenewal config).run backend world).1 = some outlook.renewal

namespace Outlook

/-- What is shown at an instant agrees. -/
structure Agrees (outlook : Outlook) (now : Instant) : Prop where
  due_isSome : outlook.due.isSome = outlook.held
  left_isSome : outlook.left.isSome = outlook.held
  /-- what lies between two instants is a delta, and it is left as long as it lies ahead -/
  left : ∀ due, outlook.due = some due → ∃ (apart : Delta) (left : Duration),
    apart.nanos = due.nanos - now.nanos ∧ outlook.left = some left ∧
      (left.nanos : Int) = max 0 apart.nanos
  renewal : outlook.renewal = true ↔
    outlook.held = false ∨ ∃ due, outlook.due = some due ∧ due < now

/-- What is shown next, some time after an outlook. -/
structure Becomes (outlook : Outlook) (time : Duration) (next : Outlook) : Prop where
  /-- after what was left -/
  reached : ∀ left, outlook.left = some left → 0 < left.nanos → time = left →
    next.left = some .zero ∧ next.renewal = false
  /-- after more than that -/
  passed : ∀ due left, outlook.due = some due → outlook.left = some left →
    left.nanos < time.nanos → (next.renewal = true ↔ due ≠ .last)

end Outlook

/-- The outlook tells what is shown of the same credential once the clock was advanced, through
any copy of the clock that the store looks at. -/
def Foretells (config : Config) (backend : Backend σ) (world : World σ) (outlook : Outlook) :
    Prop :=
  ∀ (clocks : Clocks) (clock handle : Nat) (time : Duration) (later : World σ),
    clocks.families[handle]? = clocks.families[clock]? →
    clocks.time? clock = some (backend.now world.outside).1 →
    (clocks.advance handle time).time? clock = some (backend.now later.outside).1 →
    later.credential = world.credential →
      ∃ next, Shows config backend later next ∧ outlook.Becomes time next

/-! ## The outlook on a credential -/

namespace Outlook

/-- What is shown of a credential at an instant. -/
def of (config : Config) (credential : Credential) (now : Instant) : Outlook where
  held := !credential.isBlank
  due := credential.threshold config.refreshMargin
  left := (credential.threshold config.refreshMargin).map (Instant.wait now)
  renewal := credential.isExpired now config.refreshMargin

theorem shows_of (config : Config) (backend : Backend σ) (world : World σ) :
    Shows config backend world (of config world.credential (backend.now world.outside).1) where
  held := rfl
  due := rfl
  left := by
    rw [untilRefresh_run, of]
    cases world.credential.threshold config.refreshMargin <;> rfl
  renewal := rfl

theorem agrees_of (hstored : credential.BlankOrComplete) (now : Instant) :
    (of config credential now).Agrees now := by
  have hthreshold := hstored.threshold config.refreshMargin
  refine ⟨hthreshold, by rw [of, Option.isSome_map, hthreshold], fun due hdue => ?_, ?_⟩
  · refine ⟨due.since now, Instant.wait now due, rfl, ?_, Instant.nanos_wait due now⟩
    exact congrArg (Option.map (Instant.wait now)) hdue
  · simp only [of, ← hthreshold]
    cases hdue : credential.threshold config.refreshMargin with
    | none => simp [Credential.isExpired, hdue]
    | some due => simp [hstored.isExpired_iff_lt hdue]

/-- What was left leads to the instant at which the credential falls due, and no further. -/
theorem becomes_of (hstored : credential.BlankOrComplete) (now : Instant) (time : Duration) :
    (of config credential now).Becomes time (of config credential (now.later time)) := by
  constructor
  · rintro left hleft hahead rfl
    obtain ⟨due, hdue, rfl⟩ := Option.map_eq_some_iff.1 hleft
    have hle : now ≤ due := by
      by_contra hpast
      rw [Instant.wait_of_le (Int.le_of_lt (Int.not_le.1 hpast))] at hahead
      exact absurd hahead (Nat.lt_irrefl 0)
    rw [Instant.later_wait hle]
    refine ⟨?_, ?_⟩
    · rw [of, hdue, Option.map_some, Instant.wait_of_le (Int.le_refl _)]
    · rw [of, ← Bool.not_eq_true, hstored.isExpired_iff_lt hdue]
      exact Int.lt_irrefl _
  · intro due left hdue hleft hlonger
    have hdue : credential.threshold config.refreshMargin = some due := hdue
    rw [of, hdue] at hleft
    cases hleft
    rw [of, hstored.isExpired_iff_lt hdue, Instant.lt_later_of_wait_lt hlonger]

end Outlook

/-- Whatever has come to be stored, all that is shown of its schedule agrees. -/
theorem outlook_agrees (backend : Backend σ)
    (hreachable : Reachable config world.credential) :
    ∃ outlook, Shows config backend world outlook ∧
      outlook.Agrees (backend.now world.outside).1 ∧ Foretells config backend world outlook := by
  have hstored := hreachable.blankOrComplete
  refine ⟨.of config world.credential (backend.now world.outside).1,
    Outlook.shows_of config backend world, Outlook.agrees_of hstored _, ?_⟩
  intro clocks clock handle time later hfamily hnow hlater hsame
  rw [Clocks.time?_advance hfamily, hnow, Option.map_some] at hlater
  refine ⟨_, Outlook.shows_of config backend later, ?_⟩
  rw [hsame, ← Option.some.inj hlater]
  exact Outlook.becomes_of hstored _ time

/-- A token that was obtained an hour before its expiry, and that is renewed with a margin. -/
theorem outlook_agrees_obtained :
    let config : Config :=
      { apiUrl := "http://127.0.0.1", login := ⟨"user", "secret", "id", "key"⟩ }
    let script : Rehearsal.Script := ⟨[
      ("app", [.token (some "first") (some "again") (some (.after 3600000))])]⟩
    let held := Session.world config script.backend [.getToken] { outside := ⟨.epoch, []⟩ }
    Reachable config held.credential ∧
      ∃ outlook, Shows config script.backend held outlook ∧ outlook.held = true ∧
        outlook.left = some (.ofMillis 3570000) ∧
        outlook.Agrees (script.backend.now held.outside).1 ∧
        Foretells config script.backend held outlook := by
  intro config script held
  have hreachable : Reachable config held.credential := reachable_of_stores (.inl rfl)
  obtain ⟨outlook, hshows, hagrees, hforetells⟩ := outlook_agrees script.backend hreachable
  have hheld : (authenticated.run script.backend held).1 = some true := by
    decide +kernel +zetaReduce
  have hleft : ((untilRefresh config).run script.backend held).1 =
      some (some (.ofMillis 3570000)) := by decide +kernel +zetaReduce
  refine ⟨hreachable, outlook, hshows, ?_, ?_, hagrees, hforetells⟩
  · exact Option.some.inj (hshows.held.symm.trans hheld)
  · exact Option.some.inj (hshows.left.symm.trans hleft)

end Store
end BearerClient
