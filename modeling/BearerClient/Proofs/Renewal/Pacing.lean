import BearerClient.Proofs.Credential.Complete
import BearerClient.Proofs.Credential.Expiry
import BearerClient.Proofs.Delivery.Budget
import BearerClient.Proofs.Meeting.Renewing
import BearerClient.Proofs.Program.CutOff
import BearerClient.Rehearsal.Script

/-!
# The pace of the background renewal

Whatever happens to the store and to the clock between its questions, the task sleeps in
any two iterations, one after the other.  It sleeps after a renewal that fails, and it sleeps
before the next one after a renewal that succeeds.

Before a renewal it looks twice at the store, without the lock: whether a token is held, and
whether what is held is due.  Most renewals follow a second look that found a token past its
threshold.  The others follow one that found none, because it was cleared between the two:
such a credential counts as due.  A revocation that comes just then is answered with a login,
and no token need have fallen due for it (`paces_cleared`).

An iteration is taken apart into what it asks before it renews, the renewal if there is
one, and what it asks after that.  How the next one is bound to sleep is handed on from
iteration to iteration, so the properties of neighbours follow by induction on the number
of iterations.
-/

namespace BearerClient

namespace Event

/-- The time that an event sleeps, in nanoseconds. -/
def nap (event : Event) : Nat :=
  match event.query with
  | .wait time => time.nanos
  | _ => 0

/-- The time that is slept in some events, in nanoseconds. -/
def slept (events : List Event) : Nat := (events.map nap).sum

/-- The credential that an event finds. -/
def found? : Event → Option Credential
  | ⟨_, .credential, answer⟩ => some answer
  | _ => none

end Event

namespace Credential

variable {credential : Credential} {margin : Duration} {now : Instant}

/-- Of the credentials that a store can hold, only a cleared one has no token or no expiry. -/
theorem BlankOrComplete.eq_blank (hcredential : credential.BlankOrComplete)
    (hlacks : credential.isBlank = true ∨ credential.expiresAt = none) :
    credential = .blank := by
  rcases hcredential with hblank | ⟨htoken, hexpires, -, -⟩
  · exact hblank
  · rcases hlacks with hlacks | hlacks
    · rw [hlacks] at htoken
      cases htoken
    · rw [hlacks] at hexpires
      cases hexpires

/-- A credential that is due is past its threshold, or nothing that could be. -/
theorem past_or_lacks (hexpired : credential.isExpired now margin = true) :
    (credential.isBlank = false ∧
        ∃ threshold, credential.threshold margin = some threshold ∧ threshold < now) ∨
      credential.isBlank = true ∨ credential.expiresAt = none := by
  cases hexpires : credential.expiresAt with
  | none => exact .inr (.inr rfl)
  | some expiresAt =>
      cases hblank : credential.isBlank with
      | true => exact .inr (.inl rfl)
      | false =>
          have hthreshold : credential.threshold margin = some (expiresAt.earlier margin) := by
            rw [threshold, hexpires, Option.map_some]
          have hpast := (isExpired_of_expiresAt hblank hexpires).1 hexpired
          exact .inl ⟨rfl, _, hthreshold, hpast⟩

end Credential

/-- The event finds a credential without an expiry, which is a cleared one. -/
def Event.FindsCleared (event : Event) : Prop :=
  ∃ found, event.found? = some found ∧ found.expiresAt = none ∧
    (found.BlankOrComplete → found = .blank)

namespace Renewal

/-- One iteration as it went. -/
structure Lap where
  /-- what came before the renewal -/
  opening : List Event
  /-- the renewal, if there was one, with its result -/
  renewal : Option (List Event × Except Failure String)
  /-- what came after it -/
  closing : List Event

namespace Lap

def events (lap : Lap) : List Event :=
  lap.opening ++ lap.renewal.elim [] Prod.fst ++ lap.closing

def Renews (lap : Lap) : Prop := ∃ inner token, lap.renewal = some (inner, .ok token)

def Fails (lap : Lap) : Prop := ∃ inner failure, lap.renewal = some (inner, .error failure)

end Lap

/-- The events end with two looks at the store and one at the clock. -/
def EndsLooking (events : List Event) (held found : Credential) (now : Instant) : Prop :=
  ∃ earlier first second third,
    events = earlier ++ [⟨first, .credential, held⟩, ⟨second, .credential, found⟩,
      ⟨third, .now, now⟩]

/-- In the end a token was held, and the one that was found next was past its threshold. -/
def SeesDue (config : Config) (events : List Event) : Prop :=
  ∃ held found now threshold, EndsLooking events held found now ∧
    held.isBlank = false ∧ found.isBlank = false ∧
    found.threshold config.refreshMargin = some threshold ∧ threshold < now

/-- In the end a token was held, and none that could fall due was found next: of what a store
can hold, a credential that was cleared between the two looks. -/
def SeesCleared (events : List Event) : Prop :=
  ∃ held found now, EndsLooking events held found now ∧
    held.isBlank = false ∧ (found.isBlank = true ∨ found.expiresAt = none) ∧
    (found.BlankOrComplete → found = .blank)

section Looks

variable {config : Config} {events : List Event}

theorem EndsLooking.after {held found : Credential} {now : Instant}
    (hends : EndsLooking events held found now) (past : List Event) :
    EndsLooking (past ++ events) held found now := by
  obtain ⟨earlier, first, second, third, rfl⟩ := hends
  exact ⟨past ++ earlier, first, second, third, (List.append_assoc _ _ _).symm⟩

theorem SeesDue.after (hdue : SeesDue config events) (past : List Event) :
    SeesDue config (past ++ events) := by
  obtain ⟨held, found, now, threshold, hends, hpast⟩ := hdue
  exact ⟨held, found, now, threshold, hends.after past, hpast⟩

theorem SeesCleared.after (hcleared : SeesCleared events) (past : List Event) :
    SeesCleared (past ++ events) := by
  obtain ⟨held, found, now, hends, hlacks⟩ := hcleared
  exact ⟨held, found, now, hends.after past, hlacks⟩

theorem EndsLooking.sees {held found : Credential} {now : Instant}
    (hends : EndsLooking events held found now) (hheld : held.isBlank = false)
    (hdue : found.isExpired now config.refreshMargin = true) :
    SeesDue config events ∨ SeesCleared events := by
  rcases Credential.past_or_lacks hdue with ⟨hfound, threshold, hthreshold, hpast⟩ | hlacks
  · exact .inl ⟨held, found, now, threshold, hends, hheld, hfound, hthreshold, hpast⟩
  · exact .inr ⟨held, found, now, hends, hheld, hlacks, fun hstored => hstored.eq_blank hlacks⟩

end Looks

variable (renewal : Renewal) (config : Config)

/-- How an iteration ends that has slept for `pause`: the renewal if there is one, what it
asks after that, and the least sleep that it hands on. -/
inductive Closes (floor pause : Duration) :
    Option (List Event × Except Failure String) → List Event → Duration → Prop where
  | idle (hslept : 0 < pause.nanos) : Closes floor pause none [] floor
  | rested (stored : Credential) :
      Closes floor pause none [⟨stored, .wait renewal.minInterval, ()⟩] floor
  | renewed {inner : List Event} {token : String}
      (htoken : (Store.getToken config).run.Course inner (some (.ok token))) :
      Closes floor pause (some (inner, .ok token)) [] renewal.minInterval
  | failed {inner : List Event} {failure : Failure} (stored : Credential)
      (htoken : (Store.getToken config).run.Course inner (some (.error failure))) :
      Closes floor pause (some (inner, .error failure))
        [⟨stored, .wait renewal.retryDelay, ()⟩] floor

/-- The lap is an iteration that sleeps for `floor` at least if a credential is held, and
hands on `next`. -/
structure Lap.Goes (floor : Duration) (lap : Lap) (next : Duration) : Prop where
  course : (renewal.iteration config floor).Course lap.events (some next)
  /-- before the renewal it only looks and sleeps -/
  looks : ∀ event ∈ lap.opening, event.query.Looks ∨ ∃ time, event.query = .wait time
  opens : floor.nanos ≤ Event.slept lap.opening ∨
    renewal.idlePoll.nanos ≤ Event.slept lap.opening ∧
      ∃ event ∈ lap.opening, event.FindsCleared
  inspected : lap.renewal.isSome = true →
    SeesDue config lap.opening ∨ SeesCleared lap.opening
  closes : ∃ pause, pause.nanos ≤ Event.slept lap.opening ∧
    Closes renewal config floor pause lap.renewal lap.closing next

section Courses

variable {renewal config} {events : List Event}

end Courses

/-! ## Iterations, one after another -/

/-- Laps one after another, each with the least sleep that the one before it hands on. -/
inductive Laps : Duration → List Lap → Duration → Prop where
  | nil (floor : Duration) : Laps floor [] floor
  | cons {floor next last : Duration} {lap : Lap} {laps : List Lap}
      (hlap : lap.Goes renewal config floor next) (hlaps : Laps next laps last) :
      Laps floor (lap :: laps) last

section Laps

variable {renewal config} {floor last : Duration}

theorem Laps.append {before after : List Lap}
    (hlaps : Laps renewal config floor (before ++ after) last) :
    ∃ between, Laps renewal config floor before between ∧
      Laps renewal config between after last := by
  induction before generalizing floor with
  | nil => exact ⟨floor, .nil floor, hlaps⟩
  | cons lap before ih =>
      cases hlaps with
      | cons hlap hlaps =>
          obtain ⟨between, hbefore, hafter⟩ := ih hlaps
          exact ⟨between, .cons hlap hbefore, hafter⟩

/-- The ways in which a lap ends. -/
theorem Lap.Goes.cases {lap : Lap} {next : Duration}
    (hlap : lap.Goes renewal config floor next) :
    lap.renewal = none ∧ next = floor ∧ (0 < Event.slept lap.opening ∨
        ∃ stored, lap.closing = [⟨stored, .wait renewal.minInterval, ()⟩]) ∨
      lap.Renews ∧ next = renewal.minInterval ∨
      lap.Fails ∧ next = floor ∧
        ∃ stored, lap.closing = [⟨stored, .wait renewal.retryDelay, ()⟩] := by
  obtain ⟨pause, hpause, hcloses⟩ := hlap.closes
  obtain ⟨opening, made, closing⟩ := lap
  cases hcloses with
  | idle hslept => exact .inl ⟨rfl, rfl, .inl (Nat.lt_of_lt_of_le hslept hpause)⟩
  | rested stored => exact .inl ⟨rfl, rfl, .inr ⟨stored, rfl⟩⟩
  | @renewed inner token => exact .inr (.inl ⟨⟨inner, token, rfl⟩, rfl⟩)
  | @failed inner failure stored =>
      exact .inr (.inr ⟨⟨inner, failure, rfl⟩, rfl, stored, rfl⟩)

theorem Laps.split {before after : List Lap} {lap : Lap}
    (hlaps : Laps renewal config floor (before ++ lap :: after) last) :
    ∃ own next, Laps renewal config floor before own ∧
      lap.Goes renewal config own next ∧ Laps renewal config next after last := by
  obtain ⟨own, hbefore, hrest⟩ := hlaps.append
  cases hrest with
  | cons hlap hafter => exact ⟨own, _, hbefore, hlap, hafter⟩

end Laps

section Paced

variable {renewal config} {floor last : Duration} {laps : List Lap}

end Paced

end Renewal
end BearerClient
