import BearerClient.Proofs.Credential.Complete
import BearerClient.Proofs.Store.Outcome

/-!
# Exchanges that are announced

Whoever asks whether the credential needs to be renewed gets the answer on which the next
use of the token acts.  The two are decided apart, one by the expiry alone and the other by
a look at the token first; they agree since a credential without a token has no expiry.
-/

namespace BearerClient

namespace Credential

variable {credential : Credential}

theorem isExpired_of_isBlank (hblank : credential.isBlank = true) (now : Instant)
    (margin : Duration) : credential.isExpired now margin = true := by
  unfold isExpired
  split
  · rw [hblank, Bool.true_or]
  · rfl

theorem BlankOrComplete.refreshToken_of_isBlank (hcredential : credential.BlankOrComplete)
    (hblank : credential.isBlank = true) : credential.refreshToken = none := by
  rcases hcredential with rfl | hcomplete
  · rfl
  · rw [hcomplete.token] at hblank
    cases hblank

end Credential

variable {σ : Type} (config : Config) (backend : Backend σ) (world : World σ)

/-- The lock makes no difference to what is run alone. -/
theorem Call.run_run_locked {α : Type} (call : Call α) :
    (Call.locked call).run.run backend world = call.run.run backend world := by
  rw [Call.run_locked]
  apply (Program.run_bind backend call.run _ world).trans
  rcases call.run.run backend world with ⟨_ | result, final⟩ <;> rfl

namespace Store

/-- The exchange before a token can be used at an instant, if one is due. -/
def dueAt (config : Config) (credential : Credential) (now : Instant) : Option Exchange :=
  if credential.isExpired now config.refreshMargin then some (.renewal credential) else none

theorem needsRenewal_run :
    ∃ later, (needsRenewal config).run backend world =
      (some (dueAt config world.credential (backend.now world.outside).1).isSome, later) := by
  refine ⟨{ world with outside := (backend.now world.outside).2 }, ?_⟩
  have hsome (expired : Bool) (exchange : Exchange) :
      (if expired = true then some exchange else none).isSome = expired := by
    cases expired <;> rfl
  rw [dueAt, hsome]
  rfl

theorem decision_run (due : Credential → Instant → Bool) :
    (decision due).run backend world =
      if world.credential.isBlank then (some (.ok (some .acquire)), world)
      else (some (.ok (if due world.credential (backend.now world.outside).1 then
        some (.renewal world.credential) else none)),
          { world with outside := (backend.now world.outside).2 }) := by
  change Program.run backend (if world.credential.isBlank then _ else _) world = _
  split <;> rfl

/-- The decision asks nothing of the outside but the time. -/
theorem exchangeForToken_run_run {world : World σ}
    (hstored : world.credential.BlankOrComplete) :
    ∃ later, (exchangeForToken config).run.run backend world =
        (some (.ok (dueAt config world.credential (backend.now world.outside).1)), later) ∧
      later.sent = world.sent := by
  rw [exchangeForToken_run, decision_run, dueAt]
  by_cases hblank : world.credential.isBlank = true
  · have hrenewal : Exchange.renewal world.credential = .acquire := by
      rw [Exchange.renewal, hstored.refreshToken_of_isBlank hblank]
    rw [if_pos hblank, if_pos (Credential.isExpired_of_isBlank hblank _ _), hrenewal]
    exact ⟨world, rfl, rfl⟩
  · rw [if_neg hblank]
    exact ⟨_, rfl, rfl⟩

/-- What is sent to carry out an exchange, if there is one. -/
def Sends (config : Config) : Option Exchange → List Wire.Request → Prop
  | none, requests => requests = []
  | some exchange, requests => ∃ request, requests = [request] ∧
      config.grantRequest exchange.endpoint (exchange.grant config.login) = .ok request

variable {config world}

theorem performAny_sends (hgrant : config.CanGrant) (world : World σ) (exchange : Option Exchange) :
    ∃ requests result final,
      (performAny config exchange).run.run backend world = (some result, final) ∧
        final.sent = world.sent ++ requests ∧ Sends config exchange requests := by
  cases exchange with
  | none => exact ⟨[], _, world, rfl, (List.append_nil _).symm, rfl⟩
  | some exchange =>
      obtain ⟨request, hrequest⟩ :=
        hgrant.grantRequest exchange.endpoint (exchange.grant config.login)
      obtain ⟨result, final, hrun, hsent, -⟩ := settle_settles exchange.endpoint
        (backend.send world.outside request).1 backend (world.answer backend (.send request)).2
      refine ⟨[request], result, final, ?_, hsent, request, rfl, hrequest⟩
      rw [performAny, perform_run, hrequest]
      exact hrun

/-- A token costs the exchange that is due. -/
theorem getToken_sends (hgrant : config.CanGrant)
    (hstored : world.credential.BlankOrComplete) :
    ∃ requests result final,
      (getToken config).run.run backend world = (some result, final) ∧
        final.sent = world.sent ++ requests ∧
        Sends config (dueAt config world.credential (backend.now world.outside).1)
          requests := by
  obtain ⟨later, hdecided, hlater⟩ :=
    exchangeForToken_run_run config backend hstored
  obtain ⟨requests, result, final, hrun, hsent, hsends⟩ :=
    performAny_sends backend hgrant later
      (dueAt config world.credential (backend.now world.outside).1)
  rw [hlater] at hsent
  unfold getToken
  rw [Call.run_run_locked, Call.run_bind]
  rw [Program.run_bind, hdecided]
  simp only [ExceptT.bindCont]
  change ∃ requests result final, (performAny config _ >>= _ : Call String).run.run backend
    later = _ ∧ _
  rw [Call.run_bind, Program.run_bind, hrun]
  cases result with
  | error failure => exact ⟨requests, .error failure, final, rfl, hsent, hsends⟩
  | ok _ => exact ⟨requests, .ok final.credential.token, final, rfl, hsent, hsends⟩

/-- What is announced of the next use of the token, and what comes of it. -/
def Announced (config : Config) (backend : Backend σ) (world : World σ) : Prop :=
  ∃ due looked result final,
    (needsRenewal config).run backend world = (some due, looked) ∧
      (getToken config).run.run backend world = (some result, final) ∧
      (due = false → final.sent = world.sent) ∧
      (due = true → ∃ request, final.sent = world.sent ++ [request] ∧
        (∀ refreshToken, world.credential.refreshToken = some refreshToken →
          config.grantRequest .refresh (config.login.refreshGrant refreshToken) =
            .ok request) ∧
        (world.credential.refreshToken = none →
          config.grantRequest .app config.login.grant = .ok request))

theorem announced (hgrant : config.CanGrant)
    (hstored : world.credential.BlankOrComplete) : Announced config backend world := by
  obtain ⟨looked, hlooked⟩ := needsRenewal_run config backend world
  obtain ⟨requests, result, final, hrun, hsent, hsends⟩ :=
    getToken_sends backend hgrant hstored
  refine ⟨_, looked, result, final, hlooked, hrun, fun hnone => ?_, fun hsome => ?_⟩
  · rw [Option.isSome_eq_false_iff, Option.isNone_iff_eq_none] at hnone
    rw [hnone] at hsends
    rw [hsent, hsends, List.append_nil]
  · obtain ⟨exchange, hdue⟩ := Option.isSome_iff_exists.1 hsome
    have hrenewal : exchange = .renewal world.credential := by
      rw [dueAt, Option.ite_none_right_eq_some] at hdue
      exact (Option.some.inj hdue.2).symm
    rw [hdue] at hsends
    obtain ⟨request, rfl, hrequest⟩ := hsends
    refine ⟨request, hsent, fun refreshToken hrefresh => ?_, fun hrefresh => ?_⟩ <;>
      rw [hrenewal, Exchange.renewal, hrefresh] at hrequest <;> exact hrequest

end Store
end BearerClient
