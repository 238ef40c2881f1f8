import BearerClient.Proofs.Program.Contract
import BearerClient.Store

/-!
# The course of an exchange

An exchange sends one request, unless the request cannot be built.  Its answer
is taken apart without a question; only a good one leads to a look at the
clock, and only a credential that can be used is stored.  The rules below say
what an exchange, and the decision for one, need to obey a contract.
-/

namespace BearerClient.Store

/-- The token answer of an endpoint, from what the transport brings back. -/
def received (endpoint : Endpoint) :
    Except TransportFault Wire.Response → Except Failure TokenAnswer
  | .error source => .error (.ofTransport source)
  | .ok response => response.classifyCredential.bind (readAnswer endpoint)

/-- What is left of an exchange once its answer is there. -/
def settle : Except Failure TokenAnswer → Program (Except Failure Unit)
  | .error failure => .done (.error failure)
  | .ok answer => .ask .now fun now =>
    match Credential.ofAnswer answer now with
    | .error failure => .done (.error failure)
    | .ok credential => .ask (.replace credential) fun _ => .done (.ok ())

theorem complete_run (endpoint : Endpoint) (response : Wire.Response) :
    (complete endpoint response).run =
      settle (response.classifyCredential.bind (readAnswer endpoint)) := by
  unfold complete
  rw [Call.run_decided_bind]
  cases response.classifyCredential with
  | error failure => rfl
  | ok reply =>
      simp only [Call.run_decided_bind, Except.bind]
      cases readAnswer endpoint reply with
      | error failure => rfl
      | ok answer =>
          apply (Call.run_ask_bind .now _).trans
          apply Program.ask_congr
          intro now
          rw [Call.run_decided_bind]
          cases Credential.ofAnswer answer now <;> rfl

theorem perform_run (config : Config) (exchange : Exchange) :
    (perform config exchange).run =
      match config.grantRequest exchange.endpoint
        (exchange.grant config.login) with
      | .error failure => .done (.error failure)
      | .ok request => .ask (.send request) fun answer =>
        settle (received exchange.endpoint answer) := by
  unfold perform
  cases config.grantRequest exchange.endpoint (exchange.grant config.login) with
  | error failure => rfl
  | ok request =>
      apply Program.ask_congr
      intro answer
      cases answer with
      | error source => rfl
      | ok response => exact complete_run exchange.endpoint response

/-- A decision for an exchange: without a token a first one is obtained, and
a token that is due is renewed. -/
def decision (due : Credential → Instant → Bool) :
    Program (Except Failure (Option Exchange)) :=
  .ask .credential fun credential =>
    if credential.isBlank then .done (.ok (some .acquire))
    else .ask .now fun now =>
      .done (.ok (if due credential now then some (.renewal credential) else none))

theorem exchangeForToken_run (config : Config) :
    (exchangeForToken config).run =
      decision fun credential now =>
        credential.isExpired now config.refreshMargin := by
  apply (Call.run_ask_bind .credential _).trans
  apply Program.ask_congr
  intro credential
  by_cases hblank : credential.isBlank = true
  · rw [if_pos hblank, if_pos hblank]
    rfl
  · rw [if_neg hblank, if_neg hblank]
    apply (Call.run_ask_bind .now _).trans
    apply Program.ask_congr
    intro now
    by_cases hdue : credential.isExpired now config.refreshMargin = true
    · rw [if_pos hdue, if_pos hdue]
      rfl
    · rw [if_neg hdue, if_neg hdue]
      rfl

theorem exchangeForRefresh_run (config : Config) :
    (exchangeForRefresh config).run =
      decision fun credential now =>
        !credential.isFresh now config.freshBuffer := by
  apply (Call.run_ask_bind .credential _).trans
  apply Program.ask_congr
  intro credential
  by_cases hblank : credential.isBlank = true
  · rw [if_pos hblank, if_pos hblank]
    rfl
  · rw [if_neg hblank, if_neg hblank]
    apply (Call.run_ask_bind .now _).trans
    apply Program.ask_congr
    intro now
    by_cases hfresh : credential.isFresh now config.freshBuffer = true
    · rw [if_pos hfresh, if_neg (by simpa using hfresh)]
      rfl
    · rw [if_neg hfresh, if_pos (by simpa using hfresh)]
      rfl

/-- What a revocation reports of the answer to its request. -/
def revoked : Except TransportFault Wire.Response → Except Failure Unit
  | .error source => .error (.ofTransport source)
  | .ok response => response.classifyCredential.map fun _ => ()

theorem revoke_run (config : Config) :
    (revoke config).run = .ask .lock fun _ => .ask .credential fun credential =>
      match credential.refreshToken with
      | none => .ask (.replace .blank) fun _ => .ask .unlock fun _ =>
        .done (.ok ())
      | some refreshToken =>
        match config.grantRequest .revoke
          (config.login.refreshGrant refreshToken) with
        | .error failure => .ask .unlock fun _ => .done (.error failure)
        | .ok request => .ask (.send request) fun answer =>
          .ask (.replace .blank) fun _ => .ask .unlock fun _ =>
            .done (revoked answer) := by
  unfold revoke
  rw [Call.run_locked]
  apply Program.ask_congr
  intro _
  apply (congrArg (Program.bind · _) (Call.run_ask_bind .credential _)).trans
  apply Program.ask_congr
  intro credential
  dsimp only
  cases Credential.refreshToken credential with
  | none => rfl
  | some refreshToken =>
      simp only [Call.run_decided_bind]
      cases config.grantRequest .revoke
          (config.login.refreshGrant refreshToken) with
      | error failure => rfl
      | ok request =>
          apply Program.ask_congr
          intro answer
          apply Program.ask_congr
          intro _
          cases answer with
          | error source => rfl
          | ok response =>
              simp only [revoked]
              cases response.classifyCredential <;> rfl

/-! ## Rules -/

variable {asks : Asks} {log : List Event} {stored : Credential}

theorem obeys_settle {ends : Ends (Except Failure Unit)}
    {received : Except Failure TokenAnswer}
    (hfailed : ∀ failure, received = .error failure →
      ends log stored (some (.error failure)))
    (hnow : ∀ answer, received = .ok answer → asks log stored .now)
    (hrefused : ∀ answer now failure, received = .ok answer →
      Credential.ofAnswer answer now = .error failure →
        ends (log ++ [⟨stored, .now, now⟩]) stored (some (.error failure)))
    (hissued : ∀ answer now credential, received = .ok answer →
      Credential.ofAnswer answer now = .ok credential →
        asks (log ++ [⟨stored, .now, now⟩]) stored (.replace credential) ∧
          ends (log ++ [⟨stored, .now, now⟩] ++
            [⟨stored, .replace credential, ()⟩]) credential (some (.ok ()))) :
    (settle received).Obeys asks ends log stored := by
  cases received with
  | error failure => exact hfailed failure rfl
  | ok answer =>
      refine ⟨hnow answer rfl, fun now _ => ?_⟩
      cases hcredential : Credential.ofAnswer answer now with
      | error failure =>
          simp only [hcredential]
          exact hrefused answer now failure rfl hcredential
      | ok credential =>
          obtain ⟨hreplace, hends⟩ := hissued answer now credential rfl hcredential
          simp only [hcredential]
          exact ⟨hreplace, fun _ _ => hends⟩

theorem obeys_decision {ends : Ends (Except Failure (Option Exchange))}
    {due : Credential → Instant → Bool}
    (hlook : asks log stored .credential)
    (hblank : stored.isBlank = true →
      ends (log ++ [⟨stored, .credential, stored⟩]) stored
        (some (.ok (some .acquire))))
    (hnow : stored.isBlank = false →
      asks (log ++ [⟨stored, .credential, stored⟩]) stored .now)
    (hheld : ∀ now, stored.isBlank = false →
      ends (log ++ [⟨stored, .credential, stored⟩] ++ [⟨stored, .now, now⟩])
        stored
        (some (.ok (if due stored now then some (.renewal stored) else none)))) :
    (decision due).Obeys asks ends log stored := by
  refine ⟨hlook, fun answer hanswer => ?_⟩
  cases hanswer
  by_cases h : stored.isBlank = true
  · simp only [h, if_true]
    exact hblank h
  · have hfalse : stored.isBlank = false := by simpa using h
    simp only [h]
    exact ⟨hnow hfalse, fun now _ => hheld now hfalse⟩

end BearerClient.Store
