import BearerClient.Proofs.Delivery.Bearer
import BearerClient.Proofs.Delivery.Round
import BearerClient.Proofs.Program.Budget
import BearerClient.Proofs.Store.Exchange

/-!
# What delivery costs

A token and a refresh cost one grant each at most, an attempt one token and one
call.  None of them fails in such a way that the call should be sent again: that
is said by the outcome of an attempt, and only with attempts left.
-/

namespace BearerClient

/-- The price of a request, if grants and calls have a price each. -/
def Wire.Request.price (grants calls : Nat) (request : Wire.Request) : Nat :=
  if request.hasBearer then calls else grants

/-- A program that can afford no call sends none. -/
theorem Program.Within.grants {σ α : Type} {holds : α → Prop}
    {program : Program α} (hprogram : program.Within (Wire.Request.price 0 1) holds 0)
    (backend : Backend σ) (world : World σ) :
    ∀ request ∈ Event.requests (program.events backend world),
      request.hasBearer = false := by
  intro request hmember
  have hfree := Nat.eq_zero_of_le_zero (hprogram.requests backend world)
  have hprice : request.price 0 1 = 0 :=
    List.sum_eq_zero_iff_forall_eq_nat.1 hfree _ (List.mem_map_of_mem hmember)
  cases hbearer : request.hasBearer with
  | false => rfl
  | true =>
      rw [Wire.Request.price, hbearer] at hprice
      cases hprice

theorem Wire.Response.classifyCredential_settled (response : Wire.Response) :
    Call.Settled (fun _ => True) response.classifyCredential := by
  unfold classifyCredential
  split
  · exact .error rfl
  · split
    · exact .ok trivial
    · dsimp only
      split <;> exact .error rfl

theorem Config.userAgentValue_settled (config : Config) :
    Call.Settled (fun _ => True) config.userAgentValue := by
  unfold userAgentValue
  split
  · exact .ok trivial
  · exact .error rfl

namespace Store

variable {config : Config} {grants calls : Nat}

theorem received_settled (endpoint : Endpoint)
    (answer : Except TransportFault Wire.Response) :
    Call.Settled (fun _ => True) (received endpoint answer) := by
  cases answer with
  | error source => exact .error rfl
  | ok response =>
      apply Call.settled_bind response.classifyCredential_settled
      intro reply _
      unfold readAnswer
      split
      · exact .ok trivial
      · exact .error rfl

theorem ofAnswer_settled (answer : TokenAnswer) (now : Instant) :
    Call.Settled (fun _ => True) (Credential.ofAnswer answer now) := by
  unfold Credential.ofAnswer
  split
  · exact .error rfl
  · split
    · exact .error rfl
    · exact .ok trivial

theorem settle_within {received : Except Failure TokenAnswer} {budget : Nat}
    (hreceived : Call.Settled (fun _ => True) received) :
    (settle received).Within (Wire.Request.price grants calls)
      (Call.Settled fun _ => True) budget := by
  cases hreceived with
  | error hfinal => exact .error hfinal
  | @ok answer _ =>
      refine ⟨Nat.zero_le _, fun now => ?_⟩
      have hissued := ofAnswer_settled answer now
      dsimp only
      generalize Credential.ofAnswer answer now = issued at hissued
      cases hissued with
      | error hfinal => exact Program.within_done.2 (.error hfinal)
      | ok _ => exact ⟨Nat.zero_le _, fun _ => .ok trivial⟩

theorem perform_within (exchange : Exchange) :
    (perform config exchange).run.Within (Wire.Request.price grants calls)
      (Call.Settled fun _ => True) grants := by
  have hrequest : Call.Settled (fun _ => True) (config.grantRequest
      exchange.endpoint (exchange.grant config.login)) :=
    Call.settled_bind config.userAgentValue_settled fun _ _ => .ok trivial
  rw [perform_run]
  cases hgrant : config.grantRequest exchange.endpoint
      (exchange.grant config.login) with
  | error failure =>
      rw [hgrant] at hrequest
      exact Program.within_done.2 (.error hrequest.final)
  | ok request =>
      refine ⟨?_, fun answer => settle_within (received_settled _ answer)⟩
      rw [Query.cost, Wire.Request.price, Config.grantRequest_hasBearer hgrant]
      exact Nat.le_refl _

theorem performAny_within (exchange : Option Exchange) :
    (performAny config exchange).run.Within (Wire.Request.price grants calls)
      (Call.Settled fun _ => True) grants := by
  cases exchange with
  | none => exact .ok trivial
  | some exchange => exact perform_within exchange

theorem decision_within (due : Credential → Instant → Bool) :
    (decision due).Within (Wire.Request.price grants calls)
      (Call.Settled fun _ => True) 0 := by
  refine ⟨Nat.le_refl _, fun credential => ?_⟩
  by_cases hblank : credential.isBlank = true
  · simp only [if_pos hblank]
    exact .ok trivial
  · simp only [if_neg hblank]
    exact ⟨Nat.le_refl _, fun now => .ok trivial⟩

theorem getToken_within (config : Config) (grants calls : Nat) :
    (getToken config).run.Within (Wire.Request.price grants calls)
      (Call.Settled fun _ => True) grants := by
  have hdecision : (exchangeForToken config).run.Within
      (Wire.Request.price grants calls) (Call.Settled fun _ => True) 0 := by
    rw [exchangeForToken_run]
    exact decision_within _
  have htoken : (Call.ask .credential >>= fun credential =>
      pure credential.token : Call String).run.Within
        (Wire.Request.price grants calls) (Call.Settled fun _ => True) 0 :=
    ⟨Nat.le_refl _, fun _ => .ok trivial⟩
  apply Call.within_locked
  refine Call.within_bind hdecision (fun exchange _ => ?_)
    (Nat.le_of_eq (Nat.zero_add grants))
  exact Call.within_bind (performAny_within exchange) (fun _ _ => htoken)
    (Nat.le_refl _)

theorem refresh_within (config : Config) (grants calls : Nat) :
    (refresh config).run.Within (Wire.Request.price grants calls)
      (Call.Settled fun _ => True) grants := by
  have hdecision : (exchangeForRefresh config).run.Within
      (Wire.Request.price grants calls) (Call.Settled fun _ => True) 0 := by
    rw [exchangeForRefresh_run]
    exact decision_within _
  apply Call.within_locked
  exact Call.within_bind hdecision (fun exchange _ => performAny_within exchange)
    (Nat.le_of_eq (Nat.zero_add grants))

end Store

/-! ## Attempts -/

theorem Config.requestUrl_settled (config : Config) (path : String) :
    Call.Settled (fun _ => True) (config.requestUrl path) := by
  have hroot : Call.Settled (fun _ => True) config.rootUrl := by
    unfold rootUrl
    split
    · exact .ok trivial
    · exact .error rfl
  unfold requestUrl
  split
  · split
    · exact .error rfl
    · generalize config.rootUrl = root at hroot
      apply Call.settled_bind hroot
      intro api _
      split
      · exact .ok trivial
      · exact .error rfl
  · exact .ok trivial

namespace ApiCall

theorem validate_settled (call : ApiCall) :
    Call.Settled (fun _ => True) call.validate := by
  unfold validate
  split
  · exact .error rfl
  · exact .ok trivial

theorem target_settled (call : ApiCall) (config : Config) :
    Call.Settled (fun _ => True) (call.target config) :=
  Call.settled_bind call.validate_settled fun _ _ =>
    config.requestUrl_settled call.path

theorem repeatableTarget_settled (call : ApiCall) (config : Config) :
    Call.Settled (fun _ => True) (call.repeatableTarget config) := by
  apply Call.settled_bind call.validate_settled
  intro _ _
  cases call.body.isStream with
  | true => exact .error rfl
  | false => exact config.requestUrl_settled call.path

theorem wireHeaders_settled (call : ApiCall) (config : Config) (token : String) :
    Call.Settled (fun _ => True) (call.wireHeaders config token) := by
  have hopen : Call.Settled (fun _ => True) (call.openHeaders config) := by
    unfold openHeaders
    split
    · exact .ok trivial
    · have huser := config.userAgentValue_settled
      generalize config.userAgentValue = userAgent at huser
      cases huser with
      | error hfinal => exact .error hfinal
      | ok _ => exact .ok trivial
  have hbearer : Call.Settled (fun _ => True) (bearerValue token) := by
    unfold bearerValue
    split
    · exact .ok trivial
    · exact .error rfl
  rw [wireHeaders_eq]
  exact Call.settled_bind hopen fun _ _ =>
    Call.settled_bind hbearer fun _ _ => .ok trivial

theorem assemble_settled (call : ApiCall) (config : Config) (url token : String) :
    Call.Settled (fun request => request.hasBearer = true)
      (call.assemble config url token) := by
  have hrequest : Call.Settled (fun _ => True) (call.assemble config url token) :=
    Call.settled_bind (call.wireHeaders_settled config token) fun _ _ => .ok trivial
  cases hassemble : call.assemble config url token with
  | ok request => exact .ok (hasBearer_of_assemble hassemble)
  | error failure =>
      rw [hassemble] at hrequest
      exact .error hrequest.final

end ApiCall

namespace Delivery

variable {config : Config} {grants calls : Nat}

/-- What the outcome of an attempt can be, with some attempts left. -/
def Concludes (retriesLeft : Nat) : Outcome → Prop
  | .success _ => True
  | .fatal failure => failure.isRetryNeeded = false
  | .retryable _ => 0 < retriesLeft

theorem classify_concludes (response : Wire.Response) (retriesLeft : Nat) :
    Concludes retriesLeft (response.classify retriesLeft) := by
  unfold Wire.Response.classify
  split
  · exact rfl
  · split
    · exact trivial
    · dsimp only
      split
      · split
        · assumption
        · exact rfl
      · exact rfl

theorem attempt_within (call : ApiCall) (url : String) (retriesLeft : Nat) :
    (attempt config call url retriesLeft).run.Within
      (Wire.Request.price grants calls)
      (Call.Settled (Concludes retriesLeft)) (grants + calls) := by
  refine Call.within_bind (Store.getToken_within config grants calls)
    (fun token _ => ?_) (Nat.le_refl _)
  refine Call.within_bind
    (Call.within_decided (call.assemble_settled config url token))
    (fun request hbearer => ?_) (Nat.le_of_eq (Nat.zero_add calls))
  have hprice : request.price grants calls + 0 = calls := if_pos hbearer
  exact Call.within_bind Call.within_send
    (fun response _ => .ok (classify_concludes response retriesLeft))
    (Nat.le_of_eq hprice)

/-- A round has to pay for what is left of the rounds only where there are
attempts left. -/
theorem round_within (call : ApiCall) (url : String) (retriesLeft : Nat)
    {rest : Call Reply} {left : Nat}
    (hrest : 0 < retriesLeft → ∃ budget, grants + budget ≤ left ∧
      rest.run.Within (Wire.Request.price grants calls)
        (Call.Settled fun _ => True) budget) :
    (round config call url retriesLeft rest).run.Within
      (Wire.Request.price grants calls) (Call.Settled fun _ => True)
      (grants + calls + left) := by
  refine Call.within_bind (attempt_within call url retriesLeft)
    (fun outcome hconcludes => ?_) (Nat.le_refl _)
  cases outcome with
  | success reply => exact .ok trivial
  | fatal failure => exact .error hconcludes
  | retryable details =>
      obtain ⟨budget, hleft, hwithin⟩ := hrest hconcludes
      exact Call.within_bind (Store.refresh_within config grants calls)
        (fun _ _ => hwithin) hleft

/-- Attempts come to an end.  There is one more than are left at first, each
with a grant of its own and with another one before the next. -/
theorem attempts_within (call : ApiCall) (url : String)
    {retriesLeft attempted : Nat}
    (hrange : retriesLeft + attempted + 1 < UInt32.size) :
    (attempts config call url retriesLeft attempted).run.Within
      (Wire.Request.price grants calls) (Call.Settled fun _ => True)
      (grants + calls + retriesLeft * (2 * grants + calls)) := by
  induction retriesLeft generalizing attempted with
  | zero =>
      rw [attempts_zero (by omega)]
      exact round_within call url 0 fun hleft => absurd hleft (Nat.lt_irrefl 0)
  | succ retriesLeft ih =>
      rw [attempts_succ (by omega)]
      refine round_within call url _ fun _ => ⟨_, ?_, ih (by omega)⟩
      rw [Nat.succ_mul retriesLeft]
      omega

theorem execute_within {call : ApiCall}
    (hrange : (call.retries config).toNat + 1 < UInt32.size) :
    (execute config call).run.Within (Wire.Request.price grants calls)
      (Call.Settled fun _ => True)
      (grants + calls + (call.retries config).toNat * (2 * grants + calls)) :=
  Call.within_bind
    (Call.within_decided (call.repeatableTarget_settled config))
    (fun url _ => attempts_within call url hrange)
    (Nat.le_of_eq (Nat.zero_add _))

end Delivery
end BearerClient
