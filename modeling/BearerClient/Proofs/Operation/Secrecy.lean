import BearerClient.Proofs.Delivery.Agreement
import BearerClient.Proofs.Operation.Session
import BearerClient.Proofs.Program.Alike
import BearerClient.Proofs.Store.Exchange
import BearerClient.Proofs.Store.Grant
import BearerClient.Rehearsal.Script

/-!
# Where the login goes

A login is written into the bodies of grants and goes nowhere else.  Whatever a client
does, it does the same with another login: only the bodies of its grants differ, as long
as nobody makes a difference between them.  So no header, URL, failure, decision or stored
credential tells anything about the login.
-/

namespace BearerClient

/-! ## Another login -/

namespace Config

/-- The configuration with another login. -/
def withLogin (config : Config) (login : Login) : Config := { config with login }

variable (config : Config) (login : Login)

theorem withLogin_login : (config.withLogin login).login = login := rfl

theorem withLogin_root : (config.withLogin login).root = config.root := rfl

theorem withLogin_rootUrl : (config.withLogin login).rootUrl = config.rootUrl := by
  rw [rootUrl, rootUrl, withLogin_root]
  cases Url.parse config.root with
  | ok url => rfl
  | error fault => rfl

theorem withLogin_requestUrl (path : String) :
    (config.withLogin login).requestUrl path = config.requestUrl path := by
  unfold requestUrl
  rw [withLogin_rootUrl]
  rfl

end Config

theorem ApiCall.target_withLogin (call : ApiCall) (config : Config) (login : Login) :
    call.target (config.withLogin login) = call.target config := by
  rw [target, target, Config.withLogin_requestUrl]

theorem ApiCall.repeatableTarget_withLogin (call : ApiCall) (config : Config)
    (login : Login) :
    call.repeatableTarget (config.withLogin login) = call.repeatableTarget config := by
  rw [repeatableTarget, repeatableTarget, Config.withLogin_requestUrl]

/-- The requests agree in all but their bodies, and in these too unless they are grants,
sent to an endpoint for grants without a token. -/
structure Wire.Request.AlikeFor (config : Config) (request request' : Wire.Request) :
    Prop where
  method : request.method = request'.method
  url : request.url = request'.url
  headers : request.headers = request'.headers
  timeout : request.timeout = request'.timeout
  body : request.body = request'.body ∨
    request.method = "POST" ∧ request.hasBearer = false ∧
      ∃ endpoint : Endpoint, request.url = config.endpointUrl endpoint.name

theorem Wire.Request.AlikeFor.refl {config : Config} (request : Wire.Request) :
    AlikeFor config request request :=
  ⟨rfl, rfl, rfl, rfl, .inl rfl⟩

/-- Whether a grant can be built depends on neither the login nor what is granted, and nor
does anything of it but its body. -/
theorem Config.grantRequest_withLogin (config : Config) (login : Login) (endpoint : Endpoint)
    (grant grant' : Json.Value) :
    (∃ failure, config.grantRequest endpoint grant = .error failure ∧
      (config.withLogin login).grantRequest endpoint grant' = .error failure) ∨
    ∃ request request', config.grantRequest endpoint grant = .ok request ∧
      (config.withLogin login).grantRequest endpoint grant' = .ok request' ∧
      request.AlikeFor config request' := by
  have hsame : (config.withLogin login).userAgentValue = config.userAgentValue := rfl
  cases huser : config.userAgentValue with
  | error failure =>
      refine .inl ⟨failure, ?_, ?_⟩
      · rw [grantRequest, huser]
        rfl
      · rw [grantRequest, hsame, huser]
        rfl
  | ok userAgent =>
      obtain ⟨request, hrequest⟩ := CanGrant.grantRequest ⟨userAgent, huser⟩ endpoint grant
      obtain ⟨request', hrequest'⟩ :=
        CanGrant.grantRequest ⟨userAgent, hsame.trans huser⟩ endpoint grant'
      have hbearer := grantRequest_hasBearer hrequest
      refine .inr ⟨request, request', hrequest, hrequest', ?_⟩
      rw [grantRequest, huser] at hrequest
      rw [grantRequest, hsame, huser] at hrequest'
      cases hrequest
      cases hrequest'
      exact ⟨rfl, rfl, rfl, rfl, .inr ⟨rfl, hbearer, endpoint, rfl⟩⟩

/-! ## Programs under another login -/

/-- The programs of two logins, which may differ in the bodies of grants. -/
abbrev Config.Conceals {α : Type} (config : Config) (program program' : Program α) : Prop :=
  Program.Alike (Wire.Request.AlikeFor config) program program'

section Programs

variable (config : Config) (login : Login)

namespace Store

theorem perform_conceals (exchange : Exchange) :
    config.Conceals (perform config exchange).run
      (perform (config.withLogin login) exchange).run := by
  rw [perform_run, perform_run, Config.withLogin_login]
  rcases config.grantRequest_withLogin login exchange.endpoint
    (exchange.grant config.login) (exchange.grant login) with
    ⟨failure, hrequest, hrequest'⟩ | ⟨request, request', hrequest, hrequest', halike⟩
  · rw [hrequest, hrequest']
    exact .refl _
  · rw [hrequest, hrequest']
    exact .send halike fun _ => .refl _

theorem performAny_conceals (exchange : Option Exchange) :
    config.Conceals (performAny config exchange).run
      (performAny (config.withLogin login) exchange).run := by
  cases exchange with
  | none => exact .refl _
  | some exchange => exact perform_conceals config login exchange

/-- The decision for an exchange does not look at the login. -/
theorem getToken_conceals :
    config.Conceals (getToken config).run (getToken (config.withLogin login)).run := by
  apply Call.alike_locked
  apply Call.alike_bind (.refl (exchangeForToken config).run)
  intro exchange
  exact Call.alike_bind (performAny_conceals config login exchange) fun _ => .refl _

theorem refresh_conceals :
    config.Conceals (refresh config).run (refresh (config.withLogin login)).run := by
  apply Call.alike_locked
  exact Call.alike_bind (.refl (exchangeForRefresh config).run)
    (performAny_conceals config login)

theorem acquire_conceals :
    config.Conceals (acquire config).run (acquire (config.withLogin login)).run :=
  Call.alike_locked (perform_conceals config login .acquire)

theorem revoke_conceals :
    config.Conceals (revoke config).run (revoke (config.withLogin login)).run := by
  rw [revoke_run, revoke_run, Config.withLogin_login]
  refine .ask fun _ => .ask fun credential => ?_
  cases hrefresh : Credential.refreshToken credential with
  | none => exact .refl _
  | some refreshToken =>
      simp only
      rcases config.grantRequest_withLogin login .revoke
        (config.login.refreshGrant refreshToken) (login.refreshGrant refreshToken) with
        ⟨failure, hrequest, hrequest'⟩ | ⟨request, request', hrequest, hrequest', halike⟩
      · rw [hrequest, hrequest']
        exact .refl _
      · rw [hrequest, hrequest']
        exact .send halike fun _ => .refl _

end Store

namespace Delivery

variable (call : ApiCall)

theorem attempt_conceals (url : String) (retriesLeft : Nat) :
    config.Conceals (attempt config call url retriesLeft).run
      (attempt (config.withLogin login) call url retriesLeft).run := by
  rw [attempt_run, attempt_run]
  exact (Store.getToken_conceals config login).bind fun _ => .refl _

theorem round_conceals (url : String) (retriesLeft : Nat) {rest rest' : Call Reply}
    (hrest : config.Conceals rest.run rest'.run) :
    config.Conceals (round config call url retriesLeft rest).run
      (round (config.withLogin login) call url retriesLeft rest').run := by
  apply Call.alike_bind (attempt_conceals config login call url retriesLeft)
  intro outcome
  cases outcome with
  | success reply => exact .refl _
  | fatal failure => exact .refl _
  | retryable details =>
      exact Call.alike_bind (Store.refresh_conceals config login) fun _ => hrest

theorem attempts_conceals (url : String) (retriesLeft attempted : Nat) :
    config.Conceals (attempts config call url retriesLeft attempted).run
      (attempts (config.withLogin login) call url retriesLeft attempted).run := by
  induction retriesLeft generalizing attempted with
  | zero =>
      by_cases hrange : attempted + 1 = UInt32.size
      · rw [attempts_out_of_range hrange, attempts_out_of_range hrange]
        exact .abort
      · rw [attempts_zero hrange, attempts_zero hrange]
        exact round_conceals config login call url 0 .abort
  | succ retriesLeft ih =>
      by_cases hrange : attempted + 1 = UInt32.size
      · rw [attempts_out_of_range hrange, attempts_out_of_range hrange]
        exact .abort
      · rw [attempts_succ hrange, attempts_succ hrange]
        exact round_conceals config login call url _ (ih (attempted + 1))

theorem execute_conceals :
    config.Conceals (execute config call).run
      (execute (config.withLogin login) call).run := by
  have hretries : call.retries (config.withLogin login) = call.retries config := rfl
  rw [execute, execute, ApiCall.repeatableTarget_withLogin, hretries]
  exact Call.alike_bind (.refl _) fun url => attempts_conceals config login call url _ 0

theorem dispatch_conceals :
    config.Conceals (dispatch config call).run
      (dispatch (config.withLogin login) call).run := by
  have hsame := call.target_withLogin config login
  have hretries : call.retries (config.withLogin login) = call.retries config := rfl
  cases htarget : call.target config with
  | error failure =>
      rw [dispatch_refused htarget, dispatch_refused (hsame.trans htarget)]
      exact .refl _
  | ok url =>
      rw [dispatch_eq htarget, dispatch_eq (hsame.trans htarget), hretries]
      exact Call.alike_bind (attempt_conceals config login call url _) fun _ => .refl _

theorem dispatchUnlessCancelled_conceals (cancelled : Option Nat) :
    config.Conceals (dispatchUnlessCancelled config call cancelled).run
      (dispatchUnlessCancelled (config.withLogin login) call cancelled).run := by
  cases cancelled with
  | none => exact dispatch_conceals config login call
  | some questions =>
      exact ((dispatch_conceals config login call).cutOff questions).bind fun _ => .refl _

end Delivery

namespace Client

variable (call : ApiCall)

theorem round_conceals (remaining : Nat) {rest rest' : Call Reply}
    (hrest : config.Conceals rest.run rest'.run) :
    config.Conceals (round config call remaining rest).run
      (round (config.withLogin login) call remaining rest').run := by
  rw [round_run, round_run]
  apply (Delivery.dispatch_conceals config login _).bind
  intro result
  cases result with
  | ok reply => exact .refl _
  | error failure =>
      cases hretry : failure.isRetryNeeded with
      | true =>
          simp only [afterDispatch, hretry, if_true]
          exact Call.alike_bind (Store.refresh_conceals config login) fun _ => hrest
      | false =>
          rw [afterDispatch_final hretry, afterDispatch_final hretry]
          exact .refl _

theorem dispatches_conceals (remaining : Nat) :
    config.Conceals (dispatches config call remaining).run
      (dispatches (config.withLogin login) call remaining).run := by
  induction remaining with
  | zero =>
      rw [dispatches_zero, dispatches_zero]
      exact round_conceals config login call 0 .abort
  | succ remaining ih =>
      rw [dispatches_succ, dispatches_succ]
      exact round_conceals config login call _ ih

theorem send_conceals :
    config.Conceals (send config call).run (send (config.withLogin login) call).run := by
  unfold send
  split
  · exact Delivery.dispatch_conceals config login _
  · exact dispatches_conceals config login _ _

end Client

theorem Operation.perform_conceals (operation : Operation) :
    config.Conceals (operation.perform config).run
      (operation.perform (config.withLogin login)).run := by
  cases operation with
  | getToken => exact Call.alike_map _ (Store.getToken_conceals config login)
  | refresh => exact Call.alike_map _ (Store.refresh_conceals config login)
  | acquire => exact Call.alike_map _ (Store.acquire_conceals config login)
  | revoke => exact Call.alike_map _ (Store.revoke_conceals config login)
  | execute call => exact Call.alike_map _ (Delivery.execute_conceals config login call)
  | dispatch call => exact Call.alike_map _ (Delivery.dispatch_conceals config login call)
  | cancellable call cancelled =>
      exact Call.alike_map _
        (Delivery.dispatchUnlessCancelled_conceals config login call cancelled)
  | send call => exact Call.alike_map _ (Client.send_conceals config login call)

end Programs

/-! ## Sessions -/

namespace Session

/-- What the store shows to anybody. -/
inductive Look where
  | credential
  | authenticated
  | threshold
  | untilRefresh
  | needsRenewal

inductive Look.Result where
  | credential (credential : Credential)
  | flag (value : Bool)
  | instant (instant : Option Instant)
  | time (time : Option Duration)

def Look.perform (config : Config) : Look → Program Look.Result
  | credential => .credential <$> Program.query .credential
  | authenticated => .flag <$> Store.authenticated
  | threshold => .instant <$> Store.threshold config
  | untilRefresh => .time <$> Store.untilRefresh config
  | needsRenewal => .flag <$> Store.needsRenewal config

/-- A move is an operation or a look at the store. -/
inductive Move where
  | operate (operation : Operation)
  | glance (look : Look)

inductive Move.Result where
  | ended (result : Except Failure Operation.Result)
  | seen (result : Look.Result)

def Move.perform (config : Config) : Move → Program Move.Result
  | operate operation => .ended <$> (operation.perform config).run
  | glance look => .seen <$> look.perform config

/-- What is seen of a session with moves of both kinds. -/
def record {σ : Type} (config : Config) (backend : Backend σ) (moves : List Move)
    (start : World σ) : Program.Record Move.Result σ :=
  Program.record backend (moves.map (·.perform config)) start

theorem Move.perform_conceals (config : Config) (login : Login) (move : Move) :
    config.Conceals (move.perform config) (move.perform (config.withLogin login)) := by
  cases move with
  | operate operation =>
      exact (operation.perform_conceals config login).bind fun _ => .refl _
  | glance look =>
      have hsame : look.perform (config.withLogin login) = look.perform config := by
        cases look <;> rfl
      rw [perform, perform, hsame]
      exact .refl _

/-- **The login stays in the grants.**  Two sessions make the same moves with two logins,
and all else in their configurations is the same; so is what is stored at their start.
As long as their clocks show the same and their requests are answered alike, one after
another, all their results are the same and so is what is stored at any time.  Their
requests agree in number, and each with its counterpart in method, URL, headers and time;
the bodies of grants are all that may differ. -/
theorem login_concealed {σ σ' : Type} (config : Config) (login : Login)
    (backend : Backend σ) (backend' : Backend σ') (moves : List Move)
    (start : World σ) (start' : World σ') (hstored : start.credential = start'.credential)
    (hanswers : Event.AnsweredAlike (record config backend moves start).events
      (record (config.withLogin login) backend' moves start').events) :
    (record config backend moves start).Alike (Wire.Request.AlikeFor config)
      (record (config.withLogin login) backend' moves start') := by
  apply Program.record_alike backend backend' Wire.Request.AlikeFor.refl _ hstored hanswers
  rw [List.forall₂_map_left_iff, List.forall₂_map_right_iff, List.forall₂_same]
  exact fun move _ => move.perform_conceals config login

deriving instance DecidableEq for Wire.Response

/-- Another login for a session whose call is rejected, and which then revokes. -/
theorem login_concealed_rejected :
    let config : Config :=
      { apiUrl := "https://api.test", login := ⟨"user", "secret", "id", "key"⟩ }
    let login : Login := ⟨"other", "word", "number", "lock"⟩
    let script : Rehearsal.Script := ⟨[
      ("revoke", [.plain 500 "down"]), ("*", [.plain 401 "expired"])]⟩
    let world : World Rehearsal.Stage :=
      { outside := ⟨.epoch, []⟩, credential := ⟨"first", some .last, some "again", none⟩ }
    let moves : List Move := [.glance .needsRenewal,
      .operate (.execute ((ApiCall.get "items").withMaxRetries 0)), .operate .revoke]
    Event.AnsweredAlike (record config script.backend moves world).events
        (record (config.withLogin login) script.backend moves world).events ∧
      (record config script.backend moves world).Alike (Wire.Request.AlikeFor config)
        (record (config.withLogin login) script.backend moves world) := by
  intro config login script world moves
  have hclock : Event.instants (record config script.backend moves world).events =
      Event.instants (record (config.withLogin login) script.backend moves world).events := by
    decide +kernel +zetaReduce
  have htransport : Event.responses (record config script.backend moves world).events =
      Event.responses (record (config.withLogin login) script.backend moves world).events := by
    decide +kernel +zetaReduce
  have hanswers : Event.AnsweredAlike (record config script.backend moves world).events
      (record (config.withLogin login) script.backend moves world).events := by
    constructor
    · rw [hclock]
      exact agree_refl _
    · rw [htransport]
      exact agree_refl _
  have halike := login_concealed config login script.backend script.backend moves world world
    rfl hanswers
  clear_value config login script world moves
  exact ⟨hanswers, halike⟩

end Session
end BearerClient
