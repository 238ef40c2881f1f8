import BearerClient.Proofs.Delivery.Causes
import BearerClient.Proofs.Operation.Revocation

/-!
# What failures say

Callers branch on the kind of a failure, so each kind has to mean one thing whatever it
went through on its way up: the checks of a call, the store, the transport, the
classification of an answer and the rounds of a delivery.  A failure accounts for the
events before it.  In particular a rejection that is to be followed by another dispatch
is reported by dispatches only, and nothing that is sent until it is answered lets it out.

The same causes tell which configurations keep failures of their own from coming up once
a client is built.
-/

namespace BearerClient

/-! ## Checks -/

namespace Config

variable {config : Config} {path : String} {failure : Failure}

theorem rootUrl_eq_error (hroot : config.rootUrl = .error failure) :
    ∃ message, failure = .config message := by
  unfold rootUrl at hroot
  split at hroot
  · cases hroot
  · cases hroot
    exact ⟨_, rfl⟩

theorem userAgentValue_eq_error (huser : config.userAgentValue = .error failure) :
    ∃ message, failure = .config message := by
  unfold userAgentValue at huser
  split at huser
  · cases huser
  · cases huser
    exact ⟨_, rfl⟩

theorem requestUrl_eq_error (hurl : config.requestUrl path = .error failure) :
    (∃ message, failure = .invalidRequest message) ∨ config.rootUrl = .error failure := by
  unfold requestUrl at hurl
  split at hurl
  case isFalse => cases hurl
  case isTrue =>
    split at hurl
    case h_1 =>
      cases hurl
      exact .inl ⟨_, rfl⟩
    case h_2 =>
      rcases decided_bind_eq_error.1 hurl with hroot | ⟨api, -, hforeign⟩
      · exact .inr hroot
      split at hforeign
      · cases hforeign
      · cases hforeign
        exact .inl ⟨_, rfl⟩

end Config

namespace ApiCall

variable {call : ApiCall} {config : Config} {url token : String} {failure : Failure}

theorem validate_eq_error (hcall : call.validate = .error failure) :
    ∃ message, failure = .invalidRequest message := by
  unfold validate at hcall
  split at hcall
  · cases hcall
    exact ⟨_, rfl⟩
  · cases hcall

theorem target_eq_error (htarget : call.target config = .error failure) :
    (∃ message, failure = .invalidRequest message) ∨ config.rootUrl = .error failure := by
  rcases decided_bind_eq_error.1 htarget with hcall | ⟨_, -, hurl⟩
  · exact .inl (validate_eq_error hcall)
  · exact Config.requestUrl_eq_error hurl

theorem repeatableTarget_eq_error
    (htarget : call.repeatableTarget config = .error failure) :
    (∃ message, failure = .invalidRequest message) ∨ config.rootUrl = .error failure := by
  cases hstream : call.body.isStream with
  | false =>
      rw [repeatableTarget_eq hstream] at htarget
      exact target_eq_error htarget
  | true =>
      rw [repeatableTarget_stream hstream] at htarget
      rcases decided_bind_eq_error.1 htarget with hcall | ⟨_, -, hrefused⟩
      · exact .inl (validate_eq_error hcall)
      · cases hrefused
        exact .inl ⟨_, rfl⟩

theorem openHeaders_eq_error (hopen : call.openHeaders config = .error failure) :
    config.userAgentValue = .error failure := by
  unfold openHeaders at hopen
  split at hopen
  · cases hopen
  · cases huser : config.userAgentValue with
    | error fault =>
        rw [huser] at hopen
        cases hopen
        rfl
    | ok userAgent =>
        rw [huser] at hopen
        cases hopen

theorem bearerValue_eq_error (htoken : bearerValue token = .error failure) :
    failure = rejectedToken := by
  unfold bearerValue at htoken
  split at htoken
  · cases htoken
  · cases htoken
    rfl

theorem assemble_eq_error (hassemble : call.assemble config url token = .error failure) :
    config.userAgentValue = .error failure ∨ failure = rejectedToken := by
  rcases decided_bind_eq_error.1 hassemble with hheaders | ⟨_, -, hwhole⟩
  · rw [wireHeaders_eq] at hheaders
    rcases decided_bind_eq_error.1 hheaders with hopen | ⟨_, -, hbearer⟩
    · exact .inl (openHeaders_eq_error hopen)
    rcases decided_bind_eq_error.1 hbearer with htoken | ⟨_, -, hwhole⟩
    · exact .inr (bearerValue_eq_error htoken)
    · cases hwhole
  · cases hwhole

end ApiCall

/-! ## Kinds of failures -/

namespace Operation

/-- The request is the call of the operation. -/
def Makes (operation : Operation) (config : Config) (request : Wire.Request) : Prop :=
  ∃ call url token, operation.call? = some call ∧
    config.requestUrl call.path = .ok url ∧
    call.assemble config url token = .ok request

/-- The attempts that the call of an operation is allowed after the first one. -/
def retries (config : Config) : Operation → Nat
  | .execute call | .dispatch call | .cancellable call _ => (call.retries config).toNat
  | .send call => Client.sendRetries config call
  | _ => 0

/-- What the failure of an operation says about its events. -/
def Accounts (operation : Operation) (config : Config) (events : List Event) :
    Failure → Prop
  /- the operation dispatches a call, which was rejected while there were attempts left -/
  | .retryNeeded status =>
    ∃ call, (operation = .dispatch call ∨ ∃ cancelled, operation = .cancellable call cancelled) ∧
      status = 401 ∧ Delivery.Rejected config call events
  | .cancelled => ∃ call questions, operation = .cancellable call (some questions)
  | .decode _ _ => False
  /- the call was answered, with this status -/
  | .http status _ _ _ =>
    ∃ request response body, Event.last? events = some (request, .ok response) ∧
      operation.Makes config request ∧ response.body = .ok body ∧
      response.status = status ∧ (status < 200 ∨ 399 < status) ∧ status ≠ 401
  /- a grant was rejected, or the call when no attempts were left -/
  | .unauthorized _ _ =>
    ∃ request response body, Event.last? events = some (request, .ok response) ∧
      response.body = .ok body ∧ response.status = 401 ∧
      (request.IsGrant config ∨ operation.Makes config request ∧
        (Event.calls events).length = operation.retries config + 1)
  | .transport none source =>
    ∃ request, Event.last? events = some (request, .error source)
  | .transport (some status) source =>
    ∃ request response, Event.last? events = some (request, .ok response) ∧
      response.status = status ∧ response.body = .error source
  | .authentication .. | .invalidRequest _ | .config _ => True

/-- Why an operation fails. -/
inductive Cause (operation : Operation) (config : Config) (events : List Event) :
    Failure → Prop where
  | store {failure : Failure} (hstore : Store.Cause config events failure) :
      Cause operation config events failure
  | call {failure : Failure} {call : ApiCall} (hcall : operation.call? = some call)
      (hcause : Delivery.Cause config call (operation.retries config) events failure) :
      Cause operation config events failure
  | rejected {call : ApiCall}
      (hoperation : operation = .dispatch call ∨
        ∃ cancelled, operation = .cancellable call cancelled)
      (hrejected : Delivery.Rejected config call events) :
      Cause operation config events (.retryNeeded 401)
  | cancelled {call : ApiCall} {questions : Nat}
      (hoperation : operation = .cancellable call (some questions)) :
      Cause operation config events .cancelled

variable {operation : Operation} {config : Config} {events : List Event}
  {failure : Failure}

theorem Cause.of_dispatch {call : ApiCall}
    (hoperation : operation = .dispatch call ∨
      ∃ cancelled, operation = .cancellable call cancelled)
    (hcourse : (Delivery.dispatch config call).run.Course events
      (some (.error failure))) :
    Cause operation config events failure := by
  have hcall : operation.call? = some call ∧
      operation.retries config = (call.retries config).toNat := by
    rcases hoperation with rfl | ⟨cancelled, rfl⟩
    · exact ⟨rfl, rfl⟩
    · exact ⟨rfl, rfl⟩
  rcases Delivery.dispatch_cause hcourse with rfl | hcause
  · exact .rejected hoperation (Delivery.dispatch_retryNeeded.1 hcourse).2
  · rw [← hcall.2] at hcause
    exact .call hcall.1 hcause

theorem cause_of_course (hcourse : (operation.perform config).run.Course events
    (some (.error failure))) : Cause operation config events failure := by
  cases operation with
  | getToken => exact .store (Store.getToken_cause (Call.course_map_error.1 hcourse))
  | refresh => exact .store (Store.refresh_cause (Call.course_map_error.1 hcourse))
  | acquire => exact .store (Store.acquire_cause (Call.course_map_error.1 hcourse))
  | revoke => exact .store (Store.revoke_cause (Call.course_map_error.1 hcourse))
  | execute call =>
      exact .call rfl (Delivery.execute_cause (Call.course_map_error.1 hcourse))
  | send call => exact .call rfl (Client.send_cause (Call.course_map_error.1 hcourse))
  | dispatch call => exact .of_dispatch (.inl rfl) (Call.course_map_error.1 hcourse)
  | cancellable call cancelled =>
      have hcancellable := Call.course_map_error.1 hcourse
      rcases Delivery.dispatchUnlessCancelled_course hcancellable with
        ⟨rfl, hcancelled⟩ | hdispatch
      · obtain ⟨questions, rfl⟩ := Option.ne_none_iff_exists'.1 hcancelled
        exact .cancelled rfl
      · exact .of_dispatch (.inr ⟨cancelled, rfl⟩) hdispatch

theorem Accounts.of_store (hcause : Store.Cause config events failure) :
    operation.Accounts config events failure := by
  cases hcause with
  | config message hgrant => trivial
  | @answer request answer _ hlast hgrant hcomplaint =>
      cases hcomplaint with
      | lost source => exact ⟨request, hlast⟩
      | @unreadable response _ hbody => exact ⟨request, response, hlast, rfl, hbody⟩
      | @unauthorized response body _ _ hbody hstatus =>
          exact ⟨request, response, body, hlast, hbody, hstatus, .inl hgrant⟩
      | authentication => trivial

theorem Accounts.of_check
    (hcheck : (∃ message, failure = .invalidRequest message) ∨
      config.rootUrl = .error failure) :
    operation.Accounts config events failure := by
  rcases hcheck with ⟨message, rfl⟩ | hroot
  · trivial
  · obtain ⟨message, rfl⟩ := Config.rootUrl_eq_error hroot
    trivial

theorem Accounts.of_call {call : ApiCall} (hcall : operation.call? = some call)
    (hcause : Delivery.Cause config call (operation.retries config) events failure) :
    operation.Accounts config events failure := by
  cases hcause with
  | refused hrefused =>
      rcases hrefused with htarget | htarget
      · exact .of_check (ApiCall.target_eq_error htarget)
      · exact .of_check (ApiCall.repeatableTarget_eq_error htarget)
  | store hstore => exact .of_store hstore
  | unassembled hassemble =>
      rcases ApiCall.assemble_eq_error hassemble with huser | rfl
      · obtain ⟨message, rfl⟩ := Config.userAgentValue_eq_error huser
        trivial
      · trivial
  | @answer url token request answer htarget hassemble hlast hverdict hretries =>
      have hmakes : operation.Makes config request :=
        ⟨call, url, token, hcall, htarget, hassemble⟩
      cases Delivery.complaint_of_verdict hverdict with
      | lost source => exact ⟨request, hlast⟩
      | @unreadable response _ hbody => exact ⟨request, response, hlast, rfl, hbody⟩
      | @unauthorized response body _ _ hbody hstatus =>
          have hrejected : Delivery.rejects (.ok response) = true := by
            simp [Delivery.rejects, hstatus, hbody, Except.isOk, Except.toBool]
          have hlength := hretries hrejected
          exact ⟨request, response, body, hlast, hbody, hstatus, .inr ⟨hmakes, hlength⟩⟩
      | @http response body _ _ _ hbody hfailed hstatus =>
          have hrange : response.status < 200 ∨ 399 < response.status :=
            Store.not_isSuccess_iff.1 hfailed
          exact ⟨request, response, body, hlast, hmakes, hbody, rfl, hrange, hstatus⟩

theorem Accounts.of_cause (hcause : Cause operation config events failure) :
    operation.Accounts config events failure := by
  cases hcause with
  | store hstore => exact .of_store hstore
  | call hcall hcause => exact .of_call hcall hcause
  | rejected hoperation hrejected => exact ⟨_, hoperation, rfl, hrejected⟩
  | cancelled hoperation => exact ⟨_, _, hoperation⟩

end Operation

/-- The body of a reply that is not what it is taken for is reported as such. -/
theorem Reply.text_eq_error {reply : Reply} {failure : Failure}
    (htext : reply.text = .error failure) :
    ∃ message, failure = .decode reply.status message := by
  unfold text at htext
  split at htext
  · cases htext
  · cases htext
    exact ⟨_, rfl⟩

theorem Reply.json_eq_error {α : Type} {reply : Reply} {decoder : Json.Decoder α}
    {failure : Failure} (hjson : reply.json decoder = .error failure) :
    ∃ message, failure = .decode reply.status message := by
  unfold json at hjson
  split at hjson
  · cases hjson
  · split at hjson
    · cases hjson
    · cases hjson
      exact ⟨_, rfl⟩

/-- **What failures say.**  Whatever an operation is answered, alone or beside others, a
failure that it ends with accounts for its events, by the kind of the failure.  A dispatch
asks for another one exactly where it got a token and built its request, and the answer
was a readable 401 while there were attempts left.  What is not what it should be in the
body of a reply is told by the reply, with its status, and by no operation. -/
theorem Operation.failures_account (config : Config) :
    (∀ (operation : Operation) (events : List Event) (failure : Failure),
      (operation.perform config).run.Course events (some (.error failure)) →
        operation.Accounts config events failure) ∧
      (∀ (call : ApiCall) (events : List Event) (status : UInt16),
        (Delivery.dispatch config call).run.Course events
            (some (.error (.retryNeeded status))) ↔
          status = 401 ∧ Delivery.Rejected config call events) ∧
      ∀ (reply : Reply) (failure : Failure),
        (reply.text = .error failure →
          ∃ message, failure = .decode reply.status message) ∧
        ∀ (α : Type) (decoder : Json.Decoder α), reply.json decoder = .error failure →
          ∃ message, failure = .decode reply.status message := by
  refine ⟨fun operation events failure hcourse => ?_,
    fun call events status => Delivery.dispatch_retryNeeded,
    fun reply failure => ⟨Reply.text_eq_error, fun α decoder => Reply.json_eq_error⟩⟩
  have hcause : Cause operation config events failure := cause_of_course hcourse
  exact .of_cause hcause

/-- A call that is executed with one retry and rejected twice. -/
theorem Operation.failures_account_rejected :
    let config : Config :=
      { apiUrl := "https://api.test", login := ⟨"user", "secret", "id", "key"⟩ }
    let script : Rehearsal.Script := ⟨[
      ("app", [.token (some "first") (some "again") (some (.after 3600000))]),
      ("*", [.plain 401 "expired"])]⟩
    let world : World Rehearsal.Stage := { outside := ⟨.epoch, []⟩ }
    let operation : Operation := .execute ((ApiCall.get "items").withMaxRetries 1)
    let failure : Failure := .unauthorized "HttpResponse code 401" none
    ((operation.perform config).run.run script.backend world).1 = some (.error failure) ∧
      operation.Accounts config
        ((operation.perform config).run.events script.backend world) failure := by
  intro config script world operation failure
  have hresult : ((operation.perform config).run.run script.backend world).1 =
      some (.error failure) := by
    decide +kernel +zetaReduce
  have hcourse := Program.course_run script.backend (operation.perform config).run world
  rw [hresult] at hcourse
  exact ⟨hresult, (failures_account config).1 operation _ failure hcourse⟩

/-! ## Failures of the configuration -/

section Configuration

variable {config : Config} {events : List Event} {message : String}

theorem Store.Cause.not_canGrant (hcause : Store.Cause config events (.config message)) :
    ¬config.CanGrant := by
  cases hcause with
  | config message hgrant => exact hgrant
  | answer hlast hgrant hcomplaint => cases hcomplaint

theorem Config.rootUrl_ne_error {failure : Failure} (hvalid : config.validate = .ok ()) :
    config.rootUrl ≠ .error failure := by
  obtain ⟨api, hroot, -⟩ := Config.rootUrl_of_validate hvalid
  rw [hroot]
  intro h
  cases h

theorem Delivery.Cause.not_canGrant {call : ApiCall} {retries : Nat}
    (hvalid : config.validate = .ok ())
    (hcause : Delivery.Cause config call retries events (.config message)) :
    ¬config.CanGrant := by
  cases hcause with
  | refused hrefused =>
      have hcheck : (∃ text, Failure.config message = .invalidRequest text) ∨
          config.rootUrl = .error (.config message) := by
        rcases hrefused with htarget | htarget
        · exact ApiCall.target_eq_error htarget
        · exact ApiCall.repeatableTarget_eq_error htarget
      rcases hcheck with ⟨text, htext⟩ | hroot
      · cases htext
      · exact absurd hroot (Config.rootUrl_ne_error hvalid)
  | store hstore => exact hstore.not_canGrant
  | unassembled hassemble =>
      rcases ApiCall.assemble_eq_error hassemble with huser | hrejected
      · rintro ⟨userAgent, hvalue⟩
        rw [hvalue] at huser
        cases huser
      · cases hrejected
  | answer htarget hassemble hlast hverdict hretries =>
      cases Delivery.complaint_of_verdict hverdict

theorem Operation.Cause.not_canGrant {operation : Operation}
    (hvalid : config.validate = .ok ())
    (hcause : Operation.Cause operation config events (.config message)) :
    ¬config.CanGrant := by
  cases hcause with
  | store hstore => exact hstore.not_canGrant
  | call hcall hcause => exact hcause.not_canGrant hvalid

/-- Without a user agent that is a header value, no credential can be obtained. -/
theorem Store.acquire_of_not_canGrant (hgrant : ¬config.CanGrant) :
    ∃ events message,
      (Store.acquire config).run.Course events (some (.error (.config message))) := by
  cases huser : config.userAgentValue with
  | ok userAgent => exact absurd ⟨userAgent, huser⟩ hgrant
  | error failure =>
      obtain ⟨message, rfl⟩ := Config.userAgentValue_eq_error huser
      have hrequest : config.grantRequest Exchange.acquire.endpoint
          (Exchange.acquire.grant config.login) = .error (.config message) := by
        unfold Config.grantRequest
        rw [huser]
        rfl
      have hperform : (Store.perform config .acquire).run.Course []
          (some (.error (.config message))) := by
        rw [Store.perform_run, hrequest]
        exact .done _
      exact ⟨_, message, Call.course_locked.2 ⟨.blank, [], .blank, rfl, hperform⟩⟩

end Configuration

/-- A client was checked when it was built, and no operation of it fails for its configuration from then on,
whatever it is answered, exactly if its user agent is a header value; that is the only
part whose check comes later. -/
theorem Client.config_failures (client : Client) :
    client.config.CanGrant ↔
      ∀ (operation : Operation) (events : List Event) (message : String),
        ¬(operation.perform client.config).run.Course events
          (some (.error (.config message))) := by
  constructor
  · intro hgrant operation events message hcourse
    have hcause := Operation.cause_of_course hcourse
    exact hcause.not_canGrant client.valid hgrant
  · intro hnever
    by_contra hgrant
    obtain ⟨events, message, hcourse⟩ := Store.acquire_of_not_canGrant hgrant
    exact hnever .acquire events message (Call.course_map_error.2 hcourse)

/-- A line feed in the user agent passes the check, and the first grant fails on it. -/
theorem Client.config_failures_lineFeed :
    let client : Client := ⟨
      { apiUrl := "https://api.test", login := ⟨"user", "secret", "id", "key"⟩,
        userAgent := "bad\nagent" },
      by decide +kernel⟩
    let script : Rehearsal.Script := ⟨[
      ("app", [.token (some "first") none (some (.after 3600000))])]⟩
    let world : World Rehearsal.Stage := { outside := ⟨.epoch, []⟩ }
    ((Store.getToken client.config).run.run script.backend world).1 =
      some (.error (.config "Invalid user_agent: failed to parse header value")) := by
  decide +kernel

end BearerClient
