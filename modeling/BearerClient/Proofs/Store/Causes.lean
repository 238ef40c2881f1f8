import BearerClient.Proofs.Operation.Origin
import BearerClient.Proofs.Program.Course

/-!
# Why the store fails

An operation of the store sends one grant at most.  It fails because no grant can be
built, or with a complaint about the answer to the one that it sent: that it was lost,
that its body was, that the login was rejected, or anything else that the endpoint
reports or leaves out.

Each lemma takes the course of one part of an operation, at whose end there is a failure,
to the cause of that failure.
-/

namespace BearerClient


/-- What can be said of the answer to a grant. -/
inductive Store.Complaint : Except TransportFault Wire.Response → Failure → Prop where
  | lost (source : TransportFault) : Complaint (.error source) (.transport none source)
  | unreadable {response : Wire.Response} {source : TransportFault}
      (hbody : response.body = .error source) :
      Complaint (.ok response) (.transport (some response.status) source)
  | unauthorized {response : Wire.Response} {body : Bytes} (message : String)
      (code : Option Int64) (hbody : response.body = .ok body)
      (hstatus : response.status = 401) :
      Complaint (.ok response) (.unauthorized message code)
  | authentication {response : Wire.Response} {body : Bytes} (status : Option UInt16)
      (message : String) (code : Option Int64) (hbody : response.body = .ok body) :
      Complaint (.ok response) (.authentication status message code)

/-- Why an operation of the store fails. -/
inductive Store.Cause (config : Config) (events : List Event) : Failure → Prop where
  /-- no grant can be built -/
  | config (message : String) (hgrant : ¬config.CanGrant) :
      Cause config events (.config message)
  /-- the answer to a grant, after which nothing was sent -/
  | answer {request : Wire.Request} {answer : Except TransportFault Wire.Response}
      {failure : Failure} (hlast : Event.last? events = some (request, answer))
      (hgrant : request.IsGrant config) (hcomplaint : Complaint answer failure) :
      Cause config events failure

namespace Store

variable {config : Config} {events : List Event} {failure : Failure}

theorem Cause.mono {events' : List Event} (hcause : Cause config events failure)
    (hlast : ∀ entry, Event.last? events = some entry → Event.last? events' = some entry) :
    Cause config events' failure := by
  cases hcause with
  | config message hgrant => exact .config message hgrant
  | answer hanswer hgrant hcomplaint => exact .answer (hlast _ hanswer) hgrant hcomplaint

theorem Cause.after (before : List Event) (hcause : Cause config events failure) :
    Cause config (before ++ events) failure :=
  hcause.mono fun _ => Event.last?_append

/-- A call that is made under the lock fails for its own causes. -/
theorem Cause.of_locked {α : Type} {call : Call α}
    (hcall : ∀ inner, call.run.Course inner (some (.error failure)) →
      Cause config inner failure)
    (hcourse : (Call.locked call).run.Course events (some (.error failure))) :
    Cause config events failure := by
  obtain ⟨first, inner, last, rfl, hinner⟩ := Call.course_locked.1 hcourse
  have hcause : Cause config ([⟨first, .lock, ()⟩] ++ inner) failure :=
    (hcall inner hinner).after _
  exact hcause.mono fun entry hentry => by
    rwa [← List.singleton_append, Event.last?_append_of_transcript rfl]

theorem cause_of_grantRequest {endpoint : Endpoint} {grant : Json.Value}
    (hrequest : config.grantRequest endpoint grant = .error failure) :
    Cause config events failure := by
  have hgrant : ¬config.CanGrant := by
    intro hgrant
    obtain ⟨request, hbuilt⟩ := hgrant.grantRequest endpoint grant
    rw [hbuilt] at hrequest
    cases hrequest
  unfold Config.grantRequest Config.userAgentValue at hrequest
  split at hrequest
  · cases hrequest
  · cases hrequest
    exact .config _ hgrant

theorem complaint_of_classifyCredential {response : Wire.Response}
    (hfails : response.classifyCredential = .error failure) :
    Complaint (.ok response) failure := by
  unfold Wire.Response.classifyCredential at hfails
  split at hfails
  case h_1 source hbody =>
    cases hfails
    exact .unreadable hbody
  case h_2 body hbody =>
    split at hfails
    case isTrue => cases hfails
    case isFalse =>
      dsimp only at hfails
      split at hfails
      case isTrue hstatus =>
        cases hfails
        exact .unauthorized _ _ hbody hstatus
      case isFalse =>
        cases hfails
        exact .authentication _ _ _ hbody

theorem readable_of_classifyCredential {response : Wire.Response} {reply : Reply}
    (hread : response.classifyCredential = .ok reply) :
    ∃ body, response.body = .ok body := by
  unfold Wire.Response.classifyCredential at hread
  split at hread
  case h_1 => cases hread
  case h_2 body hbody => exact ⟨body, hbody⟩

/-- An answer whose token cannot be used is complained about, as well as one that has
none. -/
theorem complaint_of_answer {endpoint : Endpoint}
    {answer : Except TransportFault Wire.Response}
    (hfails : received endpoint answer = .error failure ∨
      ∃ token now, received endpoint answer = .ok token ∧
        Credential.ofAnswer token now = .error failure) :
    Complaint answer failure := by
  cases answer with
  | error source =>
      rcases hfails with hfails | ⟨token, now, hreceived, -⟩
      · cases hfails
        exact .lost source
      · cases hreceived
  | ok response =>
      simp only [received] at hfails
      cases hclass : response.classifyCredential with
      | error fault =>
          rw [hclass] at hfails
          rcases hfails with hfails | ⟨token, now, hreceived, -⟩
          · cases hfails
            exact complaint_of_classifyCredential hclass
          · cases hreceived
      | ok reply =>
          obtain ⟨body, hbody⟩ := readable_of_classifyCredential hclass
          rw [hclass] at hfails
          simp only [Except.bind, readAnswer, malformed, Credential.ofAnswer] at hfails
          rcases hfails with hfails | ⟨token, now, -, hfails⟩
          · split at hfails
            · cases hfails
            · cases hfails
              exact .authentication _ _ _ hbody
          · split at hfails
            · cases hfails
              exact .authentication _ _ _ hbody
            · split at hfails
              · cases hfails
                exact .authentication _ _ _ hbody
              · cases hfails

theorem complaint_of_revoked {answer : Except TransportFault Wire.Response}
    (hfails : revoked answer = .error failure) : Complaint answer failure := by
  cases answer with
  | error source =>
      cases hfails
      exact .lost source
  | ok response =>
      rw [revoked] at hfails
      cases hclass : response.classifyCredential with
      | error fault =>
          rw [hclass] at hfails
          cases hfails
          exact complaint_of_classifyCredential hclass
      | ok reply =>
          rw [hclass] at hfails
          cases hfails

/-- What is left of an exchange fails on its answer, and sends nothing. -/
theorem settle_failure {received : Except Failure TokenAnswer}
    (hcourse : (settle received).Course events (some (.error failure))) :
    Event.transcript events = [] ∧ (received = .error failure ∨
      ∃ token now, received = .ok token ∧
        Credential.ofAnswer token now = .error failure) := by
  cases received with
  | error fault =>
      obtain ⟨rfl, hresult⟩ := Program.course_done.1 hcourse
      cases hresult
      exact ⟨rfl, .inl rfl⟩
  | ok token =>
      obtain ⟨stored, now, rest, rfl, hrest⟩ := Program.course_ask.1 hcourse
      cases hissued : Credential.ofAnswer token now with
      | error fault =>
          rw [hissued] at hrest
          obtain ⟨rfl, hresult⟩ := Program.course_done.1 hrest
          cases hresult
          exact ⟨rfl, .inr ⟨token, now, rfl, hissued⟩⟩
      | ok credential =>
          rw [hissued] at hrest
          obtain ⟨_, _, _, rfl, hdone⟩ := Program.course_ask.1 hrest
          cases (Program.course_done.1 hdone).2

theorem perform_cause {exchange : Exchange}
    (hcourse : (perform config exchange).run.Course events (some (.error failure))) :
    Cause config events failure := by
  rw [perform_run] at hcourse
  cases hrequest : config.grantRequest exchange.endpoint
      (exchange.grant config.login) with
  | error fault =>
      rw [hrequest] at hcourse
      obtain ⟨rfl, hresult⟩ := Program.course_done.1 hcourse
      cases hresult
      exact cause_of_grantRequest hrequest
  | ok request =>
      rw [hrequest] at hcourse
      obtain ⟨stored, answer, rest, rfl, hrest⟩ := Program.course_ask.1 hcourse
      obtain ⟨hsilent, hfails⟩ := settle_failure hrest
      have hlast : Event.last? (⟨stored, .send request, answer⟩ :: rest) =
          some (request, answer) := by
        rw [← List.singleton_append, Event.last?_append_of_transcript hsilent]
        rfl
      have hcomplaint : Complaint answer failure := complaint_of_answer hfails
      exact .answer hlast ⟨exchange.endpoint, _, hrequest⟩ hcomplaint

theorem performAny_cause {exchange : Option Exchange}
    (hcourse : (performAny config exchange).run.Course events (some (.error failure))) :
    Cause config events failure := by
  cases exchange with
  | none => cases (Call.course_ok.1 hcourse).2
  | some exchange => exact perform_cause hcourse

/-- A decision does not fail. -/
theorem not_course_decision {due : Credential → Instant → Bool} :
    ¬(decision due).Course events (some (.error failure)) := by
  intro hcourse
  obtain ⟨_, credential, rest, -, hrest⟩ := Program.course_ask.1 hcourse
  split at hrest
  · cases (Program.course_done.1 hrest).2
  · obtain ⟨_, now, _, -, hdone⟩ := Program.course_ask.1 hrest
    cases (Program.course_done.1 hdone).2

theorem getToken_cause
    (hcourse : (getToken config).run.Course events (some (.error failure))) :
    Cause config events failure := by
  refine Cause.of_locked (fun inner hinner => ?_) hcourse
  rcases Call.course_bind_error.1 hinner with hdecision | ⟨_, _, exchange, rfl, -, hrest⟩
  · rw [exchangeForToken_run] at hdecision
    exact (not_course_decision hdecision).elim
  rcases Call.course_bind_error.1 hrest with hperform | ⟨_, _, _, rfl, -, hlook⟩
  · exact (performAny_cause hperform).after _
  · obtain ⟨_, _, _, -, hdone⟩ := Program.course_ask.1 hlook
    cases (Program.course_done.1 hdone).2

theorem refresh_cause
    (hcourse : (refresh config).run.Course events (some (.error failure))) :
    Cause config events failure := by
  refine Cause.of_locked (fun inner hinner => ?_) hcourse
  rcases Call.course_bind_error.1 hinner with hdecision | ⟨_, _, exchange, rfl, -, hrest⟩
  · rw [exchangeForRefresh_run] at hdecision
    exact (not_course_decision hdecision).elim
  · exact (performAny_cause hrest).after _

theorem acquire_cause
    (hcourse : (acquire config).run.Course events (some (.error failure))) :
    Cause config events failure :=
  Cause.of_locked (fun _ => perform_cause) hcourse

theorem revoke_cause
    (hcourse : (revoke config).run.Course events (some (.error failure))) :
    Cause config events failure := by
  rw [revoke_run] at hcourse
  obtain ⟨_, _, _, rfl, hlook⟩ := Program.course_ask.1 hcourse
  obtain ⟨_, credential, _, rfl, hrest⟩ := Program.course_ask.1 hlook
  split at hrest
  · obtain ⟨_, _, _, rfl, hunlock⟩ := Program.course_ask.1 hrest
    obtain ⟨_, _, _, rfl, hdone⟩ := Program.course_ask.1 hunlock
    cases (Program.course_done.1 hdone).2
  · split at hrest
    case h_1 fault hrequest =>
      obtain ⟨_, _, _, rfl, hdone⟩ := Program.course_ask.1 hrest
      cases (Program.course_done.1 hdone).2
      exact cause_of_grantRequest hrequest
    case h_2 request hrequest =>
      obtain ⟨_, answer, _, rfl, hclear⟩ := Program.course_ask.1 hrest
      obtain ⟨_, _, _, rfl, hunlock⟩ := Program.course_ask.1 hclear
      obtain ⟨_, _, _, rfl, hdone⟩ := Program.course_ask.1 hunlock
      obtain ⟨rfl, hresult⟩ := Program.course_done.1 hdone
      exact .answer rfl ⟨.revoke, _, hrequest⟩
        (complaint_of_revoked (Option.some.inj hresult).symm)

end Store

end BearerClient
