import BearerClient.Proofs.Delivery.Agreement
import BearerClient.Proofs.Delivery.Retry
import BearerClient.Proofs.Program.CutOff
import BearerClient.Proofs.Store.Causes

/-!
# Why calls fail

A call fails before it is sent, because it is refused or because no request can be made
of it; or it fails with the store; or with a complaint about its own answer, which is then
the last one.  That its credential was rejected is such a complaint only once no attempts
are left: before that the call is sent again, or a dispatch leaves it to its caller to do
so.

A round has one call in it, so the rounds before the last one make up for the attempts
that are missing from those that were allowed; the proofs go from round to round in this
way.
-/

namespace BearerClient

namespace Event

/-- The calls among some events, without the grants. -/
def calls (events : List Event) : List Wire.Request :=
  (requests events).filter fun request => request.hasBearer

theorem calls_append (first second : List Event) :
    calls (first ++ second) = calls first ++ calls second := by
  rw [calls, requests_append, List.filter_append, calls, calls]

end Event


namespace Delivery

/-- What can be said of the answer to a call. -/
inductive Complaint : Except TransportFault Wire.Response → Failure → Prop where
  | lost (source : TransportFault) : Complaint (.error source) (.transport none source)
  | unreadable {response : Wire.Response} {source : TransportFault}
      (hbody : response.body = .error source) :
      Complaint (.ok response) (.transport (some response.status) source)
  | unauthorized {response : Wire.Response} {body : Bytes} (message : String)
      (code : Option Int64) (hbody : response.body = .ok body)
      (hstatus : response.status = 401) :
      Complaint (.ok response) (.unauthorized message code)
  | http {response : Wire.Response} {body : Bytes} (message : String)
      (code : Option Int64) (snippet : Option String) (hbody : response.body = .ok body)
      (hfailed : Wire.Response.isSuccess response.status = false)
      (hstatus : response.status ≠ 401) :
      Complaint (.ok response) (.http response.status message code snippet)

theorem complaint_of_verdict {answer : Except TransportFault Wire.Response}
    {failure : Failure} (hverdict : verdict answer = .error failure) :
    Complaint answer failure := by
  unfold verdict at hverdict
  split at hverdict
  case h_1 source =>
    cases hverdict
    exact .lost source
  case h_2 response =>
    split at hverdict
    case h_1 source hbody =>
      cases hverdict
      exact .unreadable hbody
    case h_2 body hbody =>
      dsimp only at hverdict
      split at hverdict
      case isTrue => cases hverdict
      case isFalse hfailed =>
        split at hverdict
        case isTrue hstatus =>
          cases hverdict
          exact .unauthorized _ _ hbody hstatus
        case isFalse hstatus =>
          cases hverdict
          exact .http _ _ _ hbody (eq_false_of_ne_true hfailed) hstatus

/-- Why a call fails that is allowed some retries. -/
inductive Cause (config : Config) (call : ApiCall) (retries : Nat)
    (events : List Event) : Failure → Prop where
  /-- the call was refused before anything else -/
  | refused {failure : Failure}
      (hrefused : call.target config = .error failure ∨
        call.repeatableTarget config = .error failure) :
      Cause config call retries events failure
  | store {failure : Failure} (hstore : Store.Cause config events failure) :
      Cause config call retries events failure
  /-- no request can be made with a token -/
  | unassembled {failure : Failure} {url token : String}
      (hassemble : call.assemble config url token = .error failure) :
      Cause config call retries events failure
  /-- the answer to the call, after which nothing was sent; a rejection only where all
  attempts were used up -/
  | answer {failure : Failure} {url token : String} {request : Wire.Request}
      {answer : Except TransportFault Wire.Response}
      (htarget : config.requestUrl call.path = .ok url)
      (hassemble : call.assemble config url token = .ok request)
      (hlast : Event.last? events = some (request, answer))
      (hverdict : verdict answer = .error failure)
      (hretries : rejects answer = true →
        (Event.calls events).length = retries + 1) :
      Cause config call retries events failure

variable {config : Config} {call : ApiCall} {url : String} {retries : Nat}
  {events : List Event} {failure : Failure}

/-- Calls that were rejected before count as attempts. -/
theorem Cause.after {before : List Event} {attempts : Nat}
    (hbefore : (Event.calls before).length = attempts)
    (hcause : Cause config call retries events failure) :
    Cause config call (retries + attempts) (before ++ events) failure := by
  cases hcause with
  | refused hrefused => exact .refused hrefused
  | store hstore => exact .store (hstore.after before)
  | unassembled hassemble => exact .unassembled hassemble
  | answer htarget hassemble hlast hverdict hretries =>
      refine .answer htarget hassemble (Event.last?_append hlast) hverdict
        fun hrejected => ?_
      rw [Event.calls_append, List.length_append, hretries hrejected, hbefore]
      omega

/-- Events of the store are not calls. -/
theorem calls_eq_nil_of_course {α : Type} {holds : α → Prop} {program : Program α}
    {result : Option α} (hprogram : program.Within (Wire.Request.price 0 1) holds 0)
    (hcourse : program.Course events result) : Event.calls events = [] := by
  have hfree := Nat.eq_zero_of_le_zero (hcourse.requests_le hprogram)
  rw [Event.calls, List.filter_eq_nil_iff]
  intro request hmember hbearer
  have hprice : request.price 0 1 = 0 :=
    List.sum_eq_zero_iff_forall_eq_nat.1 hfree _ (List.mem_map_of_mem hmember)
  rw [Wire.Request.price, hbearer] at hprice
  cases hprice

/-- A delivery ends with the failure of the token, with that of the request, or with
what its answer comes to. -/
theorem deliver_course {β : Type} {tokenResult : Except Failure String}
    {f : Except Failure Outcome → Program β} {result : Option β} :
    ((deliver config call url retries tokenResult).bind f).Course events result ↔
      (∃ failure, tokenResult = .error failure ∧
          (f (.error failure)).Course events result) ∨
        (∃ token failure, tokenResult = .ok token ∧
          call.assemble config url token = .error failure ∧
          (f (.error failure)).Course events result) ∨
        ∃ token request stored answer rest, tokenResult = .ok token ∧
          call.assemble config url token = .ok request ∧
          events = ⟨stored, .send request, answer⟩ :: rest ∧
          (f (concluded retries answer)).Course rest result := by
  cases tokenResult with
  | error failure => simp [deliver, Program.bind]
  | ok token =>
      cases hassemble : call.assemble config url token with
      | error failure => simp [deliver, hassemble, Program.bind]
      | ok request => simp [deliver, hassemble, Program.bind, Program.course_ask]

/-- A request of a call that follows a token is the only call so far. -/
theorem calls_cons {before rest : List Event} {stored : Credential} {token : String}
    {request : Wire.Request} {answer : Except TransportFault Wire.Response}
    (htoken : (Store.getToken config).run.Course before (some (.ok token)))
    (hassemble : call.assemble config url token = .ok request)
    (hrest : Event.calls rest = []) :
    Event.calls (before ++ ⟨stored, .send request, answer⟩ :: rest) = [request] := by
  rw [Event.calls_append, calls_eq_nil_of_course (Store.getToken_within config 0 1) htoken,
    ← List.singleton_append, Event.calls_append, hrest]
  simp [Event.calls, Event.requests, Query.request?,
    ApiCall.hasBearer_of_assemble hassemble]

/-- A round fails for a cause of the call unless what follows it does. -/
theorem Cause.of_round {rest : Call Reply}
    (htarget : config.requestUrl call.path = .ok url)
    (hrest : ∀ left after, retries = left + 1 →
      rest.run.Course after (some (.error failure)) →
        Cause config call left after failure)
    (hcourse : (round config call url retries rest).run.Course events
      (some (.error failure))) :
    Cause config call retries events failure := by
  rw [round_run, Program.course_bind] at hcourse
  rcases hcourse with ⟨-, hresult⟩ | ⟨before, after, tokenResult, rfl, htoken, hcourse⟩
  · cases hresult
  rcases deliver_course.1 hcourse with ⟨fault, rfl, hfault⟩ |
    ⟨token, fault, rfl, hassemble, hfault⟩ |
    ⟨token, request, stored, answer, later, rfl, hassemble, rfl, hlater⟩
  · obtain ⟨rfl, hresult⟩ := Program.course_done.1 hfault
    cases hresult
    rw [List.append_nil]
    exact .store (Store.getToken_cause htoken)
  · cases (Program.course_done.1 hfault).2
    exact .unassembled hassemble
  -- The answer decides whether the round ends with it.
  rw [afterAttempt_concluded] at hlater
  split at hlater
  case isFalse hdecides =>
    obtain ⟨rfl, hresult⟩ := Program.course_done.1 hlater
    refine .answer htarget hassemble (Event.last?_append rfl)
      (Option.some.inj hresult).symm fun hrejected => ?_
    have hretries : retries = 0 :=
      Nat.eq_zero_of_not_pos fun hleft => hdecides ⟨hrejected, hleft⟩
    rw [calls_cons htoken hassemble rfl, hretries]
    rfl
  case isTrue hretried =>
    obtain ⟨left, rfl⟩ := Nat.exists_eq_add_one.2 hretried.2
    rcases Call.course_bind_error.1 hlater with hrefresh |
      ⟨refreshed, last, _, rfl, hrefresh, hlast⟩
    · rw [← List.singleton_append, ← List.append_assoc]
      exact .store ((Store.refresh_cause hrefresh).after _)
    · have hcalls : (Event.calls
          (before ++ ⟨stored, .send request, answer⟩ :: refreshed)).length = 1 := by
        rw [calls_cons htoken hassemble
          (calls_eq_nil_of_course (Store.refresh_within config 0 1) hrefresh)]
        rfl
      have hcause := Cause.after hcalls (hrest left last rfl hlast)
      simpa using hcause

theorem attempts_cause {attempted : Nat}
    (htarget : config.requestUrl call.path = .ok url)
    (hcourse : (attempts config call url retries attempted).run.Course events
      (some (.error failure))) :
    Cause config call retries events failure := by
  have hattempts : ∀ {events}, (attempts config call url retries attempted).run.Course events
      (some (.error failure)) → Cause config call retries events failure := by
    refine attempts_induction (motive := fun retries rest => ∀ {events},
      rest.run.Course events (some (.error failure)) → Cause config call retries events failure)
      ?_ ?_ ?_ retries attempted
    · -- Where the attempts can no longer be counted there is no result.
      intro retries events hcourse
      cases (Program.course_abort.1 hcourse).2
    · exact fun hcourse => Cause.of_round htarget (fun left _ hleft => by omega) hcourse
    · intro retries rest hrest events hcourse
      refine Cause.of_round htarget (fun left after hleft hafter => ?_) hcourse
      cases hleft
      exact hrest hafter
  exact hattempts hcourse

theorem execute_cause
    (hcourse : (execute config call).run.Course events (some (.error failure))) :
    Cause config call (call.retries config).toNat events failure := by
  unfold execute at hcourse
  cases htarget : call.repeatableTarget config with
  | error fault =>
      rw [htarget, Call.run_decided_bind] at hcourse
      cases (Program.course_done.1 hcourse).2
      exact .refused (.inr htarget)
  | ok url =>
      rw [htarget, Call.run_decided_bind] at hcourse
      exact attempts_cause (ApiCall.requestUrl_of_repeatableTarget htarget) hcourse

/-- What a dispatch makes of an answer. -/
theorem reported_concluded {answer : Except TransportFault Wire.Response} :
    (concluded retries answer).bind reported =
      if rejects answer = true ∧ 0 < retries then .error (.retryNeeded 401)
      else verdict answer := by
  cases answer with
  | error source => rfl
  | ok response =>
      obtain ⟨status, headers, body⟩ := response
      cases body with
      | error source =>
          rw [if_neg (by simp [rejects, Except.isOk, Except.toBool])]
          rfl
      | ok body =>
          have hbody : Except.isOk (Except.ok body : Except TransportFault Bytes) = true :=
            rfl
          simp only [concluded, Except.bind, verdict, rejects, Wire.Response.classify,
            Bool.and_eq_true, beq_iff_eq, hbody, and_true]
          by_cases hstatus : status = 401
          · subst hstatus
            have hfailed : Wire.Response.isSuccess 401 = false := by decide
            by_cases hleft : 0 < retries <;> simp [hfailed, hleft, reported]
          · by_cases hsuccess : Wire.Response.isSuccess status = true <;>
              simp [hsuccess, hstatus, reported]

theorem dispatch_run (htarget : call.target config = .ok url) :
    (dispatch config call).run =
      (Store.getToken config).run.bind fun token =>
        (deliver config call url (call.retries config).toNat token).bind fun outcome =>
          .done (outcome.bind reported) := by
  rw [dispatch_eq htarget, Call.run_bind, attempt_run, Program.bind_assoc]
  apply Program.bind_congr
  intro token
  apply Program.bind_congr
  intro outcome
  cases outcome <;> rfl

/-- A dispatch fails on the token, on the request or on its answer, which comes last. -/
theorem dispatch_course (htarget : call.target config = .ok url) :
    (dispatch config call).run.Course events (some (.error failure)) ↔
      (Store.getToken config).run.Course events (some (.error failure)) ∨
        (∃ token, (Store.getToken config).run.Course events (some (.ok token)) ∧
          call.assemble config url token = .error failure) ∨
        ∃ before token request stored answer,
          events = before ++ [⟨stored, .send request, answer⟩] ∧
            (Store.getToken config).run.Course before (some (.ok token)) ∧
            call.assemble config url token = .ok request ∧
            (concluded (call.retries config).toNat answer).bind reported =
              .error failure := by
  rw [dispatch_run htarget, Program.course_bind]
  constructor
  · rintro (⟨-, hresult⟩ | ⟨before, after, tokenResult, rfl, htoken, hrest⟩)
    · cases hresult
    rcases deliver_course.1 hrest with ⟨fault, rfl, hfault⟩ |
      ⟨token, fault, rfl, hassemble, hfault⟩ |
      ⟨token, request, stored, answer, rest, rfl, hassemble, rfl, hanswer⟩
    · obtain ⟨rfl, hresult⟩ := Program.course_done.1 hfault
      cases hresult
      rw [List.append_nil]
      exact .inl htoken
    · obtain ⟨rfl, hresult⟩ := Program.course_done.1 hfault
      cases hresult
      rw [List.append_nil]
      exact .inr (.inl ⟨token, htoken, hassemble⟩)
    · obtain ⟨rfl, hresult⟩ := Program.course_done.1 hanswer
      exact .inr (.inr ⟨before, token, request, stored, answer, rfl, htoken, hassemble,
        (Option.some.inj hresult).symm⟩)
  · rintro (htoken | ⟨token, htoken, hassemble⟩ |
      ⟨before, token, request, stored, answer, rfl, htoken, hassemble, hreported⟩)
    · exact .inr ⟨events, [], .error failure, (List.append_nil _).symm, htoken, .done _⟩
    · refine .inr ⟨events, [], .ok token, (List.append_nil _).symm, htoken, ?_⟩
      exact deliver_course.2 (.inr (.inl ⟨token, failure, rfl, hassemble, .done _⟩))
    · refine .inr ⟨before, _, .ok token, rfl, htoken, ?_⟩
      refine deliver_course.2 (.inr (.inr ⟨token, request, stored, answer, [], rfl,
        hassemble, rfl, ?_⟩))
      rw [hreported]
      exact .done _

/-- The course of a dispatch that ends with a rejection, while there are attempts left. -/
structure Rejected (config : Config) (call : ApiCall) (events : List Event) : Prop where
  retries : 0 < (call.retries config).toNat
  rejected : ∃ url before token request stored answer,
    call.target config = .ok url ∧
      (Store.getToken config).run.Course before (some (.ok token)) ∧
      call.assemble config url token = .ok request ∧
      events = before ++ [⟨stored, .send request, answer⟩] ∧
      rejects answer = true

/-- A dispatch asks for another one exactly where its call was rejected while there were
attempts left. -/
theorem dispatch_retryNeeded {status : UInt16} :
    (dispatch config call).run.Course events (some (.error (.retryNeeded status))) ↔
      status = 401 ∧ Rejected config call events := by
  cases htarget : call.target config with
  | error fault =>
      rw [dispatch_refused htarget]
      constructor
      · intro hcourse
        cases (Call.course_throw.1 hcourse).2
        have hsettled := call.target_settled config
        rw [htarget] at hsettled
        cases hsettled.final
      · rintro ⟨-, -, url, before, token, request, stored, answer, hok, -⟩
        rw [htarget] at hok
        cases hok
  | ok url =>
      rw [dispatch_course htarget]
      constructor
      · rintro (htoken | ⟨token, -, hassemble⟩ |
          ⟨before, token, request, stored, answer, rfl, htoken, hassemble, hreported⟩)
        · cases Store.getToken_cause htoken with
          | answer _ _ hcomplaint => cases hcomplaint
        · have hsettled := call.assemble_settled config url token
          rw [hassemble] at hsettled
          cases hsettled.final
        · rw [reported_concluded] at hreported
          split at hreported
          case isTrue hretried =>
            cases hreported
            exact ⟨rfl, hretried.2, url, before, token, request, stored, answer, htarget,
              htoken, hassemble, rfl, hretried.1⟩
          case isFalse => cases complaint_of_verdict hreported
      · rintro ⟨rfl, hretries, url', before, token, request, stored, answer, hurl, htoken,
          hassemble, rfl, hrejected⟩
        rw [htarget] at hurl
        cases hurl
        refine .inr (.inr ⟨before, token, request, stored, answer, rfl, htoken, hassemble,
          ?_⟩)
        rw [reported_concluded, if_pos ⟨hrejected, hretries⟩]

/-- A dispatch that does not ask for another one fails for a cause of the call. -/
theorem dispatch_cause
    (hcourse : (dispatch config call).run.Course events (some (.error failure))) :
    failure = .retryNeeded 401 ∨
      Cause config call (call.retries config).toNat events failure := by
  cases htarget : call.target config with
  | error fault =>
      rw [dispatch_refused htarget] at hcourse
      cases (Call.course_throw.1 hcourse).2
      exact .inr (.refused (.inl htarget))
  | ok url =>
      rcases (dispatch_course htarget).1 hcourse with htoken | ⟨token, -, hassemble⟩ |
        ⟨before, token, request, stored, answer, rfl, htoken, hassemble, hreported⟩
      · exact .inr (.store (Store.getToken_cause htoken))
      · exact .inr (.unassembled hassemble)
      rw [reported_concluded] at hreported
      split at hreported
      case isTrue =>
        cases hreported
        exact .inl rfl
      case isFalse hdecides =>
        refine .inr (.answer (ApiCall.requestUrl_of_target htarget) hassemble
          (Event.last?_append rfl) hreported fun hrejected => ?_)
        have hretries : (call.retries config).toNat = 0 :=
          Nat.eq_zero_of_not_pos fun hleft => hdecides ⟨hrejected, hleft⟩
        rw [calls_cons htoken hassemble rfl, hretries]
        rfl

theorem dispatchUnlessCancelled_course {cancelled : Option Nat}
    (hcourse : (dispatchUnlessCancelled config call cancelled).run.Course events
      (some (.error failure))) :
    (failure = .cancelled ∧ cancelled ≠ none) ∨
      (dispatch config call).run.Course events (some (.error failure)) := by
  cases cancelled with
  | none => exact .inr hcourse
  | some questions =>
      rcases Program.course_bind.1 hcourse with ⟨-, hresult⟩ |
        ⟨before, after, result, rfl, hbefore, hafter⟩
      · cases hresult
      obtain ⟨rfl, hresult⟩ := Program.course_done.1 hafter
      rw [List.append_nil]
      cases result with
      | none =>
          cases hresult
          exact .inl ⟨rfl, by simp⟩
      | some result =>
          rw [Option.getD_some] at hresult
          rw [hresult]
          exact .inr hbefore.of_cutOff

/-- The causes of a call do not depend on the retries that it asks for itself. -/
theorem Cause.of_withMaxRetries {asked : UInt32}
    (hcause : Cause config (call.withMaxRetries asked) retries events failure) :
    Cause config call retries events failure := by
  cases hcause with
  | refused hrefused => exact .refused hrefused
  | store hstore => exact .store hstore
  | unassembled hassemble => exact .unassembled hassemble
  | answer htarget hassemble hlast hverdict hretries =>
      exact .answer htarget hassemble hlast hverdict hretries

end Delivery

namespace Client

open Delivery (Cause)

variable {config : Config} {call : ApiCall} {url : String} {events : List Event}
  {failure : Failure}

theorem dispatches_cause {remaining : Nat} (hremaining : remaining < UInt32.size)
    (htarget : call.target config = .ok url)
    (hcourse : (dispatches config call remaining).run.Course events
      (some (.error failure))) :
    Cause config call remaining events failure := by
  have hurl := ApiCall.requestUrl_of_target htarget
  induction remaining generalizing events with
  | zero =>
      rw [dispatches_zero, round_eq htarget hremaining] at hcourse
      exact Cause.of_round hurl (fun left _ hleft => by omega) hcourse
  | succ remaining ih =>
      rw [dispatches_succ, round_eq htarget hremaining] at hcourse
      refine Cause.of_round hurl (fun left after hleft hafter => ?_) hcourse
      cases hleft
      exact ih (by omega) hafter

/-- The retries of a call that is sent: a stream has none. -/
def sendRetries (config : Config) (call : ApiCall) : Nat :=
  if call.body.isStream then 0 else (call.retries config).toNat

theorem send_cause
    (hcourse : (send config call).run.Course events (some (.error failure))) :
    Cause config call (sendRetries config call) events failure := by
  unfold send at hcourse
  cases hstream : call.body.isStream with
  | true =>
      rw [ApiCall.copy?_stream hstream] at hcourse
      rw [sendRetries, hstream, if_pos rfl]
      rcases Delivery.dispatch_cause hcourse with rfl | hcause
      · exact absurd (Delivery.dispatch_retryNeeded.1 hcourse).2.retries (Nat.lt_irrefl 0)
      · exact hcause.of_withMaxRetries
  | false =>
      rw [ApiCall.copy?_eq hstream] at hcourse
      rw [sendRetries, hstream, if_neg Bool.false_ne_true]
      dsimp only at hcourse
      cases htarget : call.target config with
      | error fault =>
          rw [dispatches_refused htarget] at hcourse
          cases (Call.course_throw.1 hcourse).2
          exact .refused (.inl htarget)
      | ok url =>
          exact dispatches_cause (call.retries config).toNat_lt htarget hcourse

end Client
end BearerClient
