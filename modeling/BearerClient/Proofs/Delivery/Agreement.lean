import BearerClient.Proofs.Delivery.Budget
import BearerClient.Rehearsal.Script

/-!
# Executing and sending agree

A call whose body can be sent more than once is executed or sent, and the two
are one program.  They agree round by round: a dispatch with some attempts left
reports a rejection exactly when an attempt has one to report, and no other
failure looks like such a report.

A stream is never executed.  It is sent once, with nothing after its dispatch.
-/

namespace BearerClient

namespace ApiCall

variable {call : ApiCall} {config : Config}

theorem copy?_eq (hbody : call.body.isStream = false) : call.copy? = some call := by
  obtain ⟨method, path, headers, body⟩ := call
  cases body with
  | stream chunks => cases hbody
  | _ => rfl

theorem copy?_stream (hbody : call.body.isStream = true) : call.copy? = none := by
  obtain ⟨method, path, headers, body⟩ := call
  cases body with
  | stream chunks => rfl
  | _ => cases hbody

theorem target_withMaxRetries (retries : UInt32) :
    (call.withMaxRetries retries).target config = call.target config := rfl

theorem repeatableTarget_eq (hbody : call.body.isStream = false) :
    call.repeatableTarget config = call.target config := by
  unfold repeatableTarget target
  rw [hbody]
  rfl

theorem repeatableTarget_stream (hbody : call.body.isStream = true) :
    call.repeatableTarget config =
      call.validate.bind fun _ => .error streamRefused := by
  unfold repeatableTarget
  rw [hbody]
  rfl

end ApiCall

namespace Delivery

variable {config : Config} {call : ApiCall} {url : String} {failure : Failure}

/-- What a dispatch makes of the outcome of its attempt. -/
def reported : Outcome → Except Failure Reply
  | .success reply => .ok reply
  | .fatal failure => .error failure
  | .retryable _ => .error (.retryNeeded 401)

theorem dispatch_eq (htarget : call.target config = .ok url) :
    dispatch config call =
      attempt config call url (call.retries config).toNat >>= fun outcome =>
        (reported outcome : Call Reply) := by
  unfold dispatch
  rw [htarget]
  refine congrArg (attempt config call url _ >>= ·) (funext fun outcome => ?_)
  cases outcome <;> rfl

theorem dispatch_refused (htarget : call.target config = .error failure) :
    dispatch config call = throw failure := by
  unfold dispatch
  rw [htarget]
  rfl

/-- A dispatch without attempts left ends, and does not ask for another one. -/
theorem dispatch_within {grants calls : Nat}
    (hretries : (call.retries config).toNat = 0) :
    (dispatch config call).run.Within (Wire.Request.price grants calls)
      (Call.Settled fun _ => True) (grants + calls) := by
  cases htarget : call.target config with
  | error failure =>
      have hsettled := call.target_settled config
      rw [htarget] at hsettled
      rw [dispatch_refused htarget]
      exact Program.within_done.2 (.error hsettled.final)
  | ok url =>
      rw [dispatch_eq htarget, hretries]
      refine Call.within_bind (attempt_within call url 0)
        (fun outcome hconcludes => ?_) (Nat.le_of_eq (Nat.add_zero _))
      cases outcome with
      | success reply => exact Call.within_decided (.ok trivial)
      | fatal failure => exact Call.within_decided (.error hconcludes)
      | retryable details => exact absurd hconcludes (Nat.lt_irrefl 0)

end Delivery

namespace Client

variable {config : Config} {call : ApiCall} {url : String} {failure : Failure}

/-- What follows a dispatch. -/
def afterDispatch (config : Config) (rest : Call Reply) :
    Except Failure Reply → Call Reply
  | .ok reply => pure reply
  | .error failure =>
    if failure.isRetryNeeded then
      Store.refresh config >>= fun _ => rest
    else throw failure

theorem round_run (remaining : Nat) (rest : Call Reply) :
    (round config call remaining rest).run =
      (Delivery.dispatch config
        (call.withMaxRetries (UInt32.ofNat remaining))).run.bind fun result =>
          (afterDispatch config rest result).run := by
  apply (ExceptT.run_bind_lift _ _).trans
  apply Program.bind_congr
  intro result
  cases result <;> rfl

theorem afterDispatch_final {rest : Call Reply}
    (hfinal : failure.isRetryNeeded = false) :
    (afterDispatch config rest (.error failure)).run = .done (.error failure) := by
  rw [afterDispatch, hfinal, if_neg Bool.false_ne_true]
  rfl

theorem round_refused (htarget : call.target config = .error failure)
    (remaining : Nat) (rest : Call Reply) :
    round config call remaining rest = throw failure := by
  have hfinal : failure.isRetryNeeded = false := by
    have hsettled := call.target_settled config
    rw [htarget] at hsettled
    exact hsettled.final
  apply ExceptT.ext
  rw [round_run, Delivery.dispatch_refused
    ((ApiCall.target_withMaxRetries _).trans htarget)]
  exact afterDispatch_final hfinal

theorem round_eq (htarget : call.target config = .ok url) {remaining : Nat}
    (hremaining : remaining < UInt32.size) (rest : Call Reply) :
    round config call remaining rest =
      Delivery.round config call url remaining rest := by
  have hretries : ((call.withMaxRetries (UInt32.ofNat remaining)).retries
      config).toNat = remaining := UInt32.toNat_ofNat_of_lt' hremaining
  have hdispatch : Delivery.dispatch config
        (call.withMaxRetries (UInt32.ofNat remaining)) =
      Delivery.attempt config call url remaining >>= fun outcome =>
        (Delivery.reported outcome : Call Reply) := by
    rw [Delivery.dispatch_eq ((ApiCall.target_withMaxRetries _).trans htarget),
      hretries]
    rfl
  have hattempt : (Delivery.attempt config call url remaining).run.Within
      (Wire.Request.price 0 0) (Call.Settled (Delivery.Concludes remaining)) 0 :=
    Delivery.attempt_within call url remaining
  apply ExceptT.ext
  rw [round_run, hdispatch, Call.run_bind, Program.bind_assoc, Delivery.round,
    Call.run_bind]
  -- Both sides make the same attempt, so only results that it can have matter:
  -- a failure that asked for another dispatch would tell the two apart.
  apply hattempt.bind_congr
  intro result hresult
  cases hresult with
  | error hfinal => exact afterDispatch_final hfinal
  | @ok outcome hconcludes =>
      cases outcome with
      | success reply => rfl
      | fatal failure => exact afterDispatch_final hconcludes
      | retryable details => rfl

/-- The dispatches of a call are its attempts, while attempts have a number. -/
theorem dispatches_eq (htarget : call.target config = .ok url)
    {remaining attempted : Nat}
    (hrange : remaining + attempted + 1 < UInt32.size) :
    dispatches config call remaining =
      Delivery.attempts config call url remaining attempted := by
  -- The attempts made only count up, in step with the dispatches that are left.
  induction remaining generalizing attempted with
  | zero =>
      rw [dispatches_zero, Delivery.attempts_zero (by omega)]
      exact round_eq htarget (by omega) _
  | succ remaining ih =>
      have hrest : dispatches config call remaining =
          Delivery.attempts config call url remaining (attempted + 1) :=
        ih (by omega)
      rw [dispatches_succ, Delivery.attempts_succ (by omega), hrest]
      exact round_eq htarget (by omega) _

theorem dispatches_refused (htarget : call.target config = .error failure)
    (remaining : Nat) :
    dispatches config call remaining = throw failure :=
  dispatches_induction (motive := fun _ rest => rest = throw failure)
    (round_refused htarget 0 _) (fun _ rest _ => round_refused htarget _ rest) remaining

/-- A call that can be repeated is sent as it is executed. -/
theorem send_eq_execute (hbody : call.body.isStream = false)
    (hrange : (call.retries config).toNat + 1 < UInt32.size) :
    send config call = Delivery.execute config call := by
  unfold send Delivery.execute
  rw [ApiCall.copy?_eq hbody, ApiCall.repeatableTarget_eq hbody]
  cases htarget : call.target config with
  | error failure => exact dispatches_refused htarget _
  | ok url => exact dispatches_eq htarget hrange

end Client

namespace Client

variable {σ : Type}

/-- What is asked when a stream is sent: a token first, if the call is not
refused, and one dispatch last, if there is a token to go with it. -/
structure SendsOnce (config : Config) (backend : Backend σ) (world : World σ)
    (call : ApiCall) (asked last : List Event) : Prop where
  events : (send config call).run.events backend world = asked ++ last
  token : asked = [] ∨
    asked = (Store.getToken config).run.events backend world
  grants : ∀ request ∈ Event.requests asked, request.hasBearer = false
  dispatch : last = [] ∨ ∃ event request, last = [event] ∧
    event.query = .send request ∧ request.hasBearer = true
  ends : ∃ result final,
    (send config call).run.run backend world = (some result, final) ∧
      ∀ failure, result = .error failure → failure.isRetryNeeded = false

variable (backend : Backend σ) (world : World σ) {config : Config}

/-- The last question of a delivery sends the call, and all others come before. -/
theorem events_deliver (call : ApiCall) (url : String) (retriesLeft : Nat)
    (result : Except Failure String) :
    (Delivery.deliver config call url retriesLeft result).events backend world = [] ∨
      ∃ event request,
        (Delivery.deliver config call url retriesLeft result).events backend world =
          [event] ∧
        event.query = .send request ∧ request.hasBearer = true := by
  cases result with
  | error failure => exact .inl rfl
  | ok token =>
      simp only [Delivery.deliver]
      cases hrequest : call.assemble config url token with
      | error failure => exact .inl rfl
      | ok request =>
          exact .inr ⟨⟨world.credential, .send request, _⟩, request, rfl, rfl,
            ApiCall.hasBearer_of_assemble hrequest⟩

theorem events_dispatch {call : ApiCall} {url : String}
    (htarget : call.target config = .ok url) :
    (Delivery.dispatch config call).run.events backend world =
      (Store.getToken config).run.events backend world ++
        Program.eventsAfter backend
          (Delivery.deliver config call url (call.retries config).toNat)
          ((Store.getToken config).run.run backend world) := by
  have hreported : ∀ ended, Program.eventsAfter backend
      (ExceptT.bindCont fun outcome => (Delivery.reported outcome : Call Reply))
      ended = [] := by
    rintro ⟨_ | _ | outcome, ended⟩ <;> rfl
  rw [Delivery.dispatch_eq htarget, Call.run_bind, Program.events_bind, hreported,
    List.append_nil, Delivery.attempt_run, Program.events_bind]

theorem sendsOnce (config : Config) {call : ApiCall} (hbody : call.body.isStream = true) :
    ∃ asked last, SendsOnce config backend world call asked last := by
  have hsend : send config call =
      Delivery.dispatch config (call.withMaxRetries 0) := by
    unfold send
    rw [ApiCall.copy?_stream hbody]
  have hends : ∃ result final,
      (send config call).run.run backend world = (some result, final) ∧
        ∀ failure, result = .error failure → failure.isRetryNeeded = false := by
    have hwithin : (Delivery.dispatch config (call.withMaxRetries 0)).run.Within
        (Wire.Request.price 0 0) (Call.Settled fun _ => True) 0 :=
      Delivery.dispatch_within rfl
    obtain ⟨result, final, hrun, hsettled⟩ := hwithin.run backend world
    rw [← hsend] at hrun
    refine ⟨result, final, hrun, fun failure hfailure => ?_⟩
    rw [hfailure] at hsettled
    exact hsettled.final
  cases htarget : call.target config with
  | error failure =>
      refine ⟨[], [], ?_, .inl rfl, by simp, .inl rfl, hends⟩
      rw [hsend, Delivery.dispatch_refused
        ((ApiCall.target_withMaxRetries _).trans htarget)]
      rfl
  | ok url =>
      have hevents := events_dispatch backend world
        ((ApiCall.target_withMaxRetries 0).trans htarget)
      rw [← hsend] at hevents
      refine ⟨_, _, hevents, .inr rfl,
        (Store.getToken_within config 0 1).grants backend world, ?_, hends⟩
      obtain ⟨_ | result, ended⟩ := (Store.getToken config).run.run backend world
      · exact .inl rfl
      · exact events_deliver backend ended call url _ result

end Client

/-- Executing and sending a call agree, unless its body is a stream.  A stream is
refused where it would be executed, and sent once otherwise. -/
theorem Client.execute_agrees_send {σ : Type} (client : Client)
    (backend : Backend σ) (world : World σ) (call : ApiCall) :
    (call.body.isStream = false →
      (call.retries client.config).toNat + 1 < UInt32.size →
        ∃ result final,
          (Delivery.execute client.config call).run.run backend world =
              (some result, final) ∧
            (send client.config call).run.run backend world =
              (some result, final)) ∧
      (call.body.isStream = true →
        (Delivery.execute client.config call).run.run backend world =
            (some (call.validate.bind fun _ => .error ApiCall.streamRefused), world) ∧
          ∃ asked last,
            SendsOnce client.config backend world call asked last) := by
  refine ⟨fun hbody hrange => ?_, fun hbody => ⟨?_, ?_⟩⟩
  · have hwithin : (Delivery.execute client.config call).run.Within
        (Wire.Request.price 0 0) (Call.Settled fun _ => True) _ :=
      Delivery.execute_within hrange
    obtain ⟨result, final, hrun, -⟩ := hwithin.run backend world
    rw [send_eq_execute hbody hrange]
    exact ⟨result, final, hrun, hrun⟩
  · unfold Delivery.execute
    rw [ApiCall.repeatableTarget_stream hbody]
    cases call.validate <;> rfl
  · exact sendsOnce backend world client.config hbody

/-- A call that is rejected until its attempts are used up. -/
theorem Client.execute_agrees_send_rejected :
    let client : Client := ⟨
      { apiUrl := "http://127.0.0.1", login := ⟨"user", "secret", "id", "key"⟩ },
      by decide +kernel⟩
    let script : Rehearsal.Script := ⟨[
      ("app", [.token (some "first") (some "again") (some (.after 3600000))]),
      ("*", [.plain 401 "expired"])]⟩
    let world : World Rehearsal.Stage := { outside := ⟨.epoch, []⟩ }
    let call := (ApiCall.post "items").text "content"
    call.body.isStream = false ∧
      (call.retries client.config).toNat + 1 < UInt32.size ∧
        ∃ result final,
          (Delivery.execute client.config call).run.run script.backend world =
              (some result, final) ∧
            (send client.config call).run.run script.backend world =
              (some result, final) := by
  intro client script world call
  have hbody : call.body.isStream = false := rfl
  have hrange : (call.retries client.config).toNat + 1 < UInt32.size := by decide
  have hagrees := execute_agrees_send client script.backend world call
  clear_value client script world call
  exact ⟨hbody, hrange, hagrees.1 hbody hrange⟩

end BearerClient
