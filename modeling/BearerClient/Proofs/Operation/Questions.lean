import BearerClient.Proofs.Operation.Refusal
import BearerClient.Proofs.Program.Questions

/-!
# What a delivery asks

All that is asked to deliver a call is asked to get a token or to refresh it, except for the call
itself.  That holds of every attempt, since the store alone is asked whatever comes before it and
between two of them.
-/

namespace BearerClient

variable {config : Config} {call : ApiCall} {may : Query → Prop}
  (htoken : (Store.getToken config).run.AsksOnly may)
  (hrefresh : (Store.refresh config).run.AsksOnly may)
  (hsend : ∀ url token request, config.requestUrl call.path = .ok url →
    call.assemble config url token = .ok request → may (.send request))
include htoken hsend

namespace Delivery

variable {url : String} {retriesLeft : Nat}

theorem attempt_asksOnly (hurl : config.requestUrl call.path = .ok url) :
    (attempt config call url retriesLeft).run.AsksOnly may := by
  rw [attempt_run]
  refine htoken.bind fun token => ?_
  cases token with
  | error failure => trivial
  | ok token =>
      simp only [deliver]
      cases hrequest : call.assemble config url token with
      | error failure => trivial
      | ok request => exact ⟨hsend url token request hurl hrequest, fun _ => trivial⟩

theorem dispatch_asksOnly : (dispatch config call).run.AsksOnly may := by
  unfold dispatch
  rw [Call.run_decided_bind]
  cases htarget : call.target config with
  | error failure => trivial
  | ok url =>
      have hurl := ApiCall.requestUrl_of_target htarget
      refine Call.asksOnly_bind (attempt_asksOnly htoken hsend hurl) fun outcome => ?_
      cases outcome <;> trivial

theorem dispatchUnlessCancelled_asksOnly (cancelled : Option Nat) :
    (dispatchUnlessCancelled config call cancelled).run.AsksOnly may := by
  have hdispatch := dispatch_asksOnly htoken hsend
  cases cancelled with
  | none => exact hdispatch
  | some questions => exact (hdispatch.cutOff questions).bind fun _ => trivial

include hrefresh

theorem round_asksOnly (hurl : config.requestUrl call.path = .ok url) {rest : Call Reply}
    (hrest : rest.run.AsksOnly may) :
    (round config call url retriesLeft rest).run.AsksOnly may := by
  refine Call.asksOnly_bind (attempt_asksOnly htoken hsend hurl) fun outcome => ?_
  cases outcome with
  | success reply => trivial
  | fatal failure => trivial
  | retryable details => exact Call.asksOnly_bind hrefresh fun _ => hrest

theorem attempts_asksOnly (hurl : config.requestUrl call.path = .ok url) (attempted : Nat) :
    (attempts config call url retriesLeft attempted).run.AsksOnly may :=
  attempts_induction (motive := fun _ rest => rest.run.AsksOnly may) (fun _ => trivial)
    (round_asksOnly htoken hrefresh hsend hurl trivial)
    (fun _ _ hrest => round_asksOnly htoken hrefresh hsend hurl hrest) retriesLeft attempted

theorem execute_asksOnly : (execute config call).run.AsksOnly may := by
  unfold execute
  rw [Call.run_decided_bind]
  cases htarget : call.repeatableTarget config with
  | error failure => trivial
  | ok url =>
      have hurl := ApiCall.requestUrl_of_repeatableTarget htarget
      exact attempts_asksOnly htoken hrefresh hsend hurl 0

end Delivery

include hrefresh

namespace Client

/-- How often a call may still be sent makes no difference to what is asked. -/
theorem round_asksOnly (remaining : Nat) {rest : Call Reply} (hrest : rest.run.AsksOnly may) :
    (round config call remaining rest).run.AsksOnly may := by
  unfold round
  rw [ExceptT.run_bind_lift]
  refine Program.AsksOnly.bind (Delivery.dispatch_asksOnly htoken hsend) fun result => ?_
  cases result with
  | ok reply => trivial
  | error failure =>
      dsimp only
      split
      · exact Call.asksOnly_bind hrefresh fun _ => hrest
      · trivial

theorem dispatches_asksOnly (remaining : Nat) :
    (dispatches config call remaining).run.AsksOnly may :=
  dispatches_induction (motive := fun _ rest => rest.run.AsksOnly may)
    (round_asksOnly htoken hrefresh hsend 0 trivial)
    (fun _ _ hrest => round_asksOnly htoken hrefresh hsend _ hrest) remaining

theorem send_asksOnly : (send config call).run.AsksOnly may := by
  unfold send
  split
  · exact Delivery.dispatch_asksOnly htoken hsend
  · rename_i copied hcopy
    obtain rfl := ApiCall.eq_of_copy? hcopy
    exact dispatches_asksOnly htoken hrefresh hsend _

end Client

/-- An operation with a call asks what its store asks, and sends the call. -/
theorem Operation.perform_asksOnly {operation : Operation}
    (hoperation : operation.call? = some call) :
    (operation.perform config).run.AsksOnly may := by
  cases operation with
  | execute call =>
      cases hoperation
      exact Call.asksOnly_map (Delivery.execute_asksOnly htoken hrefresh hsend)
  | dispatch call =>
      cases hoperation
      exact Call.asksOnly_map (Delivery.dispatch_asksOnly htoken hsend)
  | cancellable call cancelled =>
      cases hoperation
      exact Call.asksOnly_map (Delivery.dispatchUnlessCancelled_asksOnly htoken hsend cancelled)
  | send call =>
      cases hoperation
      exact Call.asksOnly_map (Client.send_asksOnly htoken hrefresh hsend)
  | _ => cases hoperation

end BearerClient
