import BearerClient.Client
import BearerClient.Proofs.Program.Calls

/-!
# Rounds

Both ways to send a call until it is answered go round by round: the call is
sent, and if its credential is rejected a refresh comes before whatever is left
of the rounds.
-/

namespace BearerClient

namespace ApiCall

variable {call : ApiCall} {config : Config} {url : String}

theorem requestUrl_of_target (htarget : call.target config = .ok url) :
    config.requestUrl call.path = .ok url := by
  obtain ⟨_, -, hurl⟩ := decided_bind_eq_ok.1 htarget
  exact hurl

theorem requestUrl_of_repeatableTarget
    (htarget : call.repeatableTarget config = .ok url) :
    config.requestUrl call.path = .ok url := by
  obtain ⟨_, -, hrest⟩ := decided_bind_eq_ok.1 htarget
  cases hstream : call.body.isStream with
  | true =>
      rw [hstream] at hrest
      cases hrest
  | false =>
      rw [hstream] at hrest
      exact hrest

end ApiCall

namespace Delivery

/-- The outcome of an attempt, from what the transport brings back. -/
def concluded (retriesLeft : Nat) :
    Except TransportFault Wire.Response → Except Failure Outcome
  | .error source => .error (.ofTransport source)
  | .ok response => .ok (response.classify retriesLeft)

/-- What is left of an attempt once there is a token. -/
def deliver (config : Config) (call : ApiCall) (url : String) (retriesLeft : Nat) :
    Except Failure String → Program (Except Failure Outcome)
  | .error failure => .done (.error failure)
  | .ok token =>
    match call.assemble config url token with
    | .error failure => .done (.error failure)
    | .ok request => .ask (.send request) fun answer =>
      .done (concluded retriesLeft answer)

theorem attempt_run (config : Config) (call : ApiCall) (url : String)
    (retriesLeft : Nat) :
    (attempt config call url retriesLeft).run =
      (Store.getToken config).run.bind (deliver config call url retriesLeft) := by
  apply Program.bind_congr
  intro result
  cases result with
  | error failure => rfl
  | ok token =>
      change ((call.assemble config url token : Call _) >>= _).run = _
      rw [Call.run_decided_bind, deliver]
      cases call.assemble config url token with
      | error failure => rfl
      | ok request =>
          apply Program.ask_congr
          intro answer
          cases answer <;> rfl

/-- An attempt, and a refresh before the rest if its credential is rejected. -/
def round (config : Config) (call : ApiCall) (url : String) (retriesLeft : Nat)
    (rest : Call Reply) : Call Reply := do
  match ← attempt config call url retriesLeft with
  | .success reply => return reply
  | .fatal failure => throw failure
  | .retryable _ =>
    Store.refresh config
    rest

variable {config : Config} {call : ApiCall} {url : String} {attempted : Nat}

theorem attempts_out_of_range {retriesLeft : Nat}
    (hrange : attempted + 1 = UInt32.size) :
    attempts config call url retriesLeft attempted = Call.abort := by
  cases retriesLeft <;> rw [attempts, if_pos hrange]

theorem attempts_zero (hrange : attempted + 1 ≠ UInt32.size) :
    attempts config call url 0 attempted =
      round config call url 0 Call.abort := by
  rw [attempts, if_neg hrange]
  rfl

theorem attempts_succ {retriesLeft : Nat}
    (hrange : attempted + 1 ≠ UInt32.size) :
    attempts config call url (retriesLeft + 1) attempted =
      round config call url (retriesLeft + 1)
        (attempts config call url retriesLeft (attempted + 1)) := by
  rw [attempts, if_neg hrange]
  rfl

/-- What holds where a call breaks off, and of a round if it holds of the rounds that
are left, holds of all attempts. -/
theorem attempts_induction {motive : Nat → Call Reply → Prop}
    (habort : ∀ retriesLeft, motive retriesLeft Call.abort)
    (hlast : motive 0 (round config call url 0 Call.abort))
    (hround : ∀ retriesLeft rest, motive retriesLeft rest →
      motive (retriesLeft + 1) (round config call url (retriesLeft + 1) rest))
    (retriesLeft attempted : Nat) :
    motive retriesLeft (attempts config call url retriesLeft attempted) := by
  induction retriesLeft generalizing attempted with
  | zero =>
      by_cases hrange : attempted + 1 = UInt32.size
      · rw [attempts_out_of_range hrange]
        exact habort 0
      · rw [attempts_zero hrange]
        exact hlast
  | succ retriesLeft ih =>
      by_cases hrange : attempted + 1 = UInt32.size
      · rw [attempts_out_of_range hrange]
        exact habort _
      · rw [attempts_succ hrange]
        exact hround _ _ (ih (attempted + 1))

end Delivery

namespace Client

/-- A dispatch, and a refresh before the rest if its credential is rejected. -/
def round (config : Config) (call : ApiCall) (remaining : Nat)
    (rest : Call Reply) : Call Reply := do
  let result ← ExceptT.lift
    (Delivery.dispatch config (call.withMaxRetries (UInt32.ofNat remaining))).run
  match result with
  | .ok reply => return reply
  | .error failure =>
    if failure.isRetryNeeded then
      Store.refresh config
      rest
    else throw failure

variable {config : Config} {call : ApiCall}

theorem dispatches_zero :
    dispatches config call 0 = round config call 0 Call.abort := by
  rw [dispatches]
  rfl

theorem dispatches_succ {remaining : Nat} :
    dispatches config call (remaining + 1) =
      round config call (remaining + 1) (dispatches config call remaining) := by
  rw [dispatches]
  rfl

/-- What holds of a round if it holds of the rounds that are left holds of all
dispatches. -/
theorem dispatches_induction {motive : Nat → Call Reply → Prop}
    (hlast : motive 0 (round config call 0 Call.abort))
    (hround : ∀ remaining rest, motive remaining rest →
      motive (remaining + 1) (round config call (remaining + 1) rest))
    (remaining : Nat) : motive remaining (dispatches config call remaining) := by
  induction remaining with
  | zero =>
      rw [dispatches_zero]
      exact hlast
  | succ remaining ih =>
      rw [dispatches_succ]
      exact hround remaining _ ih

end Client
end BearerClient
