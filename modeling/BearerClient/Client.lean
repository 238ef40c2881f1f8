import BearerClient.Delivery

/-!
# The client

A client has a configuration that was checked when it was built, and offers the operations of the
store and of delivery together with calls for the usual methods that send and expect JSON.
-/

namespace BearerClient

/-- A client has nothing but a configuration that is in order. -/
structure Client where
  config : Config
  valid : config.validate = .ok ()

namespace Client

def noConfig : Failure := .config "GraphClient requires a config"

/-- A client with a configuration, which has to be there and in order. -/
def build : Option Config → Except Failure Client
  | none => .error noConfig
  | some config =>
    match h : config.validate with
    | .ok () => .ok ⟨config, h⟩
    | .error failure => .error failure

/-! ## Sending -/

/-- Dispatches a call, with a refresh before each further dispatch, as long as its credential is
rejected and it has attempts left.  A dispatch without attempts left reports no such rejection. -/
def dispatches (config : Config) (call : ApiCall) (remaining : Nat) : Call Reply := do
  let result ← ExceptT.lift
    (Delivery.dispatch config (call.withMaxRetries (UInt32.ofNat remaining))).run
  match result with
  | .ok reply => return reply
  | .error failure =>
    if failure.isRetryNeeded then
      Store.refresh config
      match remaining with
      | 0 => Call.abort
      | remaining + 1 => dispatches config call remaining
    else throw failure

/-- Sends a call, step by step, until its credential is accepted or its attempts are used up.  A
stream is sent once. -/
def send (config : Config) (call : ApiCall) : Call Reply :=
  match call.copy? with
  | none => Delivery.dispatch config (call.withMaxRetries 0)
  | some call => dispatches config call (call.retries config).toNat

/-- The client as it is shown. -/
def text (config : Config) : String :=
  Text.showRecord "GraphClient" [("pipeline", Delivery.text config)] false

end Client

/-! ## Operations -/

/-- What can be asked of a client. -/
inductive Operation where
  | getToken
  | refresh
  | acquire
  | revoke
  /-- send a call until it is answered -/
  | execute (call : ApiCall)
  /-- send a call once -/
  | dispatch (call : ApiCall)
  /-- send a call once, unless it is cancelled after a number of questions -/
  | cancellable (call : ApiCall) (cancelled : Option Nat)
  /-- dispatch a call until it is answered -/
  | send (call : ApiCall)

/-- What an operation ends with, unless it fails. -/
inductive Operation.Result where
  | token (token : String)
  | nothing
  | reply (reply : Reply)
  deriving DecidableEq

/-- Carries out an operation. -/
def Operation.perform (config : Config) : Operation → Call Operation.Result
  | getToken => .token <$> Store.getToken config
  | refresh => (fun _ => .nothing) <$> Store.refresh config
  | acquire => (fun _ => .nothing) <$> Store.acquire config
  | revoke => (fun _ => .nothing) <$> Store.revoke config
  | execute call => .reply <$> Delivery.execute config call
  | dispatch call => .reply <$> Delivery.dispatch config call
  | cancellable call cancelled =>
    .reply <$> Delivery.dispatchUnlessCancelled config call cancelled
  | send call => .reply <$> Client.send config call

end BearerClient
