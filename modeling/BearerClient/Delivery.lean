import BearerClient.ApiCall
import BearerClient.Store

/-!
# Delivering calls

A call becomes a request on the wire with the bearer token, is sent, and its response is
classified.  There are two ways to do so.  *Executing* a call sends it again after each rejection of
its credential, with a refresh in between, until the attempts that it is allowed are used up; that
needs a body which can be sent more than once.  *Dispatching* a call sends it once and reports a
rejection to the caller.
-/

namespace BearerClient
namespace ApiCall

/-- The attempts that a call is allowed after the first one. -/
def retries (call : ApiCall) (config : Config) : UInt32 := call.maxRetries.getD config.maxRetries

def rejectedToken : Failure :=
  .authentication none "Credential contains characters not allowed in a header" none

/-- The header that carries the token. -/
def bearerValue (token : String) : Except Failure HeaderValue :=
  match HeaderValue.ofText? ("Bearer " ++ token) with
  | some value => .ok { value with sensitive := true }
  | none => .error rejectedToken

/-- The headers of a call on the wire: those of the caller, then what is added to them. -/
def wireHeaders (call : ApiCall) (config : Config) (token : String) : Except Failure Headers := do
  let headers := call.headers
  let headers := if call.raw then headers else headers.insert "accept" Config.jsonType
  let headers :=
    if call.jsonBody then headers.insertIfAbsent "content-type" Config.jsonType else headers
  let headers ←
    if headers.contains "user-agent" then .ok headers
    else config.userAgentValue.map (headers.insert "user-agent")
  let bearer ← bearerValue token
  return headers.insert "authorization" bearer

/-- The call on the wire, at a URL and with a token. -/
def assemble (call : ApiCall) (config : Config) (url token : String) :
    Except Failure Wire.Request := do
  let headers ← call.wireHeaders config token
  return {
    method := call.method
    url
    headers
    body := call.body
    timeout := call.timeout.getD config.requestTimeout }

/-- The URL of a call, unless the call is refused. -/
def target (call : ApiCall) (config : Config) : Except Failure String := do
  call.validate
  config.requestUrl call.path

def streamRefused : Failure :=
  .invalidRequest "streamed bodies are only supported by the async pipeline"

/-- The URL of a call that may be sent more than once. -/
def repeatableTarget (call : ApiCall) (config : Config) : Except Failure String := do
  call.validate
  if call.body.isStream then throw streamRefused
  config.requestUrl call.path

end ApiCall

namespace Delivery

/-- One attempt: the call is sent with the token of the store, and its response classified. -/
def attempt (config : Config) (call : ApiCall) (url : String) (retriesLeft : Nat) :
    Call Outcome := do
  let token ← Store.getToken config
  let request ← call.assemble config url token
  let response ← Call.send request
  return response.classify retriesLeft

/-- Attempts with refreshes in between.  Attempts are counted, and there is no number for one after
the last `UInt32`. -/
def attempts (config : Config) (call : ApiCall) (url : String) :
    (retriesLeft attempted : Nat) → Call Reply
  | retriesLeft, attempted => do
    if attempted + 1 = UInt32.size then Call.abort
    else
      match ← attempt config call url retriesLeft with
      | .success reply => return reply
      | .fatal failure => throw failure
      | .retryable _ =>
        Store.refresh config
        match retriesLeft with
        | 0 => Call.abort
        | retriesLeft + 1 => attempts config call url retriesLeft (attempted + 1)

/-- Sends a call until its credential is accepted or its attempts are used up. -/
def execute (config : Config) (call : ApiCall) : Call Reply := do
  let url ← call.repeatableTarget config
  attempts config call url (call.retries config).toNat 0

/-- Sends a call once.  A rejected credential is reported as such while there are attempts left. -/
def dispatch (config : Config) (call : ApiCall) : Call Reply := do
  let url ← call.target config
  match ← attempt config call url (call.retries config).toNat with
  | .success reply => return reply
  | .fatal failure => throw failure
  | .retryable _ => throw (.retryNeeded 401)

/-- Dispatches a call that is cancelled after a number of questions to its surroundings, if at
all. -/
def dispatchUnlessCancelled (config : Config) (call : ApiCall) (cancelled : Option Nat) :
    Call Reply :=
  match cancelled with
  | none => dispatch config call
  | some questions => ExceptT.mk do
    let result ← (dispatch config call).run.cutOff questions
    return result.getD (.error .cancelled)

/-- The pipeline as it is shown. -/
def text (config : Config) : String :=
  Text.showRecord "RequestPipeline"
    [("api_url", Text.quote config.apiUrl), ("max_retries", toString config.maxRetries.toNat)] true

end Delivery
end BearerClient
