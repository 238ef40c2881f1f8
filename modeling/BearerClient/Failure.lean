/-!
# Failures

What a call can end with instead of an answer, one case per cause, and how a failure presents
itself: a message, a short label, a category, the HTTP status it came with and the code the
backend supplied.
-/

namespace BearerClient

/-- The step of an exchange that failed below HTTP. -/
inductive TransportFault.Kind where
  | timeout
  | connect
  | request
  | body
  | unsupported
  | other
  deriving Repr, DecidableEq

def TransportFault.Kind.label : TransportFault.Kind → String
  | .timeout => "timeout"
  | .connect => "connect"
  | .request => "request"
  | .body => "body"
  | .unsupported => "unsupported"
  | .other => "other"

/-- A failure of the transport. -/
structure TransportFault where
  kind : TransportFault.Kind
  message : String
  deriving Repr, DecidableEq

def TransportFault.text (fault : TransportFault) : String :=
  fault.kind.label ++ " error: " ++ fault.message

inductive Failure where
  /-- a 401 that is not answered by another attempt, or a login that a credential endpoint rejects -/
  | unauthorized (message : String) (code : Option Int64)
  /-- any other failure reported by a credential endpoint -/
  | authentication (status : Option UInt16) (message : String) (code : Option Int64)
  /-- a status outside 200 to 399, other than 401, from the API itself -/
  | http (status : UInt16) (message : String) (code : Option Int64) (body : Option String)
  /-- a transport failure, with a status if the response had already started -/
  | transport (status : Option UInt16) (source : TransportFault)
  /-- the credential was rejected; the caller is to refresh it and send the call again -/
  | retryNeeded (status : UInt16)
  /-- a successful response with a body that could not be decoded -/
  | decode (status : UInt16) (message : String)
  | invalidRequest (message : String)
  | config (message : String)
  | cancelled
  deriving Repr, DecidableEq

namespace Failure

/-- A transport failure before any response. -/
def ofTransport (source : TransportFault) : Failure := .transport none source

def message : Failure → String
  | unauthorized message _ => "Unauthorized: " ++ message
  | authentication _ message _ => "Authentication failed: " ++ message
  | http status message _ _ => "HTTP " ++ toString status.toNat ++ ": " ++ message
  | transport _ source => "Transport failure: " ++ source.text
  | retryNeeded status =>
    "Credential rejected (HTTP " ++ toString status.toNat ++ "); refresh and resend the request"
  | decode status message =>
    "Failed to decode response (HTTP " ++ toString status.toNat ++ "): " ++ message
  | invalidRequest message => "Invalid request: " ++ message
  | config message => "Configuration error: " ++ message
  | cancelled => "Operation cancelled"

def label : Failure → String
  | unauthorized .. => "unauthorized"
  | authentication .. => "authentication_failure"
  | http .. => "http"
  | transport .. => "transport"
  | retryNeeded .. => "retry_needed"
  | decode .. => "decode"
  | invalidRequest .. => "invalid_request"
  | config .. => "config"
  | cancelled => "cancelled"

inductive Category where
  | authentication
  | http
  | transport
  | client
  | config
  | cancelled
  deriving Repr, DecidableEq

def Category.name : Category → String
  | .authentication => "Authentication"
  | .http => "Http"
  | .transport => "Transport"
  | .client => "Client"
  | .config => "Config"
  | .cancelled => "Cancelled"

def category : Failure → Category
  | unauthorized .. | authentication .. | retryNeeded .. => .authentication
  | http .. => .http
  | transport .. => .transport
  | decode .. | invalidRequest .. => .client
  | config .. => .config
  | cancelled => .cancelled

/-- The status that came with the failure. -/
def status : Failure → Option UInt16
  | unauthorized .. => some 401
  | authentication status .. | transport status .. => status
  | http status .. | retryNeeded status | decode status .. => some status
  | invalidRequest .. | config .. | cancelled => none

/-- The code that the backend supplied. -/
def code : Failure → Option Int64
  | unauthorized _ code | authentication _ _ code | http _ _ code _ => code
  | _ => none

/-- The start of the body of a failed response. -/
def body : Failure → Option String
  | http _ _ _ body => body
  | _ => none

def isRetryNeeded : Failure → Bool
  | retryNeeded .. => true
  | _ => false

def isUnauthorized : Failure → Bool
  | unauthorized .. => true
  | _ => false

end Failure
end BearerClient
