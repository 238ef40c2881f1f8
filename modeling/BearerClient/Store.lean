import BearerClient.Classify
import BearerClient.Config
import BearerClient.Program

/-!
# The credential store

The store holds the one credential that all calls share.  It obtains a first credential with the
login, renews it with the refresh token it was given, and revokes it.  Each of these operations
decides and acts while it holds the exchange lock, so callers that meet share one exchange.  A
failed exchange leaves the credential as it was; a revocation clears it whatever the backend says.
-/

namespace BearerClient

/-- The endpoints that grants are sent to. -/
inductive Endpoint where
  | app
  | refresh
  | revoke
  deriving Repr, DecidableEq

def Endpoint.name : Endpoint → String
  | .app => "app"
  | .refresh => "refresh"
  | .revoke => "revoke"

/-- A way to obtain a credential. -/
inductive Exchange where
  | acquire
  | renew (refreshToken : String)
  deriving Repr, DecidableEq

namespace Exchange

def endpoint : Exchange → Endpoint
  | acquire => .app
  | renew _ => .refresh

/-- The grant that the exchange sends. -/
def grant (login : Login) : Exchange → Json.Value
  | acquire => login.grant
  | renew refreshToken => login.refreshGrant refreshToken

/-- With a refresh token a credential is renewed, otherwise a new one is obtained. -/
def renewal (credential : Credential) : Exchange :=
  match credential.refreshToken with
  | some refreshToken => renew refreshToken
  | none => acquire

end Exchange

namespace Config

/-- The only media type that is sent and asked for. -/
def jsonType : HeaderValue := { octets := Text.utf8 "application/json" }

/-- The user agent as a header value. -/
def userAgentValue (config : Config) : Except Failure HeaderValue :=
  match HeaderValue.ofText? config.userAgent with
  | some value => .ok value
  | none => .error (.config ("Invalid user_agent: " ++ invalidHeaderValue))

/-- The request that sends a grant to an endpoint.  It carries no token. -/
def grantRequest (config : Config) (endpoint : Endpoint) (grant : Json.Value) :
    Except Failure Wire.Request := do
  let userAgent ← config.userAgentValue
  return {
    method := "POST"
    url := config.endpointUrl endpoint.name
    headers := (((Headers.empty.insert "content-type" jsonType).insert "accept" jsonType).insert
      "user-agent" userAgent)
    body := .text grant.text
    timeout := config.requestTimeout }

end Config

namespace Store

/-! ## Exchanges -/

/-- An answer to an exchange that is not that of a credential endpoint. -/
def malformed (endpoint : Endpoint) (status : UInt16) (fault : Failure) : Failure :=
  .authentication (some status)
    ("Malformed " ++ endpoint.name ++ " response: " ++ fault.message) none

/-- The token in the reply of an endpoint.  A blank reply holds none of its parts. -/
def readAnswer (endpoint : Endpoint) (reply : Reply) : Except Failure TokenAnswer :=
  match reply.json TokenAnswer.decoder with
  | .ok answer => .ok (answer.getD {})
  | .error fault => .error (malformed endpoint reply.status fault)

/-- Stores the credential that the answer to an exchange makes. -/
def complete (endpoint : Endpoint) (response : Wire.Response) : Call Unit := do
  let reply ← response.classifyCredential
  let answer ← readAnswer endpoint reply
  let now ← Call.ask .now
  let credential ← Credential.ofAnswer answer now
  Call.ask (.replace credential)

/-- Carries out an exchange. -/
def perform (config : Config) (exchange : Exchange) : Call Unit := do
  let request ← config.grantRequest exchange.endpoint (exchange.grant config.login)
  let response ← Call.send request
  complete exchange.endpoint response

/-- Carries out an exchange if there is one to be carried out. -/
def performAny (config : Config) : Option Exchange → Call Unit
  | some exchange => perform config exchange
  | none => pure ()

/-- The exchange that is due before the token can be used.  Without a token the clock is not
asked. -/
def exchangeForToken (config : Config) : Call (Option Exchange) := do
  let credential ← Call.ask .credential
  if credential.isBlank then return some .acquire
  let now ← Call.ask .now
  if credential.isExpired now config.refreshMargin then return some (.renewal credential)
  return none

/-- The exchange for a refresh, unless there was one a short while ago. -/
def exchangeForRefresh (config : Config) : Call (Option Exchange) := do
  let credential ← Call.ask .credential
  if credential.isBlank then return some .acquire
  let now ← Call.ask .now
  if credential.isFresh now config.freshBuffer then return none
  return some (.renewal credential)

/-! ## Operations -/

/-- A token that is not due for renewal; it is obtained or renewed first if need be. -/
def getToken (config : Config) : Call String := Call.locked do
  performAny config (← exchangeForToken config)
  let credential ← Call.ask .credential
  return credential.token

/-- Renews the credential unless it is fresh. -/
def refresh (config : Config) : Call Unit := Call.locked do
  performAny config (← exchangeForRefresh config)

/-- Obtains a new credential with the login, whatever is stored. -/
def acquire (config : Config) : Call Unit := Call.locked (perform config .acquire)

/-- Forgets the credential. -/
def clear : Call Unit := Call.ask (.replace .blank)

/-- Revokes the refresh token and forgets the credential, also if the backend does not agree.
Without a refresh token nothing is sent. -/
def revoke (config : Config) : Call Unit := Call.locked do
  let credential ← Call.ask .credential
  match credential.refreshToken with
  | none => clear
  | some refreshToken =>
    let request ← config.grantRequest .revoke (config.login.refreshGrant refreshToken)
    let response ← Call.ask (.send request)
    clear
    match response with
    | .ok response => discard response.classifyCredential
    | .error source => throw (.ofTransport source)

/-! ## What can be seen without the lock -/

/-- Whether a credential is held. -/
def authenticated : Program Bool := do
  let credential ← Program.query .credential
  return !credential.isBlank

/-- When the credential falls due. -/
def threshold (config : Config) : Program (Option Instant) := do
  let credential ← Program.query .credential
  return credential.threshold config.refreshMargin

/-- How long it is until then; nothing is left once it has fallen due. -/
def untilRefresh (config : Config) : Program (Option Duration) := do
  match ← threshold config with
  | none => return none
  | some threshold =>
    let now ← Program.query .now
    return some (Instant.wait now threshold)

/-- Whether the next use of the token carries out an exchange. -/
def needsRenewal (config : Config) : Program Bool := do
  let credential ← Program.query .credential
  let now ← Program.query .now
  return credential.isExpired now config.refreshMargin

/-- The store as it is shown. -/
def text (config : Config) (credential : Credential) : String :=
  Text.showRecord "CredentialStore"
    [("api_url", Text.quote config.apiUrl), ("credential", credential.text)] true

end Store
end BearerClient
