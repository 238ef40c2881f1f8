import BearerClient.Credential.Answer
import BearerClient.Failure
import BearerClient.Text.Blank
import BearerClient.Text.Quoted
import BearerClient.Time.Calendar

/-!
# Credentials

A bearer token with its expiry.  A credential is blank before the first token and after a
revocation.  It is due for renewal once the clock has passed a threshold, its expiry less a
margin, and it counts as fresh for a while after it was obtained.
-/

namespace BearerClient

structure Credential where
  token : String := ""
  expiresAt : Option Instant := none
  refreshToken : Option String := none
  /-- when the token was obtained -/
  lastUpdate : Option Instant := none
  deriving DecidableEq, Inhabited

namespace Credential

/-- No token. -/
def blank : Credential := {}

/-- A text that is there and not blank. -/
def nonBlank (text : Option String) : Option String := text.filter fun text => !Text.isBlank text

def emptyToken : Failure :=
  .authentication none "Credential endpoint returned an empty token" none

def noExpiry : Failure :=
  .authentication none "Credential endpoint returned no expires_at" none

/-- The credential that an answer received at `now` makes.  The token and its expiry are needed; a
blank refresh token is none. -/
def ofAnswer (answer : TokenAnswer) (now : Instant) : Except Failure Credential :=
  match nonBlank answer.token with
  | none => .error emptyToken
  | some token =>
    match answer.expiresAt with
    | none => .error noExpiry
    | some expiresAt =>
      .ok ⟨token, some expiresAt, nonBlank answer.refreshToken, some now⟩

def isBlank (credential : Credential) : Bool := Text.isBlank credential.token

/-- The last instant at which the credential is not due for renewal. -/
def threshold (credential : Credential) (margin : Duration) : Option Instant :=
  credential.expiresAt.map (·.earlier margin)

/-- Due for renewal: past the threshold, or nothing to be used at all. -/
def isExpired (credential : Credential) (now : Instant) (margin : Duration) : Bool :=
  match credential.threshold margin with
  | some threshold => credential.isBlank || threshold < now
  | none => true

/-- Obtained less than a while ago. -/
def isFresh (credential : Credential) (now : Instant) (while_ : Duration) : Bool :=
  match credential.lastUpdate with
  | some last => now < last.later while_
  | none => false

/-- The credential as it is shown, without its secrets. -/
def text (credential : Credential) : String :=
  Text.showRecord "Credential"
    [("token", Text.quote (if credential.isBlank then "<blank>" else "<redacted>")),
     ("expires_at", Text.showOption (credential.expiresAt.map (·.text))),
     ("refresh_token",
       Text.showOption (credential.refreshToken.map fun _ => Text.quote "<redacted>")),
     ("last_update", Text.showOption (credential.lastUpdate.map (·.text)))] false

end Credential

/-- A login as it is shown, without its secrets. -/
def Login.text (login : Login) : String :=
  Text.showRecord "PrimaryCredentials"
    [("username", Text.quote login.username), ("password", Text.quote "<redacted>"),
     ("client_id", Text.quote login.clientId), ("client_secret", Text.quote "<redacted>")] false

end BearerClient
