import BearerClient.Json.Decoder
import BearerClient.Json.Writer
import BearerClient.Time.Instant

/-!
# What credential endpoints are sent and answer

A *grant* is the body of a request to a credential endpoint: the login for a first token, or the
refresh token for a renewal or a revocation.  The *answer* to the first two is a token with its
expiry; every part of it may be missing.
-/

namespace BearerClient

open Json

/-- What a client identifies itself with. -/
structure Login where
  username : String
  password : String
  clientId : String
  clientSecret : String
  deriving Repr, DecidableEq

namespace Login

/-- The grant for a first token. -/
def grant (login : Login) : Value :=
  .object [("username", .string login.username), ("password", .string login.password),
    ("client_id", .string login.clientId), ("client_secret", .string login.clientSecret)]

/-- The grant for renewing or revoking a token.  It holds neither user name nor password. -/
def refreshGrant (login : Login) (refreshToken : String) : Value :=
  .object [("client_id", .string login.clientId), ("client_secret", .string login.clientSecret),
    ("refresh_token", .string refreshToken)]

end Login

/-- The answer of a credential endpoint. -/
structure TokenAnswer where
  token : Option String := none
  expiresAt : Option Instant := none
  refreshToken : Option String := none
  deriving DecidableEq

namespace TokenAnswer

/-- An instant as whole milliseconds since the epoch; a number outside the range of instants is
refused. -/
def instantDecoder : Decoder Instant := Decoder.int64.refine fun millis =>
  match Instant.ofMillis? millis with
  | some t => .ok t
  | none => .error (.instantOutOfRange millis)

def record : Record (Option String × Option Instant × Option String × Unit) :=
  .field (.withDefault "token" Decoder.text.optional none) <|
  .field (.withDefault "expires_at" instantDecoder.optional none) <|
  .field (.withDefault "refresh_token" Decoder.text.optional none) .done

def decoder : Decoder TokenAnswer :=
  record.decoder.map fun (token, expiresAt, refreshToken, ()) => ⟨token, expiresAt, refreshToken⟩

def toJson (answer : TokenAnswer) : Value :=
  let orNull : Option Value → Value := fun value => value.getD .null
  .object [("token", orNull (answer.token.map .string)),
    ("expires_at", orNull (answer.expiresAt.map fun t => .int t.millis)),
    ("refresh_token", orNull (answer.refreshToken.map .string))]

end TokenAnswer
end BearerClient
