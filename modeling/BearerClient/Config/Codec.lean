import BearerClient.Config
import BearerClient.Json.Decoder
import BearerClient.Json.Writer

/-!
# Configurations as JSON

An object with one member for each setting; durations are whole milliseconds.  The root of the API
and the login are required, everything else has a default.
-/

namespace BearerClient

open Json

namespace Login

def toJson (login : Login) : Value :=
  .object [("username", .string login.username), ("password", .string login.password),
    ("client_id", .string login.clientId), ("client_secret", .string login.clientSecret)]

def decoder : Decoder Login :=
  (Record.field (.required "username" .text) <| .field (.required "password" .text) <|
      .field (.required "client_id" .text) <|
      .field (.required "client_secret" .text) .done).decoder.map
    fun (username, password, clientId, clientSecret, ()) =>
      ⟨username, password, clientId, clientSecret⟩

end Login

namespace Config

/-- The largest number of milliseconds that is written. -/
def maxMillis : Nat := 18446744073709551615

def durationJson (d : Duration) : Value := .int (min d.millis maxMillis)

def durationDecoder : Decoder Duration := (Decoder.natural 64).map .ofMillis

def toJson (config : Config) : Value :=
  .object [("api_url", .string config.apiUrl), ("credentials", config.login.toJson),
    ("user_agent", .string config.userAgent), ("max_retries", .int config.maxRetries.toNat),
    ("request_timeout_ms", durationJson config.requestTimeout),
    ("connect_timeout_ms", durationJson config.connectTimeout),
    ("refresh_offset_ms", durationJson config.refreshMargin),
    ("fresh_buffer_ms", durationJson config.freshBuffer),
    ("pool_max_idle_per_host", .int config.idleConnections.toNat)]

/-- The settings that are not given. -/
def defaults : Config := { apiUrl := "", login := ⟨"", "", "", ""⟩ }

def durationField (name : String) (default : Duration) : Member Duration :=
  .withDefault name durationDecoder default

def record : Record (String × Login × String × UInt32 × Duration × Duration × Duration × Duration ×
    UInt64 × Unit) :=
  .field (.required "api_url" .text) <|
  .field (.required "credentials" Login.decoder) <|
  .field (.withDefault "user_agent" .text defaults.userAgent) <|
  .field (.withDefault "max_retries" ((Decoder.natural 32).map UInt32.ofNat) defaults.maxRetries) <|
  .field (durationField "request_timeout_ms" defaults.requestTimeout) <|
  .field (durationField "connect_timeout_ms" defaults.connectTimeout) <|
  .field (durationField "refresh_offset_ms" defaults.refreshMargin) <|
  .field (durationField "fresh_buffer_ms" defaults.freshBuffer) <|
  .field (.withDefault "pool_max_idle_per_host" ((Decoder.natural 64).map UInt64.ofNat)
    defaults.idleConnections) .done

def decoder : Decoder Config :=
  record.decoder.map fun (apiUrl, login, userAgent, maxRetries, requestTimeout, connectTimeout,
      refreshMargin, freshBuffer, idleConnections, ()) =>
    { apiUrl, login, userAgent, maxRetries, requestTimeout, connectTimeout, refreshMargin,
      freshBuffer, idleConnections }

end Config
end BearerClient
