import BearerClient.Config
import BearerClient.Toml.Document

/-!
# Configurations as TOML

A document with the settings as keys; durations are whole milliseconds.  The login is a table, or
an array that starts with its four parts.  Keys that are no settings are passed over.
-/

namespace BearerClient

open Toml (Members)

namespace Toml

/-- A key that has a default, or none. -/
def setting (members : Members) (name : String) (read : Value → Option α) (default : Option α) :
    Except Fault α :=
  match members.lookup name, default with
  | some value, _ =>
    match read value with
    | some a => .ok a
    | none => .error (.wrongType name)
  | none, some default => .ok default
  | none, none => .error (.missing name)

def Value.text? : Value → Option String
  | .text content => some content
  | _ => none

/-- An integer from 0 below `2 ^ bits`. -/
def Value.natural? (bits : Nat) : Value → Option Nat
  | .scalar (.integer n) => if 0 ≤ n ∧ n.toNat < Nat.pow 2 bits then some n.toNat else none
  | _ => none

end Toml

namespace Login

def ofMembers (members : Members) : Except Toml.Fault Login := do
  let username ← Toml.setting members "username" Toml.Value.text? none
  let password ← Toml.setting members "password" Toml.Value.text? none
  let clientId ← Toml.setting members "client_id" Toml.Value.text? none
  let clientSecret ← Toml.setting members "client_secret" Toml.Value.text? none
  return ⟨username, password, clientId, clientSecret⟩

def ofToml? : Toml.Value → Option Login
  | .table _ members => (ofMembers members).toOption
  | .array (.text username :: .text password :: .text clientId :: .text clientSecret :: _) =>
    some ⟨username, password, clientId, clientSecret⟩
  | _ => none

end Login

namespace Config

def ofMembers (members : Members) : Except Toml.Fault Config := do
  let apiUrl ← Toml.setting members "api_url" Toml.Value.text? none
  let login ← Toml.setting members "credentials" Login.ofToml? none
  let config : Config := { apiUrl, login }
  let natural (bits : Nat) (name : String) (default : Nat) : Except Toml.Fault Nat :=
    Toml.setting members name (Toml.Value.natural? bits) (some default)
  let duration (name : String) (default : Duration) : Except Toml.Fault Duration :=
    Toml.setting members name
      (fun value => (value.natural? 64).map Duration.ofMillis) (some default)
  return { config with
    userAgent := ← Toml.setting members "user_agent" Toml.Value.text? (some config.userAgent)
    maxRetries := UInt32.ofNat (← natural 32 "max_retries" config.maxRetries.toNat)
    requestTimeout := ← duration "request_timeout_ms" config.requestTimeout
    connectTimeout := ← duration "connect_timeout_ms" config.connectTimeout
    refreshMargin := ← duration "refresh_offset_ms" config.refreshMargin
    freshBuffer := ← duration "fresh_buffer_ms" config.freshBuffer
    idleConnections :=
      UInt64.ofNat (← natural 64 "pool_max_idle_per_host" config.idleConnections.toNat) }

/-- The configuration that a document holds. -/
def ofToml (text : String) : Except Toml.Fault Config := Toml.parse text >>= ofMembers

end Config
end BearerClient
