import BearerClient.Config.Source
import BearerClient.Proofs.Config.Validation
import BearerClient.Proofs.Text.Integer
import BearerClient.Proofs.Text.ReadBack
import Mathlib.Logic.ExistsUnique

/-!
# Configurations from the environment

A variable says something if it is set to a text that is not blank.  Five variables have to say
something, and a numeric one has to say a number if it says anything.  Variables of this kind
describe one configuration, and that is what the environment holds if it is valid.

The check is made twice, the first time with the defaults.  It makes no difference to the outcome:
of the settings that the first check looks at, those that are variables are valid by default.
-/

namespace BearerClient.Surroundings

open Json (except_bind_eq_ok)

variable {surroundings : Surroundings} {config : Config} {key text : String} {bits : Nat}

/-! ## Variables -/

/-- A variable is set to a text that is not blank. -/
structure Says (surroundings : Surroundings) (key text : String) : Prop where
  value : surroundings.environment.lookup (variablePrefix ++ key) = some (Text.utf8 text)
  not_blank : Text.isBlank text = false

/-- A variable says nothing. -/
inductive Silent (surroundings : Surroundings) (key : String) : Prop where
  | unset (hvalue : surroundings.environment.lookup (variablePrefix ++ key) = none)
  | notText {octets : Bytes}
      (hvalue : surroundings.environment.lookup (variablePrefix ++ key) = some octets)
      (hoctets : ∀ text, octets ≠ Text.utf8 text)
  | blank {text : String}
      (hvalue : surroundings.environment.lookup (variablePrefix ++ key) = some (Text.utf8 text))
      (hblank : Text.isBlank text = true)

theorem Says.value?_eq (hsaid : surroundings.Says key text) :
    surroundings.value? key = some text := by
  simp [value?, Credential.nonBlank, hsaid.value, hsaid.not_blank]

theorem Silent.value?_eq (hsilent : surroundings.Silent key) : surroundings.value? key = none := by
  cases hsilent with
  | unset hvalue => simp [value?, Credential.nonBlank, hvalue]
  | notText hvalue hoctets =>
      simp [value?, Credential.nonBlank, hvalue, Text.Utf8.decode?_eq_none_iff.2 hoctets]
  | blank hvalue hblank =>
      simp [value?, Credential.nonBlank, hvalue, hblank]

theorem says_or_silent (surroundings : Surroundings) (key : String) :
    (∃ text, surroundings.Says key text) ∨ surroundings.Silent key := by
  cases hvalue : surroundings.environment.lookup (variablePrefix ++ key) with
  | none => exact .inr (.unset hvalue)
  | some octets =>
      by_cases htext : ∃ text, octets = Text.utf8 text
      · obtain ⟨text, rfl⟩ := htext
        cases hblank : Text.isBlank text with
        | false => exact .inl ⟨text, hvalue, hblank⟩
        | true => exact .inr (.blank hvalue hblank)
      · exact .inr (.notText hvalue (not_exists.1 htext))

theorem value?_eq_some_iff : surroundings.value? key = some text ↔ surroundings.Says key text := by
  constructor
  · intro hvalue
    rcases surroundings.says_or_silent key with ⟨said, hsaid⟩ | hsilent
    · rw [hsaid.value?_eq] at hvalue
      cases hvalue
      exact hsaid
    · rw [hsilent.value?_eq] at hvalue
      cases hvalue
  · exact Says.value?_eq

theorem value?_eq_none_iff : surroundings.value? key = none ↔ surroundings.Silent key := by
  constructor
  · intro hvalue
    refine (surroundings.says_or_silent key).resolve_left fun ⟨said, hsaid⟩ => ?_
    rw [hsaid.value?_eq] at hvalue
    cases hvalue
  · exact Silent.value?_eq

theorem requiredVariable_eq_ok_iff :
    surroundings.requiredVariable key = .ok text ↔ surroundings.Says key text := by
  rw [← value?_eq_some_iff, requiredVariable]
  cases surroundings.value? key <;> simp

/-! ## Numbers -/

/-- What a numeric variable says: nothing, or a number below `2 ^ bits`. -/
inductive Counts (surroundings : Surroundings) (bits : Nat) (key : String) : Option Nat → Prop where
  | silent (hsilent : surroundings.Silent key) : surroundings.Counts bits key none
  | number {text : String} {n : Nat} (hsaid : surroundings.Says key text)
      (hnumber : Text.Decimal (Text.trim text).toList n) (hrange : n < Nat.pow 2 bits) :
      surroundings.Counts bits key (some n)

theorem naturalVariable_eq_ok_iff {found : Option Nat} :
    surroundings.naturalVariable bits key = .ok found ↔ surroundings.Counts bits key found := by
  unfold naturalVariable
  constructor
  · intro hread
    split at hread
    case h_1 hvalue =>
      cases hread
      exact .silent (value?_eq_none_iff.1 hvalue)
    case h_2 text hvalue =>
      split at hread
      case h_1 n hn =>
        cases hread
        obtain ⟨hnumber, hrange⟩ := Text.readUnsigned_eq_ok_iff.1 hn
        exact .number (value?_eq_some_iff.1 hvalue) hnumber hrange
      case h_2 => cases hread
  · intro hcounts
    cases hcounts with
    | silent hsilent => rw [hsilent.value?_eq]
    | number hsaid hnumber hrange =>
        rw [hsaid.value?_eq]
        dsimp only
        rw [Text.readUnsigned_eq_ok_iff.2 ⟨hnumber, hrange⟩]

/-- A setting is what a numeric variable says, or else the default. -/
def Sets (surroundings : Surroundings) (bits : Nat) (key : String) {α : Type} (make : Nat → α)
    (default a : α) : Prop :=
  ∃ found, surroundings.Counts bits key found ∧ (found.map make).getD default = a

/-! ## Configurations -/

/-- The variables describe a configuration.  What is no variable has its default. -/
structure Describes (surroundings : Surroundings) (config : Config) : Prop where
  apiUrl : surroundings.Says "API_URL" config.apiUrl
  username : surroundings.Says "USERNAME" config.login.username
  password : surroundings.Says "PASSWORD" config.login.password
  clientId : surroundings.Says "CLIENT_ID" config.login.clientId
  clientSecret : surroundings.Says "CLIENT_SECRET" config.login.clientSecret
  maxRetries :
    surroundings.Sets 32 "MAX_RETRIES" .ofNat Config.defaults.maxRetries config.maxRetries
  requestTimeout : surroundings.Sets 64 "REQUEST_TIMEOUT_MS" .ofMillis
    Config.defaults.requestTimeout config.requestTimeout
  refreshMargin : surroundings.Sets 64 "REFRESH_OFFSET_MS" .ofMillis
    Config.defaults.refreshMargin config.refreshMargin
  freshBuffer : surroundings.Sets 64 "FRESH_BUFFER_MS" .ofMillis
    Config.defaults.freshBuffer config.freshBuffer
  userAgent : surroundings.Says "USER_AGENT" config.userAgent ∨
    surroundings.Silent "USER_AGENT" ∧ config.userAgent = Config.defaults.userAgent
  connectTimeout : config.connectTimeout = Config.defaults.connectTimeout
  idleConnections : config.idleConnections = Config.defaults.idleConnections

theorem durationVariable_eq_ok_iff {found : Option Duration} :
    surroundings.durationVariable key = .ok found ↔
      ∃ millis, surroundings.Counts 64 key millis ∧ millis.map .ofMillis = found := by
  simp only [← naturalVariable_eq_ok_iff]
  unfold durationVariable
  cases surroundings.naturalVariable 64 key <;> simp [Functor.map, Except.map]

theorem userAgent_iff {agent : String} :
    (surroundings.value? "USER_AGENT").getD Config.defaults.userAgent = agent ↔
      surroundings.Says "USER_AGENT" agent ∨
        surroundings.Silent "USER_AGENT" ∧ agent = Config.defaults.userAgent := by
  rw [← value?_eq_some_iff, ← value?_eq_none_iff]
  cases surroundings.value? "USER_AGENT" with
  | none => simp [eq_comm]
  | some said => simp

theorem environmentConfig_eq_ok_iff :
    surroundings.environmentConfig = .ok config ↔
      surroundings.Describes config ∧ config.Valid := by
  unfold environmentConfig Config.new
  simp only [except_bind_eq_ok, requiredVariable_eq_ok_iff, naturalVariable_eq_ok_iff,
    durationVariable_eq_ok_iff]
  constructor
  · rintro ⟨apiUrl, hapi, username, husername, password, hpassword, clientId, hid, clientSecret,
      hsecret, base, ⟨-, -, hbase⟩, maxRetries, hretries, -, ⟨request, hrequest, rfl⟩, -,
      ⟨margin, hmargin, rfl⟩, -, ⟨buffer, hbuffer, rfl⟩, ⟨⟩, hvalid, hdone⟩
    cases hbase
    cases hdone
    exact ⟨{
      apiUrl := hapi
      username := husername
      password := hpassword
      clientId := hid
      clientSecret := hsecret
      maxRetries := ⟨maxRetries, hretries, rfl⟩
      requestTimeout := ⟨request, hrequest, rfl⟩
      refreshMargin := ⟨margin, hmargin, rfl⟩
      freshBuffer := ⟨buffer, hbuffer, rfl⟩
      userAgent := userAgent_iff.1 rfl
      connectTimeout := rfl
      idleConnections := rfl }, Config.validate_eq_ok_iff.1 hvalid⟩
  · rintro ⟨hdescribes, hvalid⟩
    have hfirst := Config.validate_eq_ok_iff.2 hvalid.of_defaults
    obtain ⟨hapi, husername, hpassword, hid, hsecret, ⟨maxRetries, hretries, hretriesEq⟩,
      ⟨request, hrequest, hrequestEq⟩, ⟨margin, hmargin, hmarginEq⟩, ⟨buffer, hbuffer, hbufferEq⟩,
      hagent, hconnect, hidle⟩ := hdescribes
    cases config
    cases hretriesEq
    cases hrequestEq
    cases hmarginEq
    cases hbufferEq
    cases userAgent_iff.2 hagent
    cases hconnect
    cases hidle
    exact ⟨_, hapi, _, husername, _, hpassword, _, hid, _, hsecret, _, ⟨(), hfirst, rfl⟩, _,
      hretries, _, ⟨_, hrequest, rfl⟩, _, ⟨_, hmargin, rfl⟩, _, ⟨_, hbuffer, rfl⟩, (),
      Config.validate_eq_ok_iff.2 hvalid, rfl⟩

/-! ## Variables that describe something -/

theorem Says.unique {other : String} (hsaid : surroundings.Says key text)
    (hother : surroundings.Says key other) : text = other :=
  Option.some.inj ((hsaid.value?_eq).symm.trans (hother.value?_eq))

theorem Sets.unique {α : Type} {make : Nat → α} {default a b : α}
    (ha : surroundings.Sets bits key make default a)
    (hb : surroundings.Sets bits key make default b) : a = b := by
  obtain ⟨found, hfound, rfl⟩ := ha
  obtain ⟨other, hother, rfl⟩ := hb
  rw [← naturalVariable_eq_ok_iff] at hfound hother
  rw [Except.ok.inj (hfound.symm.trans hother)]

theorem Describes.unique {other : Config} (hconfig : surroundings.Describes config)
    (hother : surroundings.Describes other) : config = other := by
  have hagent := (userAgent_iff.2 hconfig.userAgent).symm.trans (userAgent_iff.2 hother.userAgent)
  obtain ⟨_, login, _, _, _, _, _, _, _⟩ := config
  obtain ⟨_, other, _, _, _, _, _, _, _⟩ := other
  cases login
  cases other
  cases hconfig.apiUrl.unique hother.apiUrl
  cases hconfig.username.unique hother.username
  cases hconfig.password.unique hother.password
  cases hconfig.clientId.unique hother.clientId
  cases hconfig.clientSecret.unique hother.clientSecret
  cases hconfig.maxRetries.unique hother.maxRetries
  cases hconfig.requestTimeout.unique hother.requestTimeout
  cases hconfig.refreshMargin.unique hother.refreshMargin
  cases hconfig.freshBuffer.unique hother.freshBuffer
  cases hagent
  cases hconfig.connectTimeout.trans hother.connectTimeout.symm
  cases hconfig.idleConnections.trans hother.idleConnections.symm
  rfl

def requiredKeys : List String := ["API_URL", "USERNAME", "PASSWORD", "CLIENT_ID", "CLIENT_SECRET"]

/-- The numeric variables, with the number of bits of what they set. -/
def numericKeys : List (String × Nat) :=
  [("MAX_RETRIES", 32), ("REQUEST_TIMEOUT_MS", 64), ("REFRESH_OFFSET_MS", 64),
   ("FRESH_BUFFER_MS", 64)]

/-- Every variable can be read. -/
structure Readable (surroundings : Surroundings) : Prop where
  required : ∀ key ∈ requiredKeys, ∃ text, surroundings.Says key text
  numeric : ∀ entry ∈ numericKeys, ∃ found, surroundings.Counts entry.2 entry.1 found

theorem Describes.readable (hdescribes : surroundings.Describes config) :
    surroundings.Readable := by
  constructor
  · intro key hkey
    simp only [requiredKeys, List.mem_cons, List.not_mem_nil, or_false] at hkey
    rcases hkey with rfl | rfl | rfl | rfl | rfl
    · exact ⟨_, hdescribes.apiUrl⟩
    · exact ⟨_, hdescribes.username⟩
    · exact ⟨_, hdescribes.password⟩
    · exact ⟨_, hdescribes.clientId⟩
    · exact ⟨_, hdescribes.clientSecret⟩
  · intro entry hentry
    simp only [numericKeys, List.mem_cons, List.not_mem_nil, or_false] at hentry
    rcases hentry with rfl | rfl | rfl | rfl
    · exact hdescribes.maxRetries.imp fun _ => And.left
    · exact hdescribes.requestTimeout.imp fun _ => And.left
    · exact hdescribes.refreshMargin.imp fun _ => And.left
    · exact hdescribes.freshBuffer.imp fun _ => And.left

theorem Readable.describes (hreadable : surroundings.Readable) :
    ∃ config, surroundings.Describes config := by
  obtain ⟨apiUrl, hapi⟩ := hreadable.required "API_URL" (by decide)
  obtain ⟨username, husername⟩ := hreadable.required "USERNAME" (by decide)
  obtain ⟨password, hpassword⟩ := hreadable.required "PASSWORD" (by decide)
  obtain ⟨clientId, hid⟩ := hreadable.required "CLIENT_ID" (by decide)
  obtain ⟨clientSecret, hsecret⟩ := hreadable.required "CLIENT_SECRET" (by decide)
  obtain ⟨maxRetries, hretries⟩ := hreadable.numeric ("MAX_RETRIES", 32) (by decide)
  obtain ⟨request, hrequest⟩ := hreadable.numeric ("REQUEST_TIMEOUT_MS", 64) (by decide)
  obtain ⟨margin, hmargin⟩ := hreadable.numeric ("REFRESH_OFFSET_MS", 64) (by decide)
  obtain ⟨buffer, hbuffer⟩ := hreadable.numeric ("FRESH_BUFFER_MS", 64) (by decide)
  exact ⟨{
    apiUrl
    login := ⟨username, password, clientId, clientSecret⟩
    userAgent := (surroundings.value? "USER_AGENT").getD Config.defaults.userAgent
    maxRetries := (maxRetries.map .ofNat).getD Config.defaults.maxRetries
    requestTimeout := (request.map .ofMillis).getD Config.defaults.requestTimeout
    refreshMargin := (margin.map .ofMillis).getD Config.defaults.refreshMargin
    freshBuffer := (buffer.map .ofMillis).getD Config.defaults.freshBuffer },
    hapi, husername, hpassword, hid, hsecret, ⟨_, hretries, rfl⟩, ⟨_, hrequest, rfl⟩,
    ⟨_, hmargin, rfl⟩, ⟨_, hbuffer, rfl⟩, userAgent_iff.1 rfl, rfl, rfl⟩

theorem readable_iff : surroundings.Readable ↔ ∃! config, surroundings.Describes config := by
  constructor
  · intro hreadable
    obtain ⟨config, hconfig⟩ := hreadable.describes
    exact ⟨config, hconfig, fun other hother => hother.unique hconfig⟩
  · rintro ⟨config, hconfig, -⟩
    exact hconfig.readable

/-- The environment gives a configuration if its variables can be read and what they describe is
valid. -/
theorem environmentConfig_succeeds_iff :
    (∃ config, surroundings.environmentConfig = .ok config) ↔
      surroundings.Readable ∧ ∀ config, surroundings.Describes config → config.Valid := by
  simp only [environmentConfig_eq_ok_iff]
  constructor
  · rintro ⟨config, hconfig, hvalid⟩
    exact ⟨hconfig.readable, fun other hother => hconfig.unique hother ▸ hvalid⟩
  · rintro ⟨hreadable, hvalid⟩
    obtain ⟨config, hconfig⟩ := hreadable.describes
    exact ⟨config, hconfig, hvalid config hconfig⟩

end BearerClient.Surroundings
