import BearerClient.Proofs.Config.RoundTrip

/-!
# The environment and files agree

A configuration can be put down in two ways, in environment variables and as JSON in a file.  Read
from either, a valid configuration is the same as before, as far as there are variables for its
settings.  And whatever is read, from the environment or from a file, is valid.
-/

namespace BearerClient

open Json (except_bind_eq_ok)

/-! ## Paths of JSON files -/

namespace FileTree

/-- What follows the last slash of a path belongs to its last part. -/
theorem splitOn_append (front : List Char) {back : List Char} (hback : '/' ∉ back) :
    ∃ before last, (front ++ back).splitOn '/' = before ++ [last ++ back] := by
  induction front with
  | nil => exact ⟨[], [], List.splitOn_eq_singleton hback⟩
  | cons c front ih =>
      obtain ⟨before, last, hsplit⟩ := ih
      rw [List.cons_append, List.splitOn_cons_eq_if_modifyHead, hsplit]
      split
      · exact ⟨[] :: before, last, rfl⟩
      · cases before with
        | nil => exact ⟨[], c :: last, rfl⟩
        | cons first before => exact ⟨(c :: first) :: before, last, rfl⟩

/-- A path that ends in a longer text without slashes has a last part, which ends in it too. -/
theorem fileName?_append {path : String} {front back : List Char}
    (hpath : path.toList = front ++ back) (hback : '/' ∉ back) (hlong : 2 < back.length) :
    ∃ last, fileName? path = some (String.ofList (last ++ back)) := by
  obtain ⟨before, last, hsplit⟩ := splitOn_append front hback
  refine ⟨last, ?_⟩
  have hlength : ∀ short : String, short.length ≤ 2 → String.ofList (last ++ back) ≠ short := by
    rintro _ hshort rfl
    rw [String.length_ofList, List.length_append] at hshort
    omega
  have hnamed : ((parts path.toList).filter (· ≠ ".")).getLast? =
      some (String.ofList (last ++ back)) := by
    have hsome : (last ++ back).isEmpty = false := by
      cases back with
      | nil => cases hlong
      | cons c back => simp
    have hpoint := hlength "." (by decide)
    rw [parts, hpath, hsplit]
    generalize last ++ back = name at hsome hpoint
    simp [hsome, hpoint]
  rw [fileName?, hnamed]
  split
  case h_1 hup => exact absurd (Option.some.inj hup) (hlength ".." (by decide))
  case h_2 => rfl

end FileTree

namespace Surroundings

theorem formatOf_json {path : String} (hpath : ".json".toList <:+ path.toList) :
    formatOf path = .ok .json := by
  obtain ⟨front, hfront⟩ := hpath
  obtain ⟨last, hname⟩ := FileTree.fileName?_append hfront.symm (by decide) (by decide)
  have hreversed : (last ++ ".json".toList).reverse =
      'n' :: 'o' :: 's' :: 'j' :: '.' :: last.reverse := by
    rw [List.reverse_append]
    rfl
  rw [formatOf, hname, Option.bind_some, FileTree.extension?, String.toList_ofList, hreversed]
  -- a name of nothing but the extension has none
  cases last.reverse <;> rfl

/-! ## Files -/

variable {surroundings : Surroundings} {config : Config} {path : String}

theorem readConfig_eq_ok_iff {entry : FileTree.Entry} :
    readConfig path entry = .ok config ↔
      ∃ text, readText entry = .ok text ∧ ∃ format, formatOf path = .ok format ∧
        parseConfig text format = .ok config ∧ config.Valid := by
  unfold readConfig
  simp only [except_bind_eq_ok, ← Config.validate_eq_ok_iff]
  constructor
  · rintro ⟨text, htext, format, hformat, read, hread, ⟨⟩, hvalid, hdone⟩
    cases hdone
    exact ⟨text, htext, format, hformat, hread, hvalid⟩
  · rintro ⟨text, htext, format, hformat, hread, hvalid⟩
    exact ⟨text, htext, format, hformat, config, hread, (), hvalid, rfl⟩

theorem readText_utf8 (text : String) : readText (.file (Text.utf8 text)) = .ok text := by
  simp [readText]

/-- The JSON text of a configuration is read back from a file. -/
theorem readConfig_octets (hvalid : config.Valid) (hwhole : config.Whole)
    (hpath : ".json".toList <:+ path.toList) :
    readConfig path (.file config.toJson.octets) = .ok config := by
  have hread : Config.decoder.run (Text.utf8 config.toJson.text) = .ok config :=
    hwhole.roundTrip_eq
  have hparse : parseConfig config.toJson.text .json = .ok config := by
    rw [parseConfig, hread]
  exact readConfig_eq_ok_iff.2
    ⟨_, readText_utf8 config.toJson.text, .json, formatOf_json hpath, hparse, hvalid⟩

theorem fileConfig_octets (hvalid : config.Valid) (hwhole : config.Whole)
    (hpath : ".json".toList <:+ path.toList)
    (hfile : surroundings.files.lookup surroundings.workingDirectory path =
      some (.file config.toJson.octets)) :
    surroundings.fileConfig path = .ok config := by
  rw [fileConfig, hfile]
  exact readConfig_octets hvalid hwhole hpath

theorem readConfig_valid {entry : FileTree.Entry} (hread : readConfig path entry = .ok config) :
    config.Valid := by
  obtain ⟨-, -, -, -, -, hvalid⟩ := readConfig_eq_ok_iff.1 hread
  exact hvalid

theorem fileConfig_valid (hread : surroundings.fileConfig path = .ok config) : config.Valid := by
  unfold fileConfig at hread
  split at hread
  case h_1 => exact readConfig_valid hread
  case h_2 => cases hread

theorem probedConfig_valid (hread : surroundings.probedConfig = .ok config) : config.Valid := by
  unfold probedConfig at hread
  split at hread
  case h_1 => exact readConfig_valid hread
  case h_2 => cases hread

theorem config_valid (hread : surroundings.config = .ok config) : config.Valid := by
  unfold Surroundings.config at hread
  split at hread
  case h_1 henvironment =>
    cases hread
    exact (environmentConfig_eq_ok_iff.1 henvironment).2
  case h_2 => exact probedConfig_valid hread

/-! ## Variables that hold a configuration -/

def HoldsText (surroundings : Surroundings) (key text : String) : Prop :=
  surroundings.environment.lookup (variablePrefix ++ key) = some (Text.utf8 text)

/-- A variable is set to a number in decimal, with or without white space around it. -/
def HoldsNumber (surroundings : Surroundings) (key : String) (n : Nat) : Prop :=
  ∃ text, surroundings.HoldsText key text ∧ Text.Padded text n

/-- The variables hold the settings of a configuration that there are variables for. -/
structure Holds (surroundings : Surroundings) (config : Config) : Prop where
  apiUrl : surroundings.HoldsText "API_URL" config.apiUrl
  username : surroundings.HoldsText "USERNAME" config.login.username
  password : surroundings.HoldsText "PASSWORD" config.login.password
  clientId : surroundings.HoldsText "CLIENT_ID" config.login.clientId
  clientSecret : surroundings.HoldsText "CLIENT_SECRET" config.login.clientSecret
  maxRetries : surroundings.HoldsNumber "MAX_RETRIES" config.maxRetries.toNat
  requestTimeout : surroundings.HoldsNumber "REQUEST_TIMEOUT_MS" config.requestTimeout.millis
  refreshMargin : surroundings.HoldsNumber "REFRESH_OFFSET_MS" config.refreshMargin.millis
  freshBuffer : surroundings.HoldsNumber "FRESH_BUFFER_MS" config.freshBuffer.millis
  userAgent : surroundings.HoldsText "USER_AGENT" config.userAgent

theorem HoldsNumber.sets {key : String} {bits n : Nat} {α : Type} {make : Nat → α}
    (hholds : surroundings.HoldsNumber key n) (hrange : n < Nat.pow 2 bits) (default : α) :
    surroundings.Sets bits key make default (make n) := by
  obtain ⟨text, htext, hpadded⟩ := hholds
  have hnumber : Text.Decimal (Text.trim text).toList n := by
    rw [hpadded.trim_eq]
    exact Text.decimal_toDigits n
  exact ⟨some n, .number ⟨htext, hpadded.isBlank_eq⟩ hnumber hrange, rfl⟩

theorem HoldsNumber.setsMillis {key : String} {d : Duration}
    (hholds : surroundings.HoldsNumber key d.millis) (hwhole : d.Whole) (default : Duration) :
    surroundings.Sets 64 key .ofMillis default d := by
  have hrange : d.millis < Nat.pow 2 64 := Nat.lt_succ_of_le hwhole.millis_le
  have hsets : surroundings.Sets 64 key .ofMillis default (.ofMillis d.millis) :=
    hholds.sets hrange default
  rwa [hwhole.ofMillis_millis] at hsets

theorem Holds.describes (hholds : surroundings.Holds config) (hvalid : config.Valid)
    (hwhole : config.Whole) (hconnect : config.connectTimeout = Config.defaults.connectTimeout)
    (hidle : config.idleConnections = Config.defaults.idleConnections) :
    surroundings.Describes config := by
  obtain ⟨husername, hpassword, hid, hsecret⟩ :
      Text.isBlank config.login.username = false ∧ Text.isBlank config.login.password = false ∧
        Text.isBlank config.login.clientId = false ∧
        Text.isBlank config.login.clientSecret = false := by
    simpa [Config.loginParts] using hvalid.login
  have hretries : surroundings.Sets 32 "MAX_RETRIES" .ofNat Config.defaults.maxRetries
      (.ofNat config.maxRetries.toNat) :=
    hholds.maxRetries.sets config.maxRetries.toNat_lt Config.defaults.maxRetries
  rw [UInt32.ofNat_toNat] at hretries
  exact {
    apiUrl := ⟨hholds.apiUrl, hvalid.apiUrl_not_blank⟩
    username := ⟨hholds.username, husername⟩
    password := ⟨hholds.password, hpassword⟩
    clientId := ⟨hholds.clientId, hid⟩
    clientSecret := ⟨hholds.clientSecret, hsecret⟩
    maxRetries := hretries
    requestTimeout := hholds.requestTimeout.setsMillis hwhole.requestTimeout _
    refreshMargin := hholds.refreshMargin.setsMillis hwhole.refreshMargin _
    freshBuffer := hholds.freshBuffer.setsMillis hwhole.freshBuffer _
    userAgent := .inl ⟨hholds.userAgent, hvalid.userAgent⟩
    connectTimeout := hconnect
    idleConnections := hidle }

/-- Variables that hold a valid configuration, and a file that holds its JSON text, both give that
configuration back.  An environment gives a configuration exactly if its variables can be read,
which makes them describe one configuration, and that one is valid.  And whatever comes from the
environment or from a file is valid. -/
theorem sources_agree :
    (∀ config : Config, config.validate = .ok () → config.Whole →
      config.connectTimeout = Config.defaults.connectTimeout →
      config.idleConnections = Config.defaults.idleConnections →
        (∀ surroundings : Surroundings, surroundings.Holds config →
          surroundings.environmentConfig = .ok config) ∧
        ∀ (surroundings : Surroundings) (path : String), ".json".toList <:+ path.toList →
          surroundings.files.lookup surroundings.workingDirectory path =
            some (.file config.toJson.octets) →
          surroundings.fileConfig path = .ok config) ∧
    (∀ surroundings : Surroundings, (∃ config, surroundings.environmentConfig = .ok config) ↔
      surroundings.Readable ∧
        ∀ config, surroundings.Describes config → config.validate = .ok ()) ∧
    (∀ surroundings : Surroundings, surroundings.Readable ↔
      ∃! config, surroundings.Describes config) ∧
    (∀ (surroundings : Surroundings) config, surroundings.environmentConfig = .ok config →
      surroundings.Describes config) ∧
    ∀ (surroundings : Surroundings) config,
      (surroundings.config = .ok config ∨ surroundings.environmentConfig = .ok config ∨
        surroundings.probedConfig = .ok config ∨
        ∃ path, surroundings.fileConfig path = .ok config) → config.validate = .ok () := by
  refine ⟨fun config hvalid hwhole hconnect hidle => ?_, fun surroundings => ?_,
    fun surroundings => readable_iff,
    fun surroundings config hread => (environmentConfig_eq_ok_iff.1 hread).1,
    fun surroundings config hread => Config.validate_eq_ok_iff.2 ?_⟩
  · rw [Config.validate_eq_ok_iff] at hvalid
    exact ⟨fun surroundings hholds => environmentConfig_eq_ok_iff.2
        ⟨hholds.describes hvalid hwhole hconnect hidle, hvalid⟩,
      fun surroundings path hpath hfile => fileConfig_octets hvalid hwhole hpath hfile⟩
  · simp only [Config.validate_eq_ok_iff]
    exact environmentConfig_succeeds_iff
  · rcases hread with hread | hread | hread | ⟨path, hread⟩
    · exact config_valid hread
    · exact (environmentConfig_eq_ok_iff.1 hread).2
    · exact probedConfig_valid hread
    · exact fileConfig_valid hread

/-- Both sources at once, with white space around a number. -/
theorem sources_agree_side_by_side :
    let config : Config :=
      { apiUrl := "https://api.test/v1", login := ⟨"user", "secret", "id", "key"⟩, maxRetries := 5,
        freshBuffer := .ofMillis 250 }
    let surroundings : Surroundings := {
      environment := [("GRAPHLINK_API_URL", Text.utf8 "https://api.test/v1"),
        ("GRAPHLINK_USERNAME", Text.utf8 "user"), ("GRAPHLINK_PASSWORD", Text.utf8 "secret"),
        ("GRAPHLINK_CLIENT_ID", Text.utf8 "id"), ("GRAPHLINK_CLIENT_SECRET", Text.utf8 "key"),
        ("GRAPHLINK_MAX_RETRIES", Text.utf8 " 5\n"),
        ("GRAPHLINK_REQUEST_TIMEOUT_MS", Text.utf8 "30000"),
        ("GRAPHLINK_REFRESH_OFFSET_MS", Text.utf8 "30000"),
        ("GRAPHLINK_FRESH_BUFFER_MS", Text.utf8 "250"),
        ("GRAPHLINK_USER_AGENT", Text.utf8 "graphlink 0.1.0")]
      files := ⟨[(["srv", "client.json"], .file config.toJson.octets)]⟩
      workingDirectory := ["srv"] }
    surroundings.environmentConfig = .ok config ∧
      surroundings.fileConfig "client.json" = .ok config := by
  intro config surroundings
  have hvalid : config.validate = .ok () := by decide +kernel +zetaReduce
  have hwhole : config.Whole :=
    ⟨Duration.ofMillis_whole (by decide), Duration.ofMillis_whole (by decide),
      Duration.ofMillis_whole (by decide), Duration.ofMillis_whole (by decide)⟩
  have hretries : Text.Padded " 5\n" 5 :=
    ⟨[' '], ['\n'], by decide, List.forall_mem_singleton.2 rfl, List.forall_mem_singleton.2 rfl⟩
  have hlong : Text.Padded "30000" (Duration.ofMillis 30000).millis :=
    ⟨[], [], by decide, nofun, nofun⟩
  have hshort : Text.Padded "250" (Duration.ofMillis 250).millis :=
    ⟨[], [], by decide, nofun, nofun⟩
  obtain ⟨henvironment, hfile⟩ := sources_agree.1 config hvalid hwhole rfl rfl
  exact ⟨henvironment surroundings {
      apiUrl := rfl
      username := rfl
      password := rfl
      clientId := rfl
      clientSecret := rfl
      maxRetries := ⟨_, rfl, hretries⟩
      requestTimeout := ⟨_, rfl, hlong⟩
      refreshMargin := ⟨_, rfl, hlong⟩
      freshBuffer := ⟨_, rfl, hshort⟩
      userAgent := rfl }, hfile surroundings "client.json" (by decide) rfl⟩

end Surroundings
end BearerClient
