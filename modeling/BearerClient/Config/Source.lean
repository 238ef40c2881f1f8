import BearerClient.Config.Codec
import BearerClient.Config.Toml
import BearerClient.FileTree
import BearerClient.Text.Integer

/-!
# Where configurations come from

A configuration is taken from environment variables, or else from a file.  The file is looked for
in the working directory and the two directories above it.  Whatever the source, the configuration
is checked before it is handed out.
-/

namespace BearerClient

/-- What a configuration is taken from. -/
structure Surroundings where
  /-- environment variables; their values need not be text -/
  environment : List (String × Bytes)
  files : FileTree
  workingDirectory : Location

namespace Surroundings

/-! ## Environment variables -/

def variablePrefix : String := "GRAPHLINK_"

/-- The value of a variable.  One that is blank or no text counts as not set. -/
def value? (surroundings : Surroundings) (key : String) : Option String :=
  Credential.nonBlank <|
    (surroundings.environment.lookup (variablePrefix ++ key)).bind Text.Utf8.decode?

def requiredVariable (surroundings : Surroundings) (key : String) : Except Failure String :=
  match surroundings.value? key with
  | some value => .ok value
  | none => .error (.config ("Missing required environment variable: " ++ variablePrefix ++ key))

/-- The value of a numeric variable, white space around it aside. -/
def naturalVariable (surroundings : Surroundings) (bits : Nat) (key : String) :
    Except Failure (Option Nat) :=
  match surroundings.value? key with
  | none => .ok none
  | some text =>
    match Text.readUnsigned bits (Text.trim text) with
    | .ok n => .ok (some n)
    | .error fault =>
      .error (.config ("Invalid value for " ++ variablePrefix ++ key ++ ": " ++ fault.message))

/-- The value of a variable in milliseconds. -/
def durationVariable (surroundings : Surroundings) (key : String) :
    Except Failure (Option Duration) :=
  (·.map .ofMillis) <$> surroundings.naturalVariable 64 key

/-- The configuration that the environment variables hold. -/
def environmentConfig (surroundings : Surroundings) : Except Failure Config := do
  let apiUrl ← surroundings.requiredVariable "API_URL"
  let username ← surroundings.requiredVariable "USERNAME"
  let password ← surroundings.requiredVariable "PASSWORD"
  let clientId ← surroundings.requiredVariable "CLIENT_ID"
  let clientSecret ← surroundings.requiredVariable "CLIENT_SECRET"
  let config ← Config.new apiUrl ⟨username, password, clientId, clientSecret⟩
  let maxRetries ← surroundings.naturalVariable 32 "MAX_RETRIES"
  let requestTimeout ← surroundings.durationVariable "REQUEST_TIMEOUT_MS"
  let refreshMargin ← surroundings.durationVariable "REFRESH_OFFSET_MS"
  let freshBuffer ← surroundings.durationVariable "FRESH_BUFFER_MS"
  let config := { config with
    maxRetries := (maxRetries.map UInt32.ofNat).getD config.maxRetries
    requestTimeout := requestTimeout.getD config.requestTimeout
    refreshMargin := refreshMargin.getD config.refreshMargin
    freshBuffer := freshBuffer.getD config.freshBuffer
    userAgent := (surroundings.value? "USER_AGENT").getD config.userAgent }
  config.validate
  return config

/-! ## Files -/

/-- The formats of configuration files. -/
inductive Format where
  | json
  | toml
  deriving DecidableEq

/-- The format of a file, which its extension tells; without one it is JSON. -/
def formatOf (path : String) : Except Failure Format :=
  match (FileTree.fileName? path).bind FileTree.extension? with
  | some "toml" => .ok .toml
  | some "json" | none => .ok .json
  | some other => .error (.config ("Unsupported config format: " ++ other))

/-- The configuration that a text holds. -/
def parseConfig (text : String) : Format → Except Failure Config
  | .json =>
    match Config.decoder.run (Text.utf8 text) with
    | .ok config => .ok config
    | .error fault => .error (.config ("Invalid JSON format: " ++ fault.message))
  | .toml =>
    match Config.ofToml text with
    | .ok config => .ok config
    | .error fault => .error (.config ("Invalid TOML format: " ++ fault.message))

def unreadable (reason : String) : Failure := .config ("Failed to read config file: " ++ reason)

/-- The text of what was found where a file was looked for. -/
def readText : FileTree.Entry → Except Failure String
  | .directory => .error (unreadable "Is a directory (os error 21)")
  | .file contents =>
    match Text.Utf8.decode? contents with
    | some text => .ok text
    | none => .error (unreadable "stream did not contain valid UTF-8")
  | .locked reason => .error (unreadable reason)

/-- The configuration in what was found under a path. -/
def readConfig (path : String) (entry : FileTree.Entry) : Except Failure Config := do
  let text ← readText entry
  let config ← parseConfig text (← formatOf path)
  config.validate
  return config

/-- The names of configuration files, the preferred ones first. -/
def fileNames : List String := ["graphlink.json", "graphlink.toml", "config.json", "config.toml"]

/-- The directories in which a configuration file is looked for. -/
def searchedDirectories (surroundings : Surroundings) : List Location :=
  let directory := surroundings.workingDirectory
  ((List.range 3).filter (· ≤ directory.length)).map fun above =>
    directory.take (directory.length - above)

/-- The places at which a configuration file is looked for. -/
def candidates (surroundings : Surroundings) : List Location :=
  surroundings.searchedDirectories.flatMap fun directory =>
    fileNames.map fun name => directory ++ [name]

/-- A regular file at a place. -/
def fileAt? (surroundings : Surroundings) (location : Location) : Option FileTree.Entry :=
  (surroundings.files.entry? location).filter FileTree.Entry.isFile

/-- The first configuration file. -/
def probe (surroundings : Surroundings) : Option Location :=
  surroundings.candidates.find? fun location => (surroundings.fileAt? location).isSome

def noFile : Failure := .config "No config file found in any of the standard locations"

/-- The configuration in the first configuration file. -/
def probedConfig (surroundings : Surroundings) : Except Failure Config :=
  match surroundings.candidates.findSome? fun location =>
      (surroundings.fileAt? location).map (location, ·) with
  | some (location, file) => readConfig (location.getLast?.getD "") file
  | none => .error noFile

/-- The configuration in the file under a path. -/
def fileConfig (surroundings : Surroundings) (path : String) : Except Failure Config :=
  match surroundings.files.lookup surroundings.workingDirectory path with
  | some entry => readConfig path entry
  | none => .error (.config ("Config file not found: " ++ path))

/-- The configuration that the surroundings hold, in environment variables or else in a file. -/
def config (surroundings : Surroundings) : Except Failure Config :=
  match surroundings.environmentConfig with
  | .ok config => .ok config
  | .error _ => surroundings.probedConfig

end Surroundings
end BearerClient
