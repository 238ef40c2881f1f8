import BearerClient.Credential
import BearerClient.Url.Origin

/-!
# Configuration

What a client needs to know: the root of the API, a login, and a number of settings that have
defaults.  A configuration is checked before it is used; the first thing found wrong is reported.
Paths are resolved against the root of the API, and a call may only go to the API's own origin,
since the bearer token travels with it.
-/

namespace BearerClient

structure Config where
  apiUrl : String
  login : Login
  userAgent : String := "graphlink 0.1.0"
  /-- attempts after the first one when a credential is rejected -/
  maxRetries : UInt32 := 3
  /-- the time allowed for one attempt -/
  requestTimeout : Duration := .ofMillis 30000
  connectTimeout : Duration := .ofMillis 10000
  /-- how long before its expiry a credential is due for renewal -/
  refreshMargin : Duration := .ofMillis 30000
  /-- how long after a renewal another one is refused -/
  freshBuffer : Duration := .ofMillis 2000
  idleConnections : UInt64 := 8
  deriving DecidableEq

namespace Config

/-! ## Checking -/

def invalidApiUrl (config : Config) (fault : Url.Fault) : Failure :=
  .config ("Invalid api_url '" ++ config.apiUrl ++ "': " ++ fault.message)

/-- The root of the API without white space around it. -/
def root (config : Config) : String := Text.trim config.apiUrl

/-- The root of the API as a URL. -/
def rootUrl (config : Config) : Except Failure Url :=
  match Url.parse config.root with
  | .ok url => .ok url
  | .error fault => .error (config.invalidApiUrl fault)

/-- The parts of the login, by the names that messages use. -/
def loginParts (login : Login) : List (String × String) :=
  [("credentials.username", login.username), ("credentials.password", login.password),
   ("credentials.client_id", login.clientId), ("credentials.client_secret", login.clientSecret)]

def require (condition : Bool) (message : String) : Except Failure Unit :=
  if condition then .ok () else .error (.config message)

/-- Every part of the login has to be there. -/
def checkLogin (login : Login) : Except Failure Unit :=
  match (loginParts login).find? fun part => Text.isBlank part.2 with
  | some (name, _) => .error (.config (name ++ " must not be blank"))
  | none => .ok ()

def validate (config : Config) : Except Failure Unit := do
  let url ← config.rootUrl
  require (url.scheme = "http" || url.scheme = "https")
    ("api_url must use http or https, got '" ++ url.scheme ++ "'")
  checkLogin config.login
  require (!config.requestTimeout.isZero) "request_timeout must be greater than zero"
  require (!Text.isBlank config.userAgent) "user_agent must not be blank"

/-- A configuration with defaults for all that is not given, checked. -/
def new (apiUrl : String) (login : Login) : Except Failure Config := do
  let config : Config := { apiUrl, login }
  config.validate
  return config

/-! ## Resolving -/

/-- Whether a path is a whole URL. -/
def isAbsolute (path : List Char) : Bool :=
  "http://".toList.isPrefixOf path || "https://".toList.isPrefixOf path

def isSlash (c : Char) : Bool := c = '/'

/-- A path below the root of the API; a whole URL stays what it is. -/
def endpointUrl (config : Config) (path : String) : String :=
  if isAbsolute path.toList then path
  else
    let root := (config.root.toList.reverse.dropWhile isSlash).reverse
    String.ofList (root ++ '/' :: path.toList.dropWhile isSlash)

def invalidRequestUrl (path : String) (fault : Url.Fault) : Failure :=
  .invalidRequest ("Invalid request URL '" ++ path ++ "': " ++ fault.message)

def foreignOrigin (target api : Url) : Failure :=
  .invalidRequest ("Refusing to send credentials to " ++ Url.originText target.origin ++
    ", outside " ++ Url.originText api.origin)

/-- The target of a call.  A whole URL is accepted only on the API's own origin. -/
def requestUrl (config : Config) (path : String) : Except Failure String :=
  if isAbsolute path.toList then
    match Url.parse path with
    | .error fault => .error (invalidRequestUrl path fault)
    | .ok target => do
      let api ← config.rootUrl
      if target.sameOrigin api then .ok path else .error (foreignOrigin target api)
  else .ok (config.endpointUrl path)

end Config
end BearerClient
