import BearerClient.Url.Host
import BearerClient.Url.Path

/-!
# URLs

Reading an absolute URL.  Controls and spaces around it are dropped, and so are tabs and line
breaks anywhere in it.  Some schemes are *special*: their URLs have a host, a backslash counts as a
slash in them, and any number of slashes may stand before the host.
-/

namespace BearerClient

/-- The host part of a URL and what goes with it. -/
structure Url.Authority where
  username : List Char := []
  password : List Char := []
  host : Url.Host
  /-- the port, unless it is the one that the scheme implies -/
  port : Option Nat := none
  deriving Repr, DecidableEq

structure Url where
  scheme : String
  authority : Option Url.Authority
  path : Url.Path
  query : Option (List Char) := none
  fragment : Option (List Char) := none
  deriving Repr, DecidableEq

namespace Url

/-! ## Schemes -/

def isSchemeChar (c : Char) : Bool :=
  c.isAlphanum || c = '+' || c = '-' || c = '.'

/-- A scheme in lower case and what follows its colon. -/
def splitScheme : List Char → Option (String × List Char)
  | [] => none
  | c :: rest =>
    if c.isAlpha then
      match (c :: rest).dropWhile isSchemeChar with
      | ':' :: after =>
        some (String.ofList (((c :: rest).takeWhile isSchemeChar).map Char.toLower), after)
      | _ => none
    else none

/-- The port that a scheme implies. -/
def defaultPort (scheme : String) : Option Nat :=
  match scheme with
  | "http" | "ws" => some 80
  | "https" | "wss" => some 443
  | "ftp" => some 21
  | _ => none

def isSpecial (scheme : String) : Bool := (defaultPort scheme).isSome || scheme == "file"

def isSlash (special : Bool) (c : Char) : Bool := c = '/' || (special && c = '\\')

/-- What ends an authority. -/
def endsAuthority (special : Bool) (c : Char) : Bool :=
  isSlash special c || c = '?' || c = '#'

/-! ## Authorities -/

/-- Splits at the last `@`. -/
def splitUserinfo (text : List Char) : Option (List Char × List Char) :=
  match text.reverse.dropWhile (· ≠ '@') with
  | [] => none
  | _ :: before => some (before.reverse, (text.reverse.takeWhile (· ≠ '@')).reverse)

/-- The host and the rest, which starts with the colon before a port or is empty; a colon inside
brackets belongs to the host. -/
def splitHost : (inBrackets : Bool) → List Char → List Char × List Char
  | _, [] => ([], [])
  | inBrackets, c :: rest =>
    if c = ':' ∧ inBrackets = false then ([], c :: rest)
    else
      let inBrackets := if c = '[' then true else if c = ']' then false else inBrackets
      let (host, after) := splitHost inBrackets rest
      (c :: host, after)

/-- The number of a port; no digits at all say nothing. -/
def portNumber (digits : List Char) : Except Fault (Option Nat) :=
  if digits.isEmpty then .ok none
  else if digits.all Char.isDigit then
    match numeral? 10 digits with
    | some n => if n < 65536 then .ok (some n) else .error .port
    | none => .error .port
  else .error .port

/-- A port after the host.  The one that the scheme implies is left out. -/
def portOf (scheme : String) : List Char → Except Fault (Option Nat)
  | ':' :: digits => do
    let port ← portNumber digits
    .ok (if port = defaultPort scheme then none else port)
  | _ => .ok none

/-- Reads an authority.  `followed` tells whether anything comes after it. -/
def authorityOf (scheme : String) (followed : Bool) (text : List Char) :
    Except Fault Authority := do
  let special := isSpecial scheme
  let (userinfo, place) := (splitUserinfo text).getD ([], text)
  if (splitUserinfo text).isSome ∧ userinfo.isEmpty ∧ place.isEmpty ∧ followed then
    .error .emptyHost
  else
    let username := encode userinfoSet (userinfo.takeWhile (· ≠ ':'))
    let password := encode userinfoSet ((userinfo.dropWhile (· ≠ ':')).drop 1)
    let (hostText, portText) := splitHost false place
    if special ∧ hostText.isEmpty then .error .emptyHost
    else
      let host ← if special then Host.ofText hostText else Host.ofOther hostText
      if host = .domain [] ∧ !portText.isEmpty then .error .emptyHost
      else
        let port ← portOf scheme portText
        if host = .domain [] ∧ !(username.isEmpty && password.isEmpty) then .error .emptyHost
        else .ok { username, password, host, port }

/-! ## What follows the path -/

/-- The text before a query or fragment, and that query or fragment. -/
def splitPath (text : List Char) : List Char × List Char :=
  (text.takeWhile fun c => c ≠ '?' && c ≠ '#', text.dropWhile fun c => c ≠ '?' && c ≠ '#')

/-- Adds a query and a fragment to a URL. -/
def withRest (url : Url) (rest : List Char) : Url :=
  let set := if isSpecial url.scheme then specialQuerySet else querySet
  let fragment := match rest.dropWhile (· ≠ '#') with
    | [] => none
    | _ :: text => some (encode fragmentSet text)
  let query := match rest.takeWhile (· ≠ '#') with
    | '?' :: text => some (encode set text)
    | _ => none
  { url with query, fragment }

/-! ## Reading -/

/-- The path after an authority. -/
def pathAfterAuthority (special : Bool) (text : List Char) : Path :=
  match text with
  | [] => if special then .rooted [[]] else .rooted []
  | c :: rest =>
    .rooted (segments (isSlash special) (if isSlash special c then rest else c :: rest))

/-- A URL from what stands after the slashes before its authority. -/
def afterSlashes (scheme : String) (text : List Char) : Except Fault Url := do
  let special := isSpecial scheme
  let authorityText := text.takeWhile fun c => !endsAuthority special c
  let rest := text.dropWhile fun c => !endsAuthority special c
  let authority ← authorityOf scheme (!rest.isEmpty) authorityText
  let (pathText, rest) := splitPath rest
  .ok ({ scheme, authority := some authority,
         path := pathAfterAuthority special pathText : Url }.withRest rest)

/-- A URL of a scheme without meaning for hosts. -/
def otherUrl (scheme : String) (text : List Char) : Except Fault Url :=
  match text with
  | '/' :: '/' :: rest => afterSlashes scheme rest
  | _ =>
    let (pathText, rest) := splitPath text
    let path : Path := match pathText with
      | '/' :: below => .rooted (segments (isSlash false) below)
      | _ => .rootless (encode controlSet pathText)
    .ok ({ scheme, authority := none, path : Url }.withRest rest)

/-- Segments of a file path: empty ones at the front go, and a drive letter is followed by a
colon. -/
def fileSegments (text : List Char) : List (List Char) :=
  let raw := segments (isSlash true) text
  let drive : List (List Char) := match raw with
    | [letter, '|'] :: rest => if letter.isAlpha then [letter, ':'] :: rest else raw
    | _ => raw
  match drive.dropWhile List.isEmpty with
  | [] => [[]]
  | segments => segments

/-- The host of a file; that it is on this machine says nothing. -/
def fileHost (text : List Char) : Except Fault Host :=
  if text.isEmpty then .ok (.domain [])
  else do
    let host ← Host.ofText text
    .ok (if host = .domain "localhost".toList then .domain [] else host)

def fileUrl (text : List Char) : Except Fault Url := do
  let slash := isSlash true
  let make (host : Host) (pathText : List Char) : Url :=
    let (path, rest) := splitPath pathText
    let below := match path with
      | c :: below => if slash c then below else path
      | [] => []
    { scheme := "file", authority := some { host }, path := .rooted (fileSegments below) : Url }
      |>.withRest rest
  match text with
  | a :: b :: rest =>
    if slash a && slash b then
      let hostText := rest.takeWhile fun c => !endsAuthority true c
      if isDrive hostText then .ok (make (.domain []) rest)
      else
        let host ← fileHost hostText
        .ok (make host (rest.drop hostText.length))
    else .ok (make (.domain []) text)
  | _ => .ok (make (.domain []) text)

/-- What is dropped from both ends of a URL. -/
def isOuter (c : Char) : Bool := c.toNat ≤ 0x20

/-- What is dropped anywhere. -/
def isInner (c : Char) : Bool := c = '\t' || c = '\n' || c = '\x0d'

def stripped (text : List Char) : List Char :=
  ((text.dropWhile isOuter).reverse.dropWhile isOuter).reverse.filter fun c => !isInner c

/-- Reads characters as a URL. -/
def ofChars (text : List Char) : Except Fault Url :=
  match splitScheme (stripped text) with
  | none => .error .relative
  | some (scheme, after) =>
    if scheme = "file" then fileUrl after
    else if isSpecial scheme then afterSlashes scheme (after.dropWhile (isSlash true))
    else otherUrl scheme after

def parse (text : String) : Except Fault Url := ofChars text.toList

def parse? (text : String) : Option Url := (parse text).toOption

/-! ## Text -/

def Authority.text (authority : Authority) : List Char :=
  let userinfo := authority.username ++
    (if authority.password.isEmpty then [] else ':' :: authority.password)
  (if userinfo.isEmpty then [] else userinfo ++ ['@']) ++ authority.host.text ++
    (match authority.port with
     | none => []
     | some port => ':' :: Nat.toDigits 10 port)

/-- The normal form of a URL. -/
def text (url : Url) : String :=
  let place := match url.authority with
    | some authority => '/' :: '/' :: authority.text
    | none =>
      match url.path.text with
      | '/' :: '/' :: _ => ['/', '.']
      | _ => []
  let after (mark : Char) : Option (List Char) → List Char
    | none => []
    | some text => mark :: text
  url.scheme ++ String.ofList
    (':' :: place ++ url.path.text ++ after '?' url.query ++ after '#' url.fragment)

end Url
end BearerClient
