import BearerClient.Url

/-!
# Origins

The origin of a URL: scheme, host and port, the port being the one the scheme implies where none
is given.  Only URLs of schemes whose hosts have a meaning have an origin to share; all others
have one of their own, which equals no other.  The origin of a `blob` URL is that of the URL inside
it.
-/

namespace BearerClient

structure Url.Origin where
  scheme : String
  host : Url.Host
  port : Nat
  deriving Repr, DecidableEq

namespace Url

/-- The origin of a URL that names one itself. -/
def directOrigin (url : Url) : Option Origin :=
  match defaultPort url.scheme, url.authority with
  | some port, some authority => some ⟨url.scheme, authority.host, authority.port.getD port⟩
  | _, _ => none

/-- The origin of a URL with at most `depth` URLs inside one another. -/
def originWithin : (depth : Nat) → Url → Option Origin
  | 0, _ => none
  | depth + 1, url =>
    if url.scheme = "blob" then
      match ofChars url.path.text with
      | .ok inner => originWithin depth inner
      | .error _ => none
    else url.directOrigin

/-- The origin that a URL shares with others, if it shares one.  A URL inside another is shorter
than that. -/
def origin (url : Url) : Option Origin := originWithin (url.path.text.length + 1) url

/-- Whether two URLs have one origin. -/
def sameOrigin (a b : Url) : Bool :=
  match a.origin, b.origin with
  | some a, some b => a = b
  | _, _ => false

/-- An origin as text. -/
def originText : Option Origin → String
  | none => "null"
  | some origin =>
    let port := if defaultPort origin.scheme = some origin.port then []
      else ':' :: Nat.toDigits 10 origin.port
    origin.scheme ++ "://" ++ String.ofList (origin.host.text ++ port)

end Url
end BearerClient
