import BearerClient.Url
import BearerClient.Wire

/-!
# Targets

The endpoint that a request goes to, read off its URL: the last segment of the path, whatever root
the API has.
-/

namespace BearerClient.Wire.Request

/-- The path of the URL, if it is one. -/
def path? (request : Request) : Option String :=
  (Url.parse? request.url).map fun url => String.ofList url.path.text

/-- The last segment of a path.  Slashes at its end do not count. -/
def lastSegment (path : String) : String :=
  String.ofList ((path.toList.reverse.dropWhile (· = '/')).takeWhile (· ≠ '/')).reverse

/-- Whether the request goes to an endpoint. -/
def targets (request : Request) (endpoint : String) : Bool :=
  match request.path? with
  | some path => lastSegment path = endpoint
  | none => false

end BearerClient.Wire.Request
