import BearerClient.Json.Writer
import BearerClient.Wire

/-!
# Calls

One call of the API as a caller describes it: a method, a path below the API's root, headers, a
body and settings of its own.  A call is built up step by step.  A header that is not legal is not
added; the first such header is remembered and makes the call fail before anything is sent.
-/

namespace BearerClient

structure ApiCall where
  method : String
  path : String
  headers : Headers := {}
  body : Body := .empty
  /-- the body was set as a JSON value -/
  jsonBody : Bool := false
  /-- no media type is asked for on the caller's behalf -/
  raw : Bool := false
  timeout : Option Duration := none
  maxRetries : Option UInt32 := none
  /-- the first header that was refused -/
  refused : Option HeaderFault := none
  deriving DecidableEq

namespace ApiCall

/-- A call with a method of the caller's own, if that is a method at all. -/
def ofMethod? (method path : String) : Option ApiCall :=
  if validMethod method then some { method, path } else none

def get (path : String) : ApiCall := { method := "GET", path }

def post (path : String) : ApiCall := { method := "POST", path }

def put (path : String) : ApiCall := { method := "PUT", path }

def patch (path : String) : ApiCall := { method := "PATCH", path }

def delete (path : String) : ApiCall := { method := "DELETE", path }

/-- Remembers a refused header unless there was one before. -/
def refuse (call : ApiCall) (fault : HeaderFault) : ApiCall :=
  { call with refused := call.refused.or (some fault) }

/-- Appends a header; an illegal name or value is refused. -/
def header (call : ApiCall) (name : String) (value : Bytes) : ApiCall :=
  match headerName? name with
  | none => call.refuse .name
  | some name =>
    match HeaderValue.ofOctets? value with
    | none => call.refuse (.value name)
    | some value => { call with headers := call.headers.append name value }

/-- Sends a JSON value, with the members of its objects in order of their keys. -/
def json (call : ApiCall) (value : Json.Value) : ApiCall :=
  { call with body := .text value.sorted.text, jsonBody := true }

def withBody (call : ApiCall) (body : Body) : ApiCall := { call with body, jsonBody := false }

def text (call : ApiCall) (content : String) : ApiCall := call.withBody (.text content)

def bytes (call : ApiCall) (octets : Bytes) : ApiCall := call.withBody (.bytes octets)

def asRaw (call : ApiCall) : ApiCall := { call with raw := true }

def withTimeout (call : ApiCall) (timeout : Duration) : ApiCall :=
  { call with timeout := some timeout }

def withMaxRetries (call : ApiCall) (retries : UInt32) : ApiCall :=
  { call with maxRetries := some retries }

/-- A second copy of the call, unless its body is a stream. -/
def copy? (call : ApiCall) : Option ApiCall := call.body.copy?.map fun body => { call with body }

/-- Fails with the first header that was refused. -/
def validate (call : ApiCall) : Except Failure Unit :=
  match call.refused with
  | some fault => .error (.invalidRequest fault.message)
  | none => .ok ()

end ApiCall
end BearerClient
