import BearerClient.Json.Decoder
import BearerClient.Wire

/-!
# Replies

A response with a status from 200 to 399, its body read to the end, and the ways to take the body:
as text, or as JSON of some shape, where a blank body is no value at all.
-/

namespace BearerClient

structure Reply where
  status : UInt16
  headers : Headers
  body : Bytes
  deriving DecidableEq

namespace Reply

/-- Space, tab, line feed, form feed and carriage return. -/
def isBlankOctet (b : UInt8) : Bool :=
  b = 0x20 || b = 0x09 || b = 0x0A || b = 0x0C || b = 0x0D

def isBlank (reply : Reply) : Bool := reply.body.all isBlankOctet

/-- A header as text, if there is one that is text. -/
def header (reply : Reply) (name : String) : Option String :=
  ((headerName? name).bind reply.headers.first?).bind HeaderValue.text?

def text (reply : Reply) : Except Failure String :=
  match Text.Utf8.decode reply.body with
  | .ok text => .ok text
  | .error fault =>
    .error (.decode reply.status ("Response body is not valid UTF-8: " ++ fault.message))

/-- The body as JSON of a shape; nothing for a blank body. -/
def json (reply : Reply) (decoder : Json.Decoder α) : Except Failure (Option α) :=
  if reply.isBlank then .ok none
  else
    match decoder.run reply.body with
    | .ok value => .ok (some value)
    | .error fault => .error (.decode reply.status ("Invalid JSON response: " ++ fault.message))

end Reply
end BearerClient
