import BearerClient.Failure
import BearerClient.Text.Blank
import BearerClient.Time.Duration
import BearerClient.Wire.Header

/-!
# Messages on the wire

What is handed to a transport, complete with absolute URL, headers and timeout, and what comes
back from it.  The body of a response may have been lost after its status line had arrived.
-/

namespace BearerClient

/-- The payload of a request. -/
inductive Body where
  | empty
  | text (content : String)
  | bytes (octets : Bytes)
  /-- chunks that are handed over once; such a payload cannot be sent again -/
  | stream (chunks : List Bytes)
  deriving Repr, DecidableEq, Inhabited

namespace Body

def isStream : Body → Bool
  | .stream _ => true
  | _ => false

/-- The octets of a payload that is held as a whole. -/
def octets? : Body → Option Bytes
  | .empty => some []
  | .text content => some (Text.utf8 content)
  | .bytes octets => some octets
  | .stream _ => none

/-- A second copy of a payload, which a stream has not. -/
def copy? : Body → Option Body
  | .stream _ => none
  | body => some body

/-- The payload as it is shown: its kind and its length in octets. -/
def shown : Body → String
  | .empty => "Empty"
  | .text content => "Text(" ++ toString (Text.utf8 content).length ++ " bytes)"
  | .bytes octets => "Bytes(" ++ toString octets.length ++ " bytes)"
  | .stream _ => "Stream"

end Body

namespace Wire

structure Request where
  method : String
  url : String
  headers : Headers
  body : Body
  timeout : Duration
  deriving DecidableEq

structure Response where
  status : UInt16
  headers : Headers
  body : Except TransportFault Bytes

namespace Response

def contentType (response : Response) : Option String :=
  (response.headers.first? "content-type").bind HeaderValue.text?

/-- Whether one list of characters occurs inside another. -/
def occursIn (part : List Char) : List Char → Bool
  | [] => part.isEmpty
  | c :: rest => part.isPrefixOf (c :: rest) || occursIn part rest

/-- Whether the content type names a JSON media type. -/
def isJson (response : Response) : Bool :=
  match response.contentType with
  | some type => occursIn "json".toList (Text.lowerAscii type).toList
  | none => false

end Response
end Wire
end BearerClient
