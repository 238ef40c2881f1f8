import BearerClient.Failure
import BearerClient.Json.Tagged
import BearerClient.Json.Writer

/-!
# Failures as JSON

A failure is an object with the members `type`, which names its case, and `detail`, which holds
the fields of the case; a cancellation has no detail.
-/

namespace BearerClient

open Json

namespace TransportFault

def Kind.name : Kind → String
  | .timeout => "Timeout"
  | .connect => "Connect"
  | .request => "Request"
  | .body => "Body"
  | .unsupported => "Unsupported"
  | .other => "Other"

def Kind.decoder : Decoder Kind :=
  .oneOf ([.timeout, .connect, .request, .body, .unsupported, .other].map fun kind =>
    (Kind.name kind, kind))

def toJson (fault : TransportFault) : Value :=
  .object [("kind", .string fault.kind.name), ("message", .string fault.message)]

def record : Record (Kind × String × Unit) :=
  .field (.required "kind" Kind.decoder) <| .field (.required "message" .text) .done

def decoder : Decoder TransportFault := record.decoder.map fun (kind, message, ()) => ⟨kind, message⟩

end TransportFault

namespace Failure

/-- The names of the cases. -/
inductive Case where
  | unauthorized
  | authentication
  | http
  | transport
  | retryNeeded
  | decode
  | invalidRequest
  | config
  | cancelled
  deriving Repr, DecidableEq

def Case.name : Case → String
  | .unauthorized => "Unauthorized"
  | .authentication => "AuthenticationFailure"
  | .http => "Http"
  | .transport => "Transport"
  | .retryNeeded => "RetryNeeded"
  | .decode => "Decode"
  | .invalidRequest => "InvalidRequest"
  | .config => "Config"
  | .cancelled => "Cancelled"

def Case.all : List Case :=
  [.unauthorized, .authentication, .http, .transport, .retryNeeded, .decode, .invalidRequest,
   .config, .cancelled]

def case : Failure → Case
  | unauthorized .. => .unauthorized
  | authentication .. => .authentication
  | http .. => .http
  | transport .. => .transport
  | retryNeeded .. => .retryNeeded
  | decode .. => .decode
  | invalidRequest .. => .invalidRequest
  | config .. => .config
  | cancelled => .cancelled

/-! ## Writing -/

def orNull (write : α → Value) : Option α → Value
  | none => .null
  | some a => write a

def statusJson (status : UInt16) : Value := .int status.toNat

def codeJson (code : Int64) : Value := .int code.toInt

/-- The fields of a case. -/
def detail : Failure → Option Value
  | unauthorized message code =>
    some (.object [("message", .string message), ("code", orNull codeJson code)])
  | authentication status message code =>
    some (.object [("status", orNull statusJson status), ("message", .string message),
      ("code", orNull codeJson code)])
  | http status message code body =>
    some (.object [("status", statusJson status), ("message", .string message),
      ("code", orNull codeJson code), ("body", orNull .string body)])
  | transport status source =>
    some (.object [("status", orNull statusJson status), ("source", source.toJson)])
  | retryNeeded status => some (.object [("status", statusJson status)])
  | decode status message =>
    some (.object [("status", statusJson status), ("message", .string message)])
  | invalidRequest message => some (.string message)
  | config message => some (.string message)
  | cancelled => none

def toJson (failure : Failure) : Value :=
  .object (("type", .string failure.case.name) ::
    match failure.detail with
    | some detail => [("detail", detail)]
    | none => [])

/-! ## Reading -/

def statusDecoder : Decoder UInt16 := (Decoder.natural 16).map UInt16.ofNat

def codeDecoder : Decoder Int64 := Decoder.int64.map Int64.ofInt

def statusField : Member UInt16 := .required "status" statusDecoder

def messageField : Member String := .required "message" .text

def codeField : Member (Option Int64) := .nullable "code" codeDecoder

def detailDecoder : Case → Decoder Failure
  | .unauthorized =>
    (Record.field messageField <| .field codeField .done).objectDecoder.map
      fun (message, code, ()) => .unauthorized message code
  | .authentication =>
    (Record.field (.nullable "status" statusDecoder) <| .field messageField <|
        .field codeField .done).objectDecoder.map
      fun (status, message, code, ()) => .authentication status message code
  | .http =>
    (Record.field statusField <| .field messageField <| .field codeField <|
        .field (.nullable "body" .text) .done).objectDecoder.map
      fun (status, message, code, body, ()) => .http status message code body
  | .transport =>
    (Record.field (.nullable "status" statusDecoder) <|
        .field (.required "source" TransportFault.decoder) .done).objectDecoder.map
      fun (status, source, ()) => .transport status source
  | .retryNeeded =>
    (Record.field statusField .done).objectDecoder.map fun (status, ()) => .retryNeeded status
  | .decode =>
    (Record.field statusField <| .field messageField .done).objectDecoder.map
      fun (status, message, ()) => .decode status message
  | .invalidRequest => Decoder.text.map .invalidRequest
  | .config => Decoder.text.map .config
  | .cancelled => Decoder.null.map fun () => .cancelled

def shape : Tagged Case Failure where
  tagName := "type"
  contentName := "detail"
  tag := .oneOf (Case.all.map fun case => (case.name, case))
  content := detailDecoder
  alone
    | .cancelled => some .cancelled
    | _ => none

/-- The failure that a JSON text describes. -/
def ofJson (input : Bytes) : Except Fault Failure := readAll (shape.read maxDepth) input

end Failure
end BearerClient
