import BearerClient.Reply
import BearerClient.Text.Integer

/-!
# Classifying responses

What a response means for the call it answers.  A body that was lost is always fatal; statuses
from 200 to 399 are successes; a 401 from the API may be retried while there are attempts left;
all else is a failure.  Its message and code come from a JSON error body, which carries them in an
`error` member or at its top level, and otherwise the message names the status.
-/

namespace BearerClient

open Json

/-- A message for people and a code of the backend. -/
structure ErrorDetails where
  message : String
  code : Option Int64
  deriving Repr, DecidableEq

namespace ErrorDetails

/-- The message for a status about which the body says nothing. -/
def fallbackMessage (status : UInt16) : String := "HttpResponse code " ++ toString status.toNat

/-- Message and code as they stand in a body. -/
structure Payload where
  message : Option String := none
  code : Option Value := none

def Payload.record : Record (Option String × Option Value × Unit) :=
  .field (.withDefault "message" Decoder.text.optional none) <|
  .field (.withDefault "code" Decoder.any.optional none) .done

def Payload.decoder : Decoder Payload :=
  record.decoder.map fun (message, code, ()) => ⟨message, code⟩

/-- A body while its members arrive: the `error` member, and all others as they stand. -/
structure Envelope where
  error : Option (Option Payload) := none
  others : List (String × Value) := []

/-- One more member of a body. -/
def Envelope.member (depth : Nat) (key : String) (envelope : Envelope) : Reader Envelope :=
  if key = "error" then
    match envelope.error with
    | some _ => fail (.duplicateField "error")
    | none => do
      colon
      let payload ← Payload.decoder.optional.read depth
      return { envelope with error := some payload }
  else do
    colon
    let value ← readValue depth
    return { envelope with others := envelope.others ++ [(key, value)] }

/-- The payload of a body: that of its `error` member, or else its own.  Its own has to be well
formed either way. -/
def Envelope.payload (envelope : Envelope) : Except Fault Payload := do
  let (message, code, ()) ← Payload.record.ofMembers envelope.others
  .ok ((envelope.error.getD none).getD ⟨message, code⟩)

def readEnvelope (depth : Nat) : Reader Payload := do
  match ← Scan.peek with
  | some 0x7B => Decoder.inside depth fun depth => do
    Scan.drop
    let envelope ← readMembers (Envelope.member depth) {}
    let payload ← fun input => envelope.payload.map (·, input)
    closeObject
    return payload
  | _ => fail .invalidType

/-- A code given as a number, or as a text around whose digits there may be white space. -/
def codeOf : Value → Option Int64
  | .number (.int n) => if Text.minInt64 ≤ n ∧ n ≤ Text.maxInt64 then some (Int64.ofInt n) else none
  | .string text =>
    match Text.readInt64 (Text.trim text) with
    | .ok n => some (Int64.ofInt n)
    | .error _ => none
  | _ => none

/-- The payload of an error body; nothing where the body is not JSON or not of that shape. -/
def payloadOf (isJson : Bool) (body : Bytes) : Payload :=
  if isJson then
    match readAll (readEnvelope maxDepth) body with
    | .ok payload => payload
    | .error _ => {}
  else {}

/-- What the body of a failed response says. -/
def ofBody (status : UInt16) (isJson : Bool) (body : Bytes) : ErrorDetails :=
  let payload := payloadOf isJson body
  { message := (payload.message.filter fun text => !Text.isBlank text).getD (fallbackMessage status)
    code := payload.code.bind codeOf }

end ErrorDetails

/-- What a response of the API means. -/
inductive Outcome where
  | success (reply : Reply)
  /-- a 401 with attempts left -/
  | retryable (details : ErrorDetails)
  | fatal (failure : Failure)

namespace Wire.Response

def isSuccess (status : UInt16) : Bool := 200 ≤ status && status < 400

/-- As much of a failed response's body as a failure keeps. -/
def snippetLength : Nat := 512

def snippet (body : Bytes) : Option String :=
  if body.isEmpty then none
  else some (String.ofList ((Text.Utf8.decodeLossy body).toList.take snippetLength))

def details (response : Response) (body : Bytes) : ErrorDetails :=
  .ofBody response.status response.isJson body

/-- Classifies a response of the API, with a number of further attempts allowed. -/
def classify (response : Response) (retriesLeft : Nat) : Outcome :=
  match response.body with
  | .error source => .fatal (.transport (some response.status) source)
  | .ok body =>
    if isSuccess response.status then .success ⟨response.status, response.headers, body⟩
    else
      let details := response.details body
      if response.status = 401 then
        if 0 < retriesLeft then .retryable details
        else .fatal (.unauthorized details.message details.code)
      else .fatal (.http response.status details.message details.code (snippet body))

/-- Classifies a response of a credential endpoint, which is never retried. -/
def classifyCredential (response : Response) : Except Failure Reply :=
  match response.body with
  | .error source => .error (.transport (some response.status) source)
  | .ok body =>
    if isSuccess response.status then .ok ⟨response.status, response.headers, body⟩
    else
      let details := response.details body
      if response.status = 401 then .error (.unauthorized details.message details.code)
      else .error (.authentication (some response.status) details.message details.code)

end Wire.Response
end BearerClient
