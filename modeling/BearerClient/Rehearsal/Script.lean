import BearerClient.Credential.Answer
import BearerClient.Json.Writer
import BearerClient.Program
import BearerClient.Wire.Target

/-!
# Scripts

A backend for rehearsals that answers from a script.  The script has a list of lines for each
endpoint, which are used in order; the last line of a list is used again and again.  An endpoint
without a list has that of `*`.
-/

namespace BearerClient

namespace Rehearsal

/-- When a scripted token expires. -/
inductive Expiry where
  /-- a number of milliseconds after it was given out -/
  | after (millis : Int)
  /-- a number of milliseconds since the epoch -/
  | fixed (millis : Int)

/-- One answer of a script. -/
inductive Line where
  | fault (fault : TransportFault)
  /-- A token.  In its texts, `{n}` stands for the number of the answer. -/
  | token (token refreshToken : Option String) (expiry : Option Expiry)
  | json (status : UInt16) (value : Json.Value)
  | plain (status : UInt16) (text : String)
  | response (response : Wire.Response)

/-- The lines of each endpoint. -/
structure Script where
  lists : List (String × List Line)

/-- Where a rehearsal stands: its time, and whose lines the answers so far were. -/
structure Stage where
  now : Instant
  answered : List String := []

/-- Puts a number in the place of each mark for it. -/
def numbered (number : Nat) : List Char → List Char
  | '\x7b' :: 'n' :: '\x7d' :: rest => Nat.toDigits 10 number ++ numbered number rest
  | c :: rest => c :: numbered number rest
  | [] => []

def numberedText (number : Nat) (text : Option String) : Json.Value :=
  match text with
  | some text => .string (String.ofList (numbered number text.toList))
  | none => .null

/-- A response with a content type. -/
def respond (status : UInt16) (type : String) (body : String) : Wire.Response where
  status
  headers := Headers.empty.insert "content-type" { octets := Text.utf8 type }
  body := .ok (Text.utf8 body)

def respondJson (status : UInt16) (value : Json.Value) : Wire.Response :=
  respond status "application/json" value.sorted.text

/-- What a line answers as the answer of some number. -/
def Line.answer (now : Instant) (number : Nat) : Line → Except TransportFault Wire.Response
  | fault source => .error source
  | token text refreshToken expiry =>
    let expiresAt : Json.Value := match expiry with
      | some (.after millis) => .int (now.millis + millis)
      | some (.fixed millis) => .int millis
      | none => .null
    .ok (respondJson 200 (.object [("token", numberedText number text),
      ("expires_at", expiresAt), ("refresh_token", numberedText number refreshToken)]))
  | json status body => .ok (respondJson status body)
  | plain status body => .ok (respond status "text/plain" body)
  | response whole => .ok whole

namespace Script

/-- What an endpoint without any lines answers. -/
def silence : Line := .response ⟨200, {}, .ok []⟩

/-- The list that a request is answered from. -/
def listFor (script : Script) (request : Wire.Request) : String :=
  ((script.lists.map (·.1)).find? request.targets).getD "*"

/-- The line after a number of lines of a list. -/
def line (script : Script) (list : String) (used : Nat) : Line :=
  let lines := (script.lists.lookup list).getD []
  ((lines[used]?).or lines.getLast?).getD silence

/-- Answers a request. -/
def answer (script : Script) (stage : Stage) (request : Wire.Request) :
    Except TransportFault Wire.Response × Stage :=
  let list := script.listFor request
  let line := script.line list (stage.answered.count list)
  (line.answer stage.now (stage.answered.length + 1),
    { stage with answered := list :: stage.answered })

/-- The script as a backend, whose clock moves while a program waits. -/
def backend (script : Script) : Backend Stage where
  now stage := (stage.now, stage)
  send := script.answer
  wait stage time := { stage with now := stage.now.later time }

end Script
end Rehearsal
end BearerClient
