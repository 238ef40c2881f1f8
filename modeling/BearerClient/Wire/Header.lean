import BearerClient.Text.Utf8

/-!
# Headers

Header fields of a message.  Names are tokens and are kept in lower case; they stand in the order
in which they first appeared, each with its values in the order in which they were appended.
Inserting a value replaces all values of its name and leaves the name in its place.
-/

namespace BearerClient

/-- Characters of tokens, which header names and methods consist of. -/
def isTokenChar (c : Char) : Bool :=
  ('0' ≤ c && c ≤ '9') || ('a' ≤ c && c ≤ 'z') || ('A' ≤ c && c ≤ 'Z') ||
    "!#$%&'*+-.^_\x60|~".toList.contains c

/-- A request method other than the empty text. -/
def validMethod (method : String) : Bool :=
  !method.isEmpty && method.toList.all isTokenChar

/-- Why a header was refused. -/
inductive HeaderFault where
  | name
  | value (header : String)
  deriving Repr, DecidableEq

/-- What is wrong with the octets of a header value. -/
def invalidHeaderValue : String := "failed to parse header value"

def HeaderFault.message : HeaderFault → String
  | .name => "invalid header name: invalid HTTP header name"
  | .value header => "invalid value for header '" ++ header ++ "': " ++ invalidHeaderValue

structure HeaderValue where
  octets : Bytes
  /-- not to be shown -/
  sensitive : Bool := false
  deriving Repr, DecidableEq

namespace HeaderValue

/-- Octets that may stand in a value: all but controls, and the tab. -/
def validOctet (b : UInt8) : Bool := (0x20 ≤ b && b != 0x7F) || b = 0x09

def ofOctets? (octets : Bytes) : Option HeaderValue :=
  if octets.all validOctet then some { octets } else none

def ofText? (text : String) : Option HeaderValue := ofOctets? (Text.utf8 text)

/-- The value as text, if it is printable ASCII with spaces and tabs. -/
def text? (value : HeaderValue) : Option String :=
  if value.octets.all fun b => (0x20 ≤ b && b < 0x7F) || b = 0x09 then
    some (String.ofList (value.octets.map fun b => Char.ofNat b.toNat))
  else none

end HeaderValue

/-- The longest header name. -/
def maxHeaderName : Nat := 65535

/-- A header name in its lower-case form. -/
def headerName? (name : String) : Option String :=
  if name.isEmpty || maxHeaderName < name.length || !name.toList.all isTokenChar then none
  else some (String.ofList (name.toList.map Char.toLower))

structure Headers where
  fields : List (String × List HeaderValue) := []
  deriving Repr, DecidableEq, Inhabited

namespace Headers

def empty : Headers := {}

/-- The values of a name. -/
def values (headers : Headers) (name : String) : List HeaderValue :=
  (headers.fields.lookup name).getD []

def first? (headers : Headers) (name : String) : Option HeaderValue := (headers.values name).head?

def contains (headers : Headers) (name : String) : Bool :=
  headers.fields.any fun field => field.1 == name

def names (headers : Headers) : List String := headers.fields.map (·.1)

/-- Names and values, one pair for each value. -/
def toList (headers : Headers) : List (String × HeaderValue) :=
  headers.fields.flatMap fun field => field.2.map (field.1, ·)

/-- Changes the values of a name, which goes to the end if it is new. -/
def alter (name : String) (change : List HeaderValue → List HeaderValue) :
    List (String × List HeaderValue) → List (String × List HeaderValue)
  | [] => [(name, change [])]
  | field :: rest =>
    if field.1 = name then (name, change field.2) :: rest else field :: alter name change rest

/-- Adds one value to a name. -/
def append (headers : Headers) (name : String) (value : HeaderValue) : Headers :=
  ⟨alter name (· ++ [value]) headers.fields⟩

/-- Gives a name one value in place of all it has. -/
def insert (headers : Headers) (name : String) (value : HeaderValue) : Headers :=
  ⟨alter name (fun _ => [value]) headers.fields⟩

/-- Gives a name a value unless it has one. -/
def insertIfAbsent (headers : Headers) (name : String) (value : HeaderValue) : Headers :=
  if headers.contains name then headers else headers.insert name value

end Headers
end BearerClient
