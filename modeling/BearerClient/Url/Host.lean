import BearerClient.Url.Address
import BearerClient.Url.Idna
import BearerClient.Url.Percent

/-!
# Hosts

The host of a URL.  Where the scheme gives hosts a meaning, a host is an address or a domain name,
which is decoded, mapped to its ASCII form and may still turn out to be an IPv4 address.  Under
other schemes it is an address in brackets or any text without certain delimiters.
-/

namespace BearerClient.Url

/-- Why a text is no URL. -/
inductive Fault where
  | relative
  | emptyHost
  | internationalName
  | port
  | ipv4
  | ipv6
  | hostCharacter
  deriving Repr, DecidableEq

def Fault.message : Fault → String
  | .relative => "relative URL without a base"
  | .emptyHost => "empty host"
  | .internationalName => "invalid international domain name"
  | .port => "invalid port number"
  | .ipv4 => "invalid IPv4 address"
  | .ipv6 => "invalid IPv6 address"
  | .hostCharacter => "invalid domain character"

inductive Host where
  | domain (name : List Char)
  | ipv4 (address : Nat)
  | ipv6 (groups : List Nat)
  deriving Repr, DecidableEq

namespace Host

def text : Host → List Char
  | domain name => name
  | ipv4 address => ipv4Text address
  | ipv6 groups => '[' :: ipv6Text groups ++ [']']

/-- An address in brackets, if the text starts with one. -/
def bracketed? (text : List Char) : Option (Except Fault Host) :=
  match text with
  | '[' :: rest =>
    some (if rest.getLast? = some ']' then
      match ipv6? rest.dropLast with
      | some groups => .ok (.ipv6 groups)
      | none => .error .ipv6
    else .error .ipv6)
  | _ => none

/-- The ASCII form of a name after percent decoding. -/
def asciiName (text : List Char) : Except Fault (List Char) :=
  match Text.Utf8.decode? (Url.decode (text.flatMap String.utf8EncodeChar)) with
  | none => .error .internationalName
  | some name =>
    match Idna.toAscii? name.toList with
    | none => .error .internationalName
    | some name => .ok name

/-- A host under a scheme that gives hosts a meaning. -/
def ofText (text : List Char) : Except Fault Host :=
  match bracketed? text with
  | some result => result
  | none => do
    let name ← asciiName text
    if name.isEmpty then .error .emptyHost
    else if endsInNumber name then
      match Url.ipv4? name with
      | some address => .ok (.ipv4 address)
      | none => .error .ipv4
    else .ok (.domain name)

/-- Delimiters that a host without meaning may not hold. -/
def isDelimiter (c : Char) : Bool :=
  ['\x00', '\t', '\n', '\x0d', ' ', '#', '/', ':', '<', '>', '?', '@', '[', '\\', ']', '^',
   '|'].contains c

/-- A host under any other scheme. -/
def ofOther (text : List Char) : Except Fault Host :=
  match bracketed? text with
  | some result => result
  | none =>
    if text.any isDelimiter then .error .hostCharacter
    else .ok (.domain (Url.encode controlSet text))

end Host
end BearerClient.Url
