import BearerClient.Text.Utf8

/-!
# Percent encoding

An octet is written as `%` and two hexadecimal digits.  Each component of a URL has its own set of
ASCII characters that must be written so; controls and characters beyond ASCII always are.
-/

namespace BearerClient.Url

/-- The ASCII characters, other than controls, that a component may not hold as they are. -/
abbrev EncodeSet := List Char

def hexDigitUpper (n : Nat) : Char :=
  if n < 10 then Char.ofNat (0x30 + n) else Char.ofNat (0x37 + n)

def encodedOctet (b : UInt8) : List Char :=
  ['%', hexDigitUpper (b.toNat / 16), hexDigitUpper (b.toNat % 16)]

/-- Whether a character has to be encoded. -/
def mustEncode (set : EncodeSet) (c : Char) : Bool :=
  c.toNat < 0x20 || 0x7F ≤ c.toNat || set.contains c

def encodeChar (set : EncodeSet) (c : Char) : List Char :=
  if mustEncode set c then (String.utf8EncodeChar c).flatMap encodedOctet else [c]

def encode (set : EncodeSet) (chars : List Char) : List Char := chars.flatMap (encodeChar set)

/-- Components that are opaque to every scheme: only controls are encoded. -/
def controlSet : EncodeSet := []

def fragmentSet : EncodeSet := [' ', '"', '<', '>', '\x60']

def pathSet : EncodeSet := fragmentSet ++ ['#', '?', '\x7b', '\x7d']

def userinfoSet : EncodeSet :=
  pathSet ++ ['/', ':', ';', '=', '@', '[', '\\', ']', '^', '|']

def querySet : EncodeSet := [' ', '"', '#', '<', '>']

def specialQuerySet : EncodeSet := querySet ++ ['\'']

def hexValue? (b : UInt8) : Option Nat :=
  if 0x30 ≤ b ∧ b ≤ 0x39 then some (b.toNat - 0x30)
  else if 0x41 ≤ b ∧ b ≤ 0x46 then some (b.toNat - 0x37)
  else if 0x61 ≤ b ∧ b ≤ 0x66 then some (b.toNat - 0x57)
  else none

/-- Decodes what is encoded; a `%` without two digits stands for itself. -/
def decodeAfter : Nat → Bytes → Bytes
  | _, [] => []
  | skip + 1, _ :: rest => decodeAfter skip rest
  | 0, b :: rest =>
    if b = 0x25 then
      match rest with
      | h :: l :: _ =>
        match hexValue? h, hexValue? l with
        | some h, some l => UInt8.ofNat (h * 16 + l) :: decodeAfter 2 rest
        | _, _ => b :: decodeAfter 0 rest
      | _ => b :: decodeAfter 0 rest
    else b :: decodeAfter 0 rest

def decode (octets : Bytes) : Bytes := decodeAfter 0 octets

end BearerClient.Url
