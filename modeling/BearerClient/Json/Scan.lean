import BearerClient.Json.Fault
import BearerClient.Json.Value
import BearerClient.Text.Utf8

/-!
# Tokens of a JSON text

Readers consume octets from the front of the input.  This module holds the leaves: white space,
the three literal names, strings and numbers.  A string is read strictly, which decodes it, or
loosely, which only finds its end; a number is first cut into its parts and then given a value.
-/

namespace BearerClient.Json

/-- A step over the input that may fail. -/
abbrev Reader := StateT Bytes (Except Fault)

def fail (fault : Fault) : Reader α := fun _ => .error fault

namespace Scan

/-- Space, tab, line feed and carriage return. -/
def isSpace (b : UInt8) : Bool := b = 0x20 || b = 0x09 || b = 0x0A || b = 0x0D

/-- Drops white space and tells the octet that follows it, which stays in the input. -/
def peek : Reader (Option UInt8) := fun input =>
  let rest := input.dropWhile isSpace
  .ok (rest.head?, rest)

/-- Consumes one octet. -/
def drop : Reader Unit := fun input => .ok ((), input.tail)

def isDigit (b : UInt8) : Bool := 0x30 ≤ b && b ≤ 0x39

/-! ## Names -/

/-- The octets of an ASCII text. -/
def ascii (text : String) : Bytes := Text.utf8 text

/-- Consumes exactly these octets. -/
def expectOctets : Bytes → Reader Unit
  | [], input => .ok ((), input)
  | _ :: _, [] => .error .endInValue
  | e :: expected, b :: input =>
    if b = e then expectOctets expected input else .error .expectedIdent

/-! ## Strings -/

def hexDigit? (b : UInt8) : Option Nat :=
  if 0x30 ≤ b ∧ b ≤ 0x39 then some (b.toNat - 0x30)
  else if 0x41 ≤ b ∧ b ≤ 0x46 then some (b.toNat - 0x37)
  else if 0x61 ≤ b ∧ b ≤ 0x66 then some (b.toNat - 0x57)
  else none

/-- The value of the four hexadecimal digits at the front. -/
def hex4 : Bytes → Except Fault Nat
  | a :: b :: c :: d :: _ =>
    match hexDigit? a, hexDigit? b, hexDigit? c, hexDigit? d with
    | some a, some b, some c, some d => .ok (((a * 16 + b) * 16 + c) * 16 + d)
    | _, _, _, _ => .error .invalidEscape
  | _ => .error .endInString

/-- The octet that a short escape stands for. -/
def shortEscape? (b : UInt8) : Option UInt8 :=
  if b = 0x22 ∨ b = 0x5C ∨ b = 0x2F then some b
  else if b = 0x62 then some 0x08
  else if b = 0x66 then some 0x0C
  else if b = 0x6E then some 0x0A
  else if b = 0x72 then some 0x0D
  else if b = 0x74 then some 0x09
  else none

/-- How the octets after a backslash are taken: what they stand for, and their number. -/
abbrev EscapeRule := Bytes → Except Fault (Bytes × Nat)

/-- The second half of a surrogate pair, after the four digits of its first half. -/
def lowSurrogate (high : Nat) : Bytes → Except Fault (Bytes × Nat)
  | [] => .error .endInString
  | a :: rest =>
    if a ≠ 0x5C then .error .unfinishedSurrogatePair
    else match rest with
      | [] => .error .endInString
      | u :: digits =>
        if u ≠ 0x75 then .error .unfinishedSurrogatePair
        else do
          let low ← hex4 digits
          if low < 0xDC00 ∨ 0xDFFF < low then .error .loneSurrogate
          else
            let point := (high - 0xD800) * 0x400 + (low - 0xDC00) + 0x10000
            .ok (String.utf8EncodeChar (Char.ofNat point), 11)

/-- An escape that has to denote a character. -/
def strictEscape : EscapeRule
  | [] => .error .endInString
  | b :: rest =>
    if b = 0x75 then do
      let unit ← hex4 rest
      if 0xDC00 ≤ unit ∧ unit ≤ 0xDFFF then .error .loneSurrogate
      else if unit < 0xD800 ∨ 0xDBFF < unit then
        .ok (String.utf8EncodeChar (Char.ofNat unit), 5)
      else lowSurrogate unit (rest.drop 4)
    else match shortEscape? b with
      | some octet => .ok ([octet], 1)
      | none => .error .invalidEscape

/-- An escape of which only the extent matters. -/
def looseEscape : EscapeRule
  | [] => .error .endInString
  | b :: rest =>
    if b = 0x75 then (hex4 rest).map fun _ => ([], 5)
    else match shortEscape? b with
      | some _ => .ok ([], 1)
      | none => .error .invalidEscape

/-- The content of a string up to its closing quote, and the input after the quote.  The first
`skip` octets belong to an escape that is already taken. -/
def stringFrom (escape : EscapeRule) : Nat → Bytes → Except Fault (Bytes × Bytes)
  | _, [] => .error .endInString
  | skip + 1, _ :: rest => stringFrom escape skip rest
  | 0, b :: rest =>
    if b = 0x22 then .ok ([], rest)
    else if b = 0x5C then do
      let (octets, used) ← escape rest
      let (content, after) ← stringFrom escape used rest
      .ok (octets ++ content, after)
    else if b < 0x20 then .error .controlCharacter
    else do
      let (content, after) ← stringFrom escape 0 rest
      .ok (b :: content, after)

/-- A string after its opening quote. -/
def stringBody : Reader String := fun input => do
  let (octets, rest) ← stringFrom strictEscape 0 input
  match Text.Utf8.decode octets with
  | .ok text => .ok (text, rest)
  | .error _ => .error .invalidCodePoint

/-- Passes over a string after its opening quote; its octets need not be text. -/
def skipStringBody : Reader Unit := fun input => do
  let (_, rest) ← stringFrom looseEscape 0 input
  .ok ((), rest)

/-! ## Numbers -/

/-- A number without its sign, as it is written. -/
structure NumberParts where
  /-- digits before the point -/
  whole : Bytes
  /-- digits after the point, where there is one -/
  fraction : Option Bytes
  /-- whether the exponent is negative, and its digits, where there is one -/
  exponent : Option (Bool × Bytes)
  deriving Repr, DecidableEq

/-- A number breaks off, at the end of the input or before another octet. -/
inductive NumberBreak where
  | atEnd
  | atOctet
  deriving Repr, DecidableEq

def NumberBreak.before : Bytes → NumberBreak
  | [] => .atEnd
  | _ :: _ => .atOctet

/-- A nonempty run of digits. -/
def digits (input : Bytes) : Except NumberBreak (Bytes × Bytes) :=
  match input.takeWhile isDigit with
  | [] => .error (.before input)
  | ds => .ok (ds, input.dropWhile isDigit)

/-- Digits that start with zero only if zero is all there is. -/
def wholeDigits (input : Bytes) : Except NumberBreak (Bytes × Bytes) := do
  let (ds, rest) ← digits input
  if ds.head? = some 0x30 ∧ ds.length ≠ 1 then .error .atOctet else .ok (ds, rest)

def fractionDigits : Bytes → Except NumberBreak (Option Bytes × Bytes)
  | 0x2E :: rest => do
    let (ds, rest) ← digits rest
    .ok (some ds, rest)
  | rest => .ok (none, rest)

/-- An optional sign, and whether it is a minus sign. -/
def exponentSign : Bytes → Bool × Bytes
  | 0x2B :: rest => (false, rest)
  | 0x2D :: rest => (true, rest)
  | rest => (false, rest)

def exponentDigits : Bytes → Except NumberBreak (Option (Bool × Bytes) × Bytes)
  | b :: rest =>
    if b = 0x65 ∨ b = 0x45 then do
      let (negative, rest) := exponentSign rest
      let (ds, rest) ← digits rest
      .ok (some (negative, ds), rest)
    else .ok (none, b :: rest)
  | [] => .ok (none, [])

/-- The parts of a number, after its sign. -/
def numberParts (input : Bytes) : Except NumberBreak (NumberParts × Bytes) := do
  let (whole, rest) ← wholeDigits input
  let (fraction, rest) ← fractionDigits rest
  let (exponent, rest) ← exponentDigits rest
  .ok (⟨whole, fraction, exponent⟩, rest)

end Scan
end BearerClient.Json
