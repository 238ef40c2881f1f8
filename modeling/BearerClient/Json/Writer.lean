import BearerClient.Decimal.Shortest
import BearerClient.Json.Value
import BearerClient.Text.Utf8

/-!
# Writing JSON

The compact text of a value: no white space, members in their order.  In strings only the quote,
the backslash and control characters are escaped.  Floating-point numbers have the fewest digits
that identify them, positionally from 10^-5 up to below 10^16 and with an exponent otherwise.
-/

namespace BearerClient.Json

namespace Write

/-- The letter of a short escape. -/
def shortEscape? (c : Char) : Option Char :=
  if c = '"' then some '"'
  else if c = '\\' then some '\\'
  else if c = '\x08' then some 'b'
  else if c = '\x09' then some 't'
  else if c = '\x0a' then some 'n'
  else if c = '\x0c' then some 'f'
  else if c = '\x0d' then some 'r'
  else none

def hexDigit (n : Nat) : Char := if n < 10 then Char.ofNat (0x30 + n) else Char.ofNat (0x57 + n)

/-- One character inside a string. -/
def escaped (c : Char) : List Char :=
  match shortEscape? c with
  | some letter => ['\\', letter]
  | none =>
    if c.toNat < 0x20 then ['\\', 'u', '0', '0', hexDigit (c.toNat / 16), hexDigit (c.toNat % 16)]
    else [c]

def string (text : String) : List Char := '"' :: text.toList.flatMap escaped ++ ['"']

def integer (n : Int) : List Char :=
  if n < 0 then '-' :: Nat.toDigits 10 n.natAbs else Nat.toDigits 10 n.natAbs

/-- Digits with a point, or with an exponent where the point would be far away. -/
def decimal (d : Decimal) : List Char :=
  let digits := Nat.toDigits 10 d.digits
  let point : Int := digits.length + d.exponent
  if 0 ≤ d.exponent ∧ point ≤ 16 then
    digits ++ List.replicate d.exponent.toNat '0' ++ ['.', '0']
  else if 0 < point ∧ point ≤ 16 then
    digits.take point.toNat ++ '.' :: digits.drop point.toNat
  else if -5 < point ∧ point ≤ 0 then
    '0' :: '.' :: List.replicate point.natAbs '0' ++ digits
  else
    let fraction := if digits.length = 1 then [] else '.' :: digits.drop 1
    digits.take 1 ++ fraction ++ 'e' :: integer (point - 1)

/-- The bit that holds the sign of a floating-point number. -/
def signBit : Nat := 9223372036854775808

/-- A finite floating-point number by its bits. -/
def float (bits : UInt64) : List Char :=
  let sign := if signBit ≤ bits.toNat then ['-'] else []
  if bits.toNat % signBit = 0 then sign ++ ['0', '.', '0']
  else sign ++ decimal (Decimal.Binary.ofBits bits).shortest

def number : Number → List Char
  | .int n => integer n
  | .float bits => float bits

/-- Parts with commas between them. -/
def separated : List (List Char) → List Char
  | [] => []
  | [part] => part
  | part :: rest => part ++ ',' :: separated rest

end Write

mutual
/-- The compact text of a value. -/
def Value.chars : Value → List Char
  | .null => ['n', 'u', 'l', 'l']
  | .bool true => ['t', 'r', 'u', 'e']
  | .bool false => ['f', 'a', 'l', 's', 'e']
  | .number n => Write.number n
  | .string text => Write.string text
  | .array items => '[' :: Write.separated (itemChars items) ++ [']']
  | .object members => '\x7b' :: Write.separated (memberChars members) ++ ['\x7d']

def Value.itemChars : List Value → List (List Char)
  | [] => []
  | v :: rest => v.chars :: itemChars rest

def Value.memberChars : List (String × Value) → List (List Char)
  | [] => []
  | (key, v) :: rest => (Write.string key ++ ':' :: v.chars) :: memberChars rest
end

def Value.text (value : Value) : String := String.ofList value.chars

def Value.octets (value : Value) : Bytes := Text.utf8 value.text

end BearerClient.Json
