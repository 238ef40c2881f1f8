/-!
# Integers in decimal

Reading an integer of a bounded type from text: an optional sign and decimal digits, nothing
else.  The digits are read from the left, so of a digit that is none and a value that has left the
range the one further left is reported.  A minus sign is a digit that is none where the type has
no negative values.
-/

namespace BearerClient.Text

/-- Why a text is no integer of a type. -/
inductive IntegerFault where
  | empty
  | invalidDigit
  | tooLarge
  | tooSmall
  deriving Repr, DecidableEq

def IntegerFault.message : IntegerFault → String
  | .empty => "cannot parse integer from empty string"
  | .invalidDigit => "invalid digit found in string"
  | .tooLarge => "number too large to fit in target type"
  | .tooSmall => "number too small to fit in target type"

/-- The value of a decimal digit. -/
def digit? (c : Char) : Option Nat :=
  if '0' ≤ c ∧ c ≤ '9' then some (c.toNat - '0'.toNat) else none

/-- Continues a magnitude with further digits, up to the magnitude `limit`. -/
def readDigits (limit : Nat) (beyond : IntegerFault) : Nat → List Char → Except IntegerFault Nat
  | value, [] => .ok value
  | value, c :: rest =>
    match digit? c with
    | none => .error .invalidDigit
    | some d =>
      if 10 * value + d ≤ limit then readDigits limit beyond (10 * value + d) rest
      else .error beyond

/-- A nonempty run of digits. -/
def readMagnitude (limit : Nat) (beyond : IntegerFault) : List Char → Except IntegerFault Nat
  | [] => .error .invalidDigit
  | digits => readDigits limit beyond 0 digits

/-- Reads an integer between `low ≤ 0` and `high ≥ 0`. -/
def readInteger (low high : Int) (text : String) : Except IntegerFault Int :=
  match text.toList with
  | [] => .error .empty
  | '+' :: digits => (readMagnitude high.toNat .tooLarge digits).map Int.ofNat
  | '-' :: digits =>
    if low < 0 then (readMagnitude low.natAbs .tooSmall digits).map fun n => -(n : Int)
    else .error .invalidDigit
  | digits => (readMagnitude high.toNat .tooLarge digits).map Int.ofNat

/-- Reads a natural number below `2 ^ bits`. -/
def readUnsigned (bits : Nat) (text : String) : Except IntegerFault Nat :=
  (readInteger 0 (Nat.pow 2 bits - 1 : Nat) text).map Int.toNat

/-- The least and the largest integer of 64 bits with a sign. -/
def minInt64 : Int := -9223372036854775808

def maxInt64 : Int := 9223372036854775807

/-- Reads an integer of 64 bits with a sign. -/
def readInt64 (text : String) : Except IntegerFault Int := readInteger minInt64 maxInt64 text

end BearerClient.Text
