/-!
# Numbers, truth values and moments of TOML

All values without marks or brackets: integers in four bases, floats, truth values, and dates and
times.  Underscores may stand between the digits of a number.  An integer fits 128 bits, with a sign
or without, and a float is not too large to be one.
-/

namespace BearerClient.Toml

/-- A value without marks or brackets, as far as it is made use of. -/
inductive Scalar where
  | integer (value : Int)
  | float
  | boolean (value : Bool)
  | moment
  deriving Repr, DecidableEq

/-! ## Numbers -/

/-- The digits of a run in which single underscores may stand between two digits. -/
def digits? (isDigit : Char → Bool) : List Char → Option (List Char)
  | [] => none
  | [c] => if isDigit c then some [c] else none
  | c :: '_' :: rest => if isDigit c then (digits? isDigit rest).map (c :: ·) else none
  | c :: d :: rest => if isDigit c then (digits? isDigit (d :: rest)).map (c :: ·) else none

def digitValue (c : Char) : Nat :=
  if c.isDigit then c.toNat - '0'.toNat else c.toLower.toNat - 'a'.toNat + 10

def valueOf (base : Nat) (digits : List Char) : Nat :=
  digits.foldl (fun n c => base * n + digitValue c) 0

def isDigitOf (base : Nat) (c : Char) : Bool := (c.isDigit || c.isAlpha) && digitValue c < base

/-- A number in some base after the letter of that base. -/
def based? (base : Nat) (text : List Char) : Option Int :=
  (digits? (isDigitOf base) text).map fun digits => (valueOf base digits : Int)

/-- Decimal digits without a leading zero, unless zero is all there is. -/
def decimal? (text : List Char) : Option (List Char) :=
  match digits? Char.isDigit text with
  | some ('0' :: _ :: _) => none
  | digits => digits

/-- Splits off a sign. -/
def signed (text : List Char) : Bool × List Char :=
  match text with
  | '-' :: rest => (true, rest)
  | '+' :: rest => (false, rest)
  | _ => (false, text)

def integer? (text : List Char) : Option Int :=
  match text with
  | '0' :: 'x' :: rest => based? 16 rest
  | '0' :: 'o' :: rest => based? 8 rest
  | '0' :: 'b' :: rest => based? 2 rest
  | _ =>
    let (negative, rest) := signed text
    (decimal? rest).map fun digits =>
      if negative then -(valueOf 10 digits : Int) else valueOf 10 digits

def isExponentMark (c : Char) : Bool := c = 'e' || c = 'E'

/-- The parts of a float after its sign: the digits before and after the point, and the
exponent. -/
def floatParts? (text : List Char) : Option (List Char × List Char × Int) := do
  let mantissa := text.takeWhile (!isExponentMark ·)
  let exponent ← match text.dropWhile (!isExponentMark ·) with
    | [] => some 0
    | _ :: exponent =>
      let (negative, rest) := signed exponent
      let digits ← digits? Char.isDigit rest
      some (if negative then -(valueOf 10 digits : Int) else valueOf 10 digits)
  let whole ← decimal? (mantissa.takeWhile (· ≠ '.'))
  match mantissa.dropWhile (· ≠ '.') with
  | [] => if text.any isExponentMark then some (whole, [], exponent) else none
  | _ :: fraction => some (whole, ← digits? Char.isDigit fraction, exponent)

/-- The least number that rounds to no finite float. -/
def floatLimit : Nat := (Nat.pow 2 54 - 1) * Nat.pow 2 970

/-- Whether a number with given digits and exponent is a finite float.  Exponents beyond the
digits' reach are not multiplied out. -/
def isFinite (digits : List Char) (places : Nat) (exponent : Int) : Bool :=
  let value := valueOf 10 digits
  let scale := exponent - places
  if value = 0 then true
  else if 400 < scale then false
  else if 0 ≤ scale then value * Nat.pow 10 scale.toNat < floatLimit
  else if (digits.length : Int) + scale < 300 then true
  else value < floatLimit * Nat.pow 10 scale.natAbs

def isFloat (text : List Char) : Bool :=
  let (_, rest) := signed text
  if rest = "inf".toList ∨ rest = "nan".toList then true
  else match floatParts? rest with
    | some (whole, fraction, exponent) => isFinite (whole ++ fraction) fraction.length exponent
    | none => false

/-! ## Moments -/

/-- A number of exactly so many digits, and what follows it. -/
def fixed? (digits : Nat) (text : List Char) : Option (Nat × List Char) :=
  let number := text.take digits
  if number.length = digits ∧ number.all Char.isDigit then
    some (valueOf 10 number, text.drop digits)
  else none

def expect? (c : Char) : List Char → Option (List Char)
  | d :: rest => if d = c then some rest else none
  | [] => none

def daysIn (year month : Nat) : Nat :=
  if month = 2 then
    if year % 4 = 0 ∧ (year % 100 ≠ 0 ∨ year % 400 = 0) then 29 else 28
  else if month = 4 ∨ month = 6 ∨ month = 9 ∨ month = 11 then 30
  else 31

/-- Reads a date. -/
def date? (text : List Char) : Option (List Char) := do
  let (year, text) ← fixed? 4 text
  let (month, text) ← fixed? 2 (← expect? '-' text)
  let (day, text) ← fixed? 2 (← expect? '-' text)
  if 1 ≤ month ∧ month ≤ 12 ∧ 1 ≤ day ∧ day ≤ daysIn year month then some text else none

/-- Reads hours and minutes. -/
def clock? (text : List Char) : Option (List Char) := do
  let (hour, text) ← fixed? 2 text
  let (minute, text) ← fixed? 2 (← expect? ':' text)
  if hour ≤ 23 ∧ minute ≤ 59 then some text else none

/-- Reads a time of the day; seconds and their fraction may be missing. -/
def time? (text : List Char) : Option (List Char) := do
  match ← clock? text with
  | ':' :: rest =>
    let (second, rest) ← fixed? 2 rest
    if 60 < second then none
    else match rest with
      | '.' :: fraction =>
        if (fraction.takeWhile Char.isDigit).isEmpty then none
        else some (fraction.dropWhile Char.isDigit)
      | _ => some rest
  | rest => some rest

/-- Whether a text is an offset from universal time, or nothing. -/
def isOffset : List Char → Bool
  | [] => true
  | ['Z'] | ['z'] => true
  | '+' :: rest | '-' :: rest => clock? rest = some []
  | _ => false

/-- Whether a text is a date, a time or both. -/
def isMoment (text : List Char) : Bool :=
  match date? text with
  | some [] => true
  | some (c :: rest) =>
    (c = 'T' || c = 't' || c = ' ') && (match time? rest with
      | some rest => isOffset rest
      | none => false)
  | none => time? text = some []

/-! ## Scalars -/

/-- Whether an integer fits 128 bits, with a sign or without. -/
def isInRange (n : Int) : Bool :=
  if n < 0 then n.natAbs ≤ Nat.pow 2 127 else n.natAbs < Nat.pow 2 128

/-- The value of a text without marks or brackets. -/
def scalarOf? (text : List Char) : Option Scalar :=
  if text = "true".toList then some (.boolean true)
  else if text = "false".toList then some (.boolean false)
  else match integer? text with
    | some n => if isInRange n then some (.integer n) else none
    | none =>
      if isMoment text then some .moment else if isFloat text then some .float else none

/-- Characters of values without marks or brackets. -/
def isScalarChar (c : Char) : Bool :=
  c.isAlphanum || c = '_' || c = '+' || c = '-' || c = '.' || c = ':'

/-- Splits off a value without marks or brackets.  One blank may stand between a date and a
time. -/
def splitScalar (text : List Char) : List Char × List Char :=
  let first := text.takeWhile isScalarChar
  match date? first, text.dropWhile isScalarChar with
  | some [], ' ' :: d :: rest =>
    if d.isDigit then
      (first ++ ' ' :: (d :: rest).takeWhile isScalarChar, (d :: rest).dropWhile isScalarChar)
    else (first, ' ' :: d :: rest)
  | _, rest => (first, rest)

/-- Reads a value without marks or brackets. -/
def scalar (text : List Char) : Option (Scalar × List Char) :=
  let (first, rest) := splitScalar text
  (scalarOf? first).map (·, rest)

end BearerClient.Toml
