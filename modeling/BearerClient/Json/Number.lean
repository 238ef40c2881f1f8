import BearerClient.Json.Scan

/-!
# Values of numbers

A number without point and exponent that fits 64 bits is exact.  Every other number is computed in
binary floating point: as many leading digits as fit 64 bits form the significand, and one
multiplication or division by a power of ten places the point.  Digits past the significand count
as zeros.
-/

namespace BearerClient.Json.Scan

/-- The value of a run of decimal digits. -/
def naturalOf (digits : Bytes) : Nat := digits.foldl (fun n d => 10 * n + (d.toNat - 0x30)) 0

/-- Continues a significand for as long as it fits 64 bits; also the number of digits left. -/
def growSignificand : Nat → Bytes → Nat × Nat
  | significand, [] => (significand, 0)
  | significand, d :: rest =>
    let next := 10 * significand + (d.toNat - 0x30)
    if next < 18446744073709551616 then growSignificand next rest else (significand, rest.length + 1)

/-- A power of ten, at most 10^308. -/
def tenTo (exponent : Nat) : Float := Float.ofScientific 1 false exponent

/-- A nonnegative float divided by a power of ten, in steps of at most 10^308. -/
def scaleDown (value : Float) (exponent : Nat) : Float :=
  if exponent ≤ 308 then value / tenTo exponent
  else if exponent ≤ 616 then value / tenTo 308 / tenTo (exponent - 308)
  else 0

/-- A nonnegative float times a power of ten, unless that is too large. -/
def scaleUp? (value : Float) (exponent : Nat) : Option Float :=
  if exponent ≤ 308 then
    let scaled := value * tenTo exponent
    if scaled.isInf then none else some scaled
  else if value == 0 then some 0
  else none

def signed (negative : Bool) (value : Float) : Number :=
  .float (if negative then (-value).toBits else value.toBits)

/-- The float with a significand and a decimal exponent. -/
def floatOf (negative : Bool) (significand : Nat) (exponent : Int) : Except Fault Number :=
  let value := Float.ofScientific significand false 0
  if 0 ≤ exponent then
    match scaleUp? value exponent.toNat with
    | some value => .ok (signed negative value)
    | none => .error .numberOutOfRange
  else .ok (signed negative (scaleDown value exponent.natAbs))

/-- An integer that fits 64 bits; a negative zero and negative integers below -2^63 are floats. -/
def integerOf (negative : Bool) (magnitude : Nat) : Number :=
  if negative then
    if magnitude = 0 ∨ 9223372036854775808 < magnitude then
      signed true (Float.ofScientific magnitude false 0)
    else .int (-(magnitude : Int))
  else .int magnitude

/-- The largest exponent that is computed with. -/
def maxExponent : Nat := 2147483647

def NumberParts.value (negative : Bool) (parts : NumberParts) : Except Fault Number :=
  let (whole, excess) := growSignificand 0 parts.whole
  let (significand, exponent) : Nat × Int :=
    match parts.fraction with
    | none => (whole, excess)
    | some ds =>
      let (significand, left) := growSignificand whole ds
      (significand, (excess : Int) - ((ds.length - left : Nat) : Int))
  match parts.exponent with
  | none =>
    if parts.fraction.isNone ∧ excess = 0 then .ok (integerOf negative whole)
    else floatOf negative significand exponent
  | some (down, ds) =>
    let shift := naturalOf ds
    if shift ≤ maxExponent then
      floatOf negative significand (if down then exponent - shift else exponent + shift)
    else if significand = 0 ∨ down then .ok (signed negative 0)
    else .error .numberOutOfRange

/-- A number after its sign. -/
def number (negative : Bool) : Reader Number := fun input =>
  match numberParts input with
  | .error .atEnd => .error .endInValue
  | .error .atOctet => .error .invalidNumber
  | .ok (parts, rest) => (parts.value negative).map (·, rest)

/-- Passes over a number after its sign. -/
def skipNumber : Reader Unit := fun input =>
  match numberParts input with
  | .error _ => .error .invalidNumber
  | .ok (_, rest) => .ok ((), rest)

end BearerClient.Json.Scan
