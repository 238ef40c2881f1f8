/-!
# Shortest decimals

The fewest decimal digits that identify a binary floating-point value of 64 bits.  The value is an
integer times a power of two, and the reals that round to it form an interval around it, with its
ends exactly when the integer is even.  On coarser and then finer decimal grids the two neighbours
of the value are tried; the first grid with a neighbour inside the interval gives the digits, and
of two neighbours the nearer one.  All comparisons are between natural numbers.
-/

namespace BearerClient

/-- `digits * 10 ^ exponent` -/
structure Decimal where
  digits : Nat
  exponent : Int
  deriving Repr, DecidableEq

namespace Decimal

/-- A finite positive value, `significand * 2 ^ exponent`. -/
structure Binary where
  significand : Nat
  exponent : Int
  /-- the gap to the next smaller value is half the gap to the next larger one -/
  narrowBelow : Bool
  deriving Repr, DecidableEq

/-- The leading bit of a significand, which is not stored: 2^52. -/
def hiddenBit : Nat := 4503599627370496

/-- The magnitude in the bits of a finite value. -/
def Binary.ofBits (bits : UInt64) : Binary :=
  let power : Nat := bits.toNat / hiddenBit % 2048
  let fraction : Nat := bits.toNat % hiddenBit
  if power = 0 then ⟨fraction, -1074, false⟩
  else ⟨hiddenBit + fraction, (power : Int) - 1075, fraction = 0 && 1 < power⟩

/-- Compares `a * 10 ^ i` with `b * 2 ^ j`. -/
def compareScaled (a : Nat) (i : Int) (b : Nat) (j : Int) : Ordering :=
  compare (a * Nat.pow 10 i.toNat * Nat.pow 2 (-j).toNat)
    (b * Nat.pow 2 j.toNat * Nat.pow 10 (-i).toNat)

/-- Whether a decimal lies among the reals that round to a value. -/
def Binary.readsBack (x : Binary) (d : Decimal) : Bool :=
  let low := if x.narrowBelow then 4 * x.significand - 1 else 4 * x.significand - 2
  let high := 4 * x.significand + 2
  let even := x.significand % 2 = 0
  let fromLow := compareScaled d.digits d.exponent low (x.exponent - 2)
  let fromHigh := compareScaled d.digits d.exponent high (x.exponent - 2)
  (fromLow = .gt || even && fromLow = .eq) && (fromHigh = .lt || even && fromHigh = .eq)

/-- The integer part of a value divided by `10 ^ grid`. -/
def Binary.floorOn (x : Binary) (grid : Int) : Nat :=
  x.significand * Nat.pow 2 x.exponent.toNat * Nat.pow 10 (-grid).toNat /
    (Nat.pow 2 (-x.exponent).toNat * Nat.pow 10 grid.toNat)

/-- The least `k` with the value below `10 ^ k`; no positive value is below `10 ^ (-400)`. -/
def Binary.scale (x : Binary) : Int := (Nat.toDigits 10 (x.floorOn (-400))).length - 400

/-- Whether the lower of the neighbours `below` and `below + 1` on a grid is the nearer one; in
the middle the even one is taken. -/
def Binary.nearerBelow (x : Binary) (below : Nat) (grid : Int) : Bool :=
  match compareScaled (2 * below + 1) grid (2 * x.significand) x.exponent with
  | .gt => true
  | .lt => false
  | .eq => below % 2 = 0

/-- The neighbour of a value on the grid `10 ^ grid` that reads back, if any does. -/
def Binary.onGrid (x : Binary) (grid : Int) : Option Decimal :=
  let below := x.floorOn grid
  match x.readsBack ⟨below, grid⟩, x.readsBack ⟨below + 1, grid⟩ with
  | true, true => some (if x.nearerBelow below grid then ⟨below, grid⟩ else ⟨below + 1, grid⟩)
  | true, false => some ⟨below, grid⟩
  | false, true => some ⟨below + 1, grid⟩
  | false, false => none

/-- Moves trailing zeros of the digits into the exponent, at most `bound` of them. -/
def strip : Nat → Decimal → Decimal
  | 0, d => d
  | bound + 1, d =>
    if d.digits ≠ 0 ∧ d.digits % 10 = 0 then strip bound ⟨d.digits / 10, d.exponent + 1⟩ else d

/-- The shortest decimal of a positive value; seventeen digits are always enough. -/
def Binary.shortest (x : Binary) : Decimal :=
  let scale := x.scale
  let found := (List.range 17).findSome? fun n => x.onGrid (scale - (n + 1 : Nat))
  (found.getD ⟨x.floorOn (scale - 17), scale - 17⟩).strip 400

end Decimal
end BearerClient
