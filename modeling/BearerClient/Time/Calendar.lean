import BearerClient.Time.Instant

/-!
# Calendar text of an instant

The date and time of day in the proleptic Gregorian calendar.  Years from 0 to 9999 have four
digits, all others a sign and at least four; a fraction of a second has three, six or nine digits,
as few as hold it, and is left out when it is zero.
-/

namespace BearerClient.Calendar

structure Date where
  year : Int
  month : Nat
  day : Nat
  deriving Repr, DecidableEq

/-- The date a number of days after 1 March of the year 0.  Years are counted from March, in eras
of 400 years, so that a leap day is the last day of its year. -/
def Date.ofMarchDays (days : Int) : Date :=
  let era := days / 146097
  let ofEra := (days % 146097).toNat
  let yearOfEra := (ofEra - ofEra / 1460 + ofEra / 36524 - ofEra / 146096) / 365
  let ofYear := ofEra - (365 * yearOfEra + yearOfEra / 4 - yearOfEra / 100)
  let monthFromMarch := (5 * ofYear + 2) / 153
  let day := ofYear - (153 * monthFromMarch + 2) / 5 + 1
  let month := if monthFromMarch < 10 then monthFromMarch + 3 else monthFromMarch - 9
  let year : Int := era * 400 + yearOfEra
  ⟨if month ≤ 2 then year + 1 else year, month, day⟩

/-- The date a number of days after 1 January 1970. -/
def Date.ofDays (days : Int) : Date := .ofMarchDays (days + 719468)

/-- A number with zeros in front, to a width. -/
def padded (width n : Nat) : String :=
  let digits := Nat.toDigits 10 n
  String.ofList (List.replicate (width - digits.length) '0' ++ digits)

def yearText (year : Int) : String :=
  if 0 ≤ year ∧ year ≤ 9999 then padded 4 year.toNat
  else (if year < 0 then "-" else "+") ++ padded 4 year.natAbs

def fractionText (nanos : Nat) : String :=
  if nanos = 0 then ""
  else if nanos % 1000000 = 0 then "." ++ padded 3 (nanos / 1000000)
  else if nanos % 1000 = 0 then "." ++ padded 6 (nanos / 1000)
  else "." ++ padded 9 nanos

end Calendar

/-- The date and time of an instant. -/
def Instant.text (t : Instant) : String :=
  let seconds := t.nanos / 1000000000
  let nanos := (t.nanos % 1000000000).toNat
  let date := Calendar.Date.ofDays (seconds / 86400)
  let ofDay := (seconds % 86400).toNat
  Calendar.yearText date.year ++ "-" ++ Calendar.padded 2 date.month ++ "-" ++
    Calendar.padded 2 date.day ++ "T" ++ Calendar.padded 2 (ofDay / 3600) ++ ":" ++
    Calendar.padded 2 (ofDay / 60 % 60) ++ ":" ++ Calendar.padded 2 (ofDay % 60) ++
    Calendar.fractionText nanos ++ "Z"

end BearerClient
