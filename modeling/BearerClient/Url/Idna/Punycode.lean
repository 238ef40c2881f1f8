/-!
# Punycode

Text in any script written with ASCII letters, digits and hyphens.  The ASCII characters come
first; the others follow in order of their code points as distances from one insertion to the next.
A distance is a number with digits of 36 values whose thresholds adapt to the distances before.
-/

namespace BearerClient.Url.Punycode

/-- The threshold at a place of a number, from 1 to 26. -/
def threshold (place bias : Nat) : Nat := max 1 (min 26 (place - bias))

theorem threshold_pos (place bias : Nat) : 1 ≤ threshold place bias := by
  unfold threshold; omega

/-- Divides a distance down, and counts the places that this takes. -/
def adaptPlaces (delta places : Nat) : Nat :=
  if 455 < delta then adaptPlaces (delta / 35) (places + 36)
  else places + 36 * delta / (delta + 38)
termination_by delta
decreasing_by omega

/-- The bias after a distance, with a number of characters in place. -/
def adapt (delta count : Nat) (first : Bool) : Nat :=
  let delta := if first then delta / 700 else delta / 2
  adaptPlaces (delta + delta / count) 0

def firstBias : Nat := 72

def firstCode : Nat := 0x80

/-! ## Encoding -/

def digitChar (digit : Nat) : Char :=
  if digit < 26 then Char.ofNat ('a'.toNat + digit) else Char.ofNat ('0'.toNat + digit - 26)

/-- A distance as a number, from some place on. -/
def encodeDistance (bias place distance : Nat) : List Char :=
  if distance < threshold place bias then [digitChar distance]
  else
    let base := 36 - threshold place bias
    digitChar (threshold place bias + (distance - threshold place bias) % base) ::
      encodeDistance bias (place + 36) ((distance - threshold place bias) / base)
termination_by distance
decreasing_by
  have := threshold_pos place bias
  exact Nat.lt_of_le_of_lt (Nat.div_le_self _ _) (by omega)

/-- What has been written, the distance since the last insertion, the bias and the number of
characters in place. -/
structure Encoding where
  written : List Char
  distance : Nat
  bias : Nat
  count : Nat

/-- Goes past one character, and inserts it if it has the code point. -/
def Encoding.pass (basics code : Nat) (state : Encoding) (c : Char) : Encoding :=
  if c.toNat < code then { state with distance := state.distance + 1 }
  else if c.toNat = code then
    { written := state.written ++ encodeDistance state.bias 36 state.distance
      distance := 0
      bias := adapt state.distance (state.count + 1) (state.count = basics)
      count := state.count + 1 }
  else state

/-- Inserts all characters with the code points, in their order. -/
def encodeCodes (text : List Char) (basics : Nat) : List Nat → (next : Nat) → Encoding → Encoding
  | [], _, state => state
  | code :: codes, next, state =>
    let start := { state with distance := state.distance + (code - next) * (state.count + 1) }
    let state := text.foldl (Encoding.pass basics code) start
    encodeCodes text basics codes (code + 1) { state with distance := state.distance + 1 }

def isBasic (c : Char) : Bool := c.toNat < firstCode

/-- The code points beyond ASCII, in order and once each. -/
def codesOf (text : List Char) : List Nat :=
  ((text.filter (!isBasic ·)).map Char.toNat).mergeSort.eraseReps

def encode (text : List Char) : List Char :=
  let basic := text.filter isBasic
  let state := encodeCodes text basic.length (codesOf text) firstCode
    ⟨[], 0, firstBias, basic.length⟩
  basic ++ (if basic.isEmpty then [] else ['-']) ++ state.written

/-! ## Decoding -/

def digitValue? (c : Char) : Option Nat :=
  if 'a' ≤ c ∧ c ≤ 'z' then some (c.toNat - 'a'.toNat)
  else if 'A' ≤ c ∧ c ≤ 'Z' then some (c.toNat - 'A'.toNat)
  else if c.isDigit then some (c.toNat - '0'.toNat + 26)
  else none

/-- What has been read: the text so far, the code point and the place of the last insertion, and
the number that is being read with the weight and the place of its next digit. -/
structure Decoding where
  text : List Char
  code : Nat := firstCode
  position : Nat := 0
  bias : Nat := firstBias
  distance : Nat := 0
  weight : Nat := 1
  place : Nat := 36
  /-- nothing has been inserted yet -/
  first : Bool := true

/-- Inserts a character at the end of a number. -/
def Decoding.insert (state : Decoding) (distance : Nat) : Option Decoding :=
  let count := state.text.length + 1
  let target := state.position + distance
  let code := state.code + target / count
  if code.isValidChar then
    some { text := state.text.take (target % count) ++
             Char.ofNat code :: state.text.drop (target % count)
           code
           position := target % count + 1
           bias := adapt distance count state.first
           first := false }
  else none

/-- Reads one digit. -/
def Decoding.digit (state : Decoding) (c : Char) : Option Decoding :=
  match digitValue? c with
  | none => none
  | some digit =>
    let distance := state.distance + digit * state.weight
    let threshold := threshold state.place state.bias
    if digit < threshold then state.insert distance
    else some { state with
      distance, weight := state.weight * (36 - threshold), place := state.place + 36 }

/-- Splits off the ASCII characters, which end at the last hyphen.  A hyphen with nothing before it
is no such end. -/
def splitBasic (text : List Char) : List Char × List Char :=
  match text.reverse.dropWhile (· ≠ '-') with
  | [] | [_] => ([], text)
  | _ :: before => (before.reverse, (text.reverse.takeWhile (· ≠ '-')).reverse)

def decode? (text : List Char) : Option (List Char) :=
  let (basic, digits) := splitBasic text
  match digits.foldlM Decoding.digit { text := basic } with
  | some state => if state.place = 36 then some state.text else none
  | none => none

end BearerClient.Url.Punycode
