import BearerClient.Json.Number

/-!
# Reading JSON

Lists and objects are read item by item, by a loop that is given the reader of one item, so that a
value of a known shape is read without building a `Value` first.  `readValue` reads any value, at
most a given number of levels deep; `skipValue` passes over a value of any depth and checks its
strings and numbers only loosely.

Loops take a bound on the number of items.  Every item takes at least one octet, so the length of
the input is always enough.
-/

namespace BearerClient.Json

open Scan

/-- Lists and objects nest at most this deep. -/
def maxDepth : Nat := 127

/-- The number of octets left. -/
def remaining : Reader Nat := fun input => .ok (input.length, input)

/-! ## Lists and objects -/

/-- Whether another item of a list follows; its separator is consumed. -/
def anotherItem (first : Bool) : Reader Bool := do
  match ← peek with
  | none => fail .endInList
  | some 0x5D => return false
  | some b =>
    if first then return true
    else if b = 0x2C then
      drop
      match ← peek with
      | none => fail .endInValue
      | some 0x5D => fail .trailingComma
      | some _ => return true
    else fail .expectedListCommaOrEnd

/-- Whether another member of an object follows, which then starts with a quote. -/
def anotherMember (first : Bool) : Reader Bool := do
  match ← peek with
  | none => fail .endInObject
  | some 0x7D => return false
  | some b =>
    if first then
      if b = 0x22 then return true else fail .keyNotString
    else if b = 0x2C then
      drop
      match ← peek with
      | none => fail .endInValue
      | some 0x22 => return true
      | some 0x7D => fail .trailingComma
      | some _ => fail .keyNotString
    else fail .expectedObjectCommaOrEnd

/-- The key of a member, at its opening quote. -/
def memberKey : Reader String := do
  drop
  stringBody

def colon : Reader Unit := do
  match ← peek with
  | none => fail .endInObject
  | some 0x3A => drop
  | some _ => fail .expectedColon

/-- The end of a list of which no further item is wanted. -/
def closeList : Reader Unit := do
  match ← peek with
  | none => fail .endInList
  | some 0x5D => drop
  | some 0x2C =>
    drop
    match ← peek with
    | some 0x5D => fail .trailingComma
    | _ => fail .trailingCharacters
  | some _ => fail .trailingCharacters

def closeObject : Reader Unit := do
  match ← peek with
  | none => fail .endInObject
  | some 0x7D => drop
  | some 0x2C => fail .trailingComma
  | some _ => fail .trailingCharacters

/-- The items of a list up to its end. -/
def readItemsWithin (item : Reader α) : (bound : Nat) → (first : Bool) → Reader (List α)
  | 0, _ => fail .endInList
  | bound + 1, first => do
    if ← anotherItem first then
      let head ← item
      let tail ← readItemsWithin item bound false
      return head :: tail
    else return []

/-- The members of an object up to its end, each folded into a state by its key; `member` goes on
at the colon. -/
def readMembersWithin (member : String → σ → Reader σ) :
    (bound : Nat) → (first : Bool) → σ → Reader σ
  | 0, _, _ => fail .endInObject
  | bound + 1, first, state => do
    if ← anotherMember first then
      let key ← memberKey
      let state ← member key state
      readMembersWithin member bound false state
    else return state

/-- A list after its opening bracket, up to and with its closing bracket. -/
def readItems (item : Reader α) : Reader (List α) := do
  let items ← readItemsWithin item ((← remaining) + 1) true
  closeList
  return items

/-- The members of an object after its opening brace, up to its closing brace, which stays. -/
def readMembers (member : String → σ → Reader σ) (start : σ) : Reader σ := do
  readMembersWithin member ((← remaining) + 1) true start

/-! ## Values -/

/-- The rest of a literal name after its first letter. -/
def finishName (b : UInt8) : Reader Unit :=
  if b = 0x6E then expectOctets (ascii "ull")
  else if b = 0x74 then expectOctets (ascii "rue")
  else expectOctets (ascii "alse")

/-- A value that is neither a list nor an object and starts with octet `b`. -/
def readScalar (b : UInt8) : Reader Value := do
  if b = 0x6E then drop; finishName b; return .null
  else if b = 0x74 then drop; finishName b; return .bool true
  else if b = 0x66 then drop; finishName b; return .bool false
  else if b = 0x2D then drop; return .number (← number true)
  else if isDigit b then return .number (← number false)
  else if b = 0x22 then drop; return .string (← stringBody)
  else fail .expectedValue

/-- Goes one level deeper, if that is allowed. -/
def deeper (inner : Option (Reader α)) : Reader (Reader α) :=
  match inner with
  | none => fail .tooDeep
  | some reader => return reader

/-- Any value; the values inside it are read by `inner`, without which lists and objects are too
deep. -/
def readValueOver (inner : Option (Reader Value)) : Reader Value := do
  match ← peek with
  | none => fail .endInValue
  | some 0x5B =>
    let item ← deeper inner
    drop
    return .array (← readItems item)
  | some 0x7B =>
    let item ← deeper inner
    drop
    let members ← readMembers (fun key members => do
      colon
      let value ← item
      return (key, value) :: members) []
    closeObject
    return .object members.reverse
  | some b => readScalar b

/-- Any value with at most `depth` levels of lists and objects. -/
def readValue : (depth : Nat) → Reader Value
  | 0 => readValueOver none
  | depth + 1 => readValueOver (some (readValue depth))

/-! ## Values that are passed over -/

/-- The octet after a comma or an opening bracket or brace belongs to the next item as it stands,
so a comma before the end is not noticed as such. -/
def skipItemsWithin (item : Reader Unit) : (bound : Nat) → Reader Unit
  | 0 => fail .endInList
  | bound + 1 => do
    item
    match ← peek with
    | none => fail .endInList
    | some 0x5D => drop
    | some 0x2C => drop; skipItemsWithin item bound
    | some _ => fail .expectedListCommaOrEnd

def skipMember (value : Reader Unit) : Reader Unit := do
  match ← peek with
  | none => fail .endInObject
  | some 0x22 =>
    drop
    skipStringBody
    colon
    value
  | some _ => fail .keyNotString

def skipMembersWithin (value : Reader Unit) : (bound : Nat) → Reader Unit
  | 0 => fail .endInObject
  | bound + 1 => do
    skipMember value
    match ← peek with
    | none => fail .endInObject
    | some 0x7D => drop
    | some 0x2C => drop; skipMembersWithin value bound
    | some _ => fail .expectedObjectCommaOrEnd

def skipScalar (b : UInt8) : Reader Unit := do
  if b = 0x6E ∨ b = 0x74 ∨ b = 0x66 then drop; finishName b
  else if b = 0x2D then drop; skipNumber
  else if isDigit b then skipNumber
  else if b = 0x22 then drop; skipStringBody
  else fail .expectedValue

/-- Passes over a value when fewer than `depth` octets are left: every level and every item takes one
of them, so `depth` bounds both. -/
def skipWithin : (depth : Nat) → Reader Unit
  | 0 => fail .tooDeep
  | depth + 1 => do
    match ← peek with
    | none => fail .endInValue
    | some 0x5B =>
      drop
      match ← peek with
      | none => fail .endInList
      | some 0x5D => drop
      | some _ => skipItemsWithin (skipWithin depth) depth
    | some 0x7B =>
      drop
      match ← peek with
      | none => fail .endInObject
      | some 0x7D => drop
      | some _ => skipMembersWithin (skipWithin depth) depth
    | some b => skipScalar b

/-- Passes over one value, of any depth: every level takes an octet. -/
def skipValue : Reader Unit := do
  skipWithin ((← remaining) + 1)

/-! ## Whole texts -/

/-- Nothing but white space is left. -/
def atEnd : Reader Unit := do
  match ← peek with
  | none => return ()
  | some _ => fail .trailingCharacters

/-- Reads a whole input. -/
def readAll (reader : Reader α) (input : Bytes) : Except Fault α :=
  ((do let value ← reader; atEnd; return value : Reader α).run input).map (·.1)

/-- The value that a text of octets holds. -/
def parse (input : Bytes) : Except Fault Value := readAll (readValue maxDepth) input

end BearerClient.Json
