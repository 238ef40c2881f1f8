import BearerClient.Json.Reader

/-!
# Descriptions of shapes

A `Decoder` describes values of one shape.  It can read such a value straight from a text, where a
value of another shape is noticed as soon as it starts, and it can take one from a `Value` that was
read beforehand, where the shape of its members is not yet known when they arrive.  Both come from
one description, so they accept the same values.

A record is written as an object, in any order and with members of other names in between, or as a
list of its fields in order.
-/

namespace BearerClient.Json

open Scan

structure Decoder (α : Type) where
  /-- reads from a text, at most `depth` levels deep -/
  read : (depth : Nat) → Reader α
  ofValue : Value → Except Fault α

namespace Decoder

/-- A value that is neither a list nor an object. -/
def scalar (take : Value → Except Fault α) : Decoder α where
  read _ := do
    match ← peek with
    | none => fail .endInValue
    | some b =>
      if b = 0x5B ∨ b = 0x7B then fail .invalidType
      else
        let value ← readScalar b
        fun input => (take value).map (·, input)
  ofValue := take

/-- Any value at all. -/
def any : Decoder Value := ⟨readValue, .ok⟩

def text : Decoder String := scalar fun
  | .string text => .ok text
  | _ => .error .invalidType

def boolean : Decoder Bool := scalar fun
  | .bool b => .ok b
  | _ => .error .invalidType

def null : Decoder Unit := scalar fun
  | .null => .ok ()
  | _ => .error .invalidType

/-- An integer between two bounds.  A number with a point or an exponent is of another type, an
integer beyond the bounds is of this type but no value of it. -/
def integer (low high : Int) : Decoder Int := scalar fun
  | .number (.int n) => if low ≤ n ∧ n ≤ high then .ok n else .error .invalidValue
  | _ => .error .invalidType

/-- A natural number below `2 ^ bits`. -/
def natural (bits : Nat) : Decoder Nat :=
  let n := integer 0 (Nat.pow 2 bits - 1 : Nat)
  ⟨fun depth => Int.toNat <$> n.read depth, fun value => (n.ofValue value).map Int.toNat⟩

/-- An integer of 64 bits with a sign. -/
def int64 : Decoder Int := integer (-9223372036854775808) 9223372036854775807

/-- Changes or refuses what was read. -/
def refine (decoder : Decoder α) (f : α → Except Fault β) : Decoder β where
  read depth := do
    let a ← decoder.read depth
    fun input => (f a).map (·, input)
  ofValue value := (decoder.ofValue value).bind f

def map (decoder : Decoder α) (f : α → β) : Decoder β := decoder.refine fun a => .ok (f a)

/-- A value or `null`. -/
def optional (decoder : Decoder α) : Decoder (Option α) where
  read depth := do
    match ← peek with
    | some 0x6E => let _ ← readScalar 0x6E; return none
    | _ => return some (← decoder.read depth)
  ofValue
    | .null => .ok none
    | value => (decoder.ofValue value).map some

/-- One level down, where the nesting allows it. -/
def inside (depth : Nat) (inner : Nat → Reader α) : Reader α :=
  match depth with
  | 0 => fail .tooDeep
  | depth + 1 => inner depth

/-- Lists of values of one shape. -/
def list (item : Decoder α) : Decoder (List α) where
  read depth := do
    match ← peek with
    | none => fail .endInValue
    | some 0x5B => inside depth fun depth => do
      drop
      readItems (item.read depth)
    | some 0x7B => fail .invalidType
    | some b => do
      let _ ← readScalar b
      fail .invalidType
  ofValue
    | .array items => items.mapM item.ofValue
    | _ => .error .invalidType

/-! ## One of several names -/

/-- What a name stands for. -/
def variant (names : List (String × α)) (name : String) : Except Fault α :=
  match names.lookup name with
  | some a => .ok a
  | none => .error .unknownVariant

/-- One of several names, as a string or as the only key of an object whose value is `null`. -/
def oneOf (names : List (String × α)) : Decoder α where
  read depth := do
    match ← peek with
    | none => fail .endInValue
    | some 0x22 =>
      drop
      let name ← stringBody
      fun input => (variant names name).map (·, input)
    | some 0x7B => inside depth fun depth => do
      drop
      let a ← (text.refine (variant names)).read depth
      colon
      null.read depth
      match ← peek with
      | none => fail .endInObject
      | some 0x7D => drop; return a
      | some _ => fail .expectedValue
    | some _ => fail .expectedValue
  ofValue
    | .string name => variant names name
    | .object [(name, value)] => do
      let a ← variant names name
      match value with
      | .null | .object [] => .ok a
      | _ => .error .invalidType
    | .object _ => .error .invalidValue
    | _ => .error .invalidType

end Decoder

/-! ## Records -/

structure Member (α : Type) where
  name : String
  decoder : Decoder α
  /-- the value when an object has no such member; without one the member is required -/
  absent : Option α
  /-- the value when a list ends before this field -/
  short : Option α

namespace Member

/-- A field that must be there. -/
def required (name : String) (decoder : Decoder α) : Member α := ⟨name, decoder, none, none⟩

/-- A field with a value of its own when it is not there. -/
def withDefault (name : String) (decoder : Decoder α) (value : α) : Member α :=
  ⟨name, decoder, some value, some value⟩

/-- A field that may be `null`, and in an object also absent. -/
def nullable (name : String) (decoder : Decoder α) : Member (Option α) :=
  ⟨name, decoder.optional, some none, none⟩

end Member

/-- The fields of a record, in order. -/
inductive Record : Type → Type 1 where
  | done : Record Unit
  | field (first : Member α) (rest : Record β) : Record (α × β)

namespace Record

/-- What is known of the fields while the members of an object arrive. -/
@[reducible] def Slots : Record α → Type
  | .done => Unit
  | @field α _ _ rest => Option α × rest.Slots

def noSlots : (record : Record α) → record.Slots
  | .done => ()
  | .field _ rest => (none, rest.noSlots)

/-- Fills the slot of a member from a source of values; nothing if no field has that name.  A
second member of one name is refused before its value is looked at. -/
def fill {m : Type → Type} [Monad m] (refuse : {β : Type} → Fault → m β)
    (source : {β : Type} → Decoder β → m β) (name : String) :
    (record : Record α) → record.Slots → Option (m record.Slots)
  | .done, _ => none
  | .field first rest, slots =>
    let (slot, slots) : Option _ × rest.Slots := slots
    if name = first.name then
      some (match slot with
        | some _ => refuse (.duplicateField name)
        | none => do return (some (← source first.decoder), slots))
    else
      (rest.fill refuse source name slots).map fun filled => do return (slot, ← filled)

/-- The record once all members have been seen: the first field that is missing counts. -/
def finish : (record : Record α) → record.Slots → Except Fault α
  | .done, _ => .ok ()
  | .field first rest, slots => do
    let (slot, slots) : Option _ × rest.Slots := slots
    let a ← match slot, first.absent with
      | some a, _ => .ok a
      | none, some a => .ok a
      | none, none => .error (.missingField first.name)
    let b ← rest.finish slots
    .ok (a, b)

/-- One member read from a text; a member of another name is passed over. -/
def readMember (record : Record α) (depth : Nat) (key : String) (slots : record.Slots) :
    Reader record.Slots :=
  match record.fill fail (fun decoder => do colon; decoder.read depth) key slots with
  | some filled => filled
  | none => do
    colon
    skipValue
    return slots

/-- The fields in order, as items of a list. -/
def readFields (depth : Nat) : Record α → (first : Bool) → Reader α
  | .done, _ => return ()
  | .field f rest, first => do
    if ← anotherItem first then
      let a ← f.decoder.read depth
      return (a, ← rest.readFields depth false)
    else
      match f.short with
      | some a => return (a, ← rest.readFields depth first)
      | none => fail .invalidLength

def readObject (record : Record α) (depth : Nat) : Reader α := do
  drop
  let slots ← readMembers (record.readMember depth) record.noSlots
  let a ← fun input => (record.finish slots).map (·, input)
  closeObject
  return a

def readList (record : Record α) (depth : Nat) : Reader α := do
  drop
  let a ← record.readFields depth true
  closeList
  return a

/-- One member of an object that was read beforehand. -/
def takeMember (record : Record α) (slots : record.Slots) (member : String × Value) :
    Except Fault record.Slots :=
  match record.fill .error (fun decoder => decoder.ofValue member.2) member.1 slots with
  | some filled => filled
  | none => .ok slots

def ofMembers (record : Record α) (members : List (String × Value)) : Except Fault α := do
  let slots ← members.foldlM record.takeMember record.noSlots
  record.finish slots

/-- The fields in order; no item may be left over. -/
def ofItems : Record α → List Value → Except Fault α
  | .done, [] => .ok ()
  | .done, _ :: _ => .error .invalidLength
  | .field f rest, [] => do
    match f.short with
    | some a => .ok (a, ← rest.ofItems [])
    | none => .error .invalidLength
  | .field f rest, value :: values => do
    let a ← f.decoder.ofValue value
    .ok (a, ← rest.ofItems values)

/-- A record as an object or as the list of its fields. -/
def decoder (record : Record α) : Decoder α where
  read depth := do
    match ← peek with
    | none => fail .endInValue
    | some 0x5B => Decoder.inside depth record.readList
    | some 0x7B => Decoder.inside depth record.readObject
    | some b => do
      let _ ← readScalar b
      fail .invalidType
  ofValue
    | .object members => record.ofMembers members
    | .array items => record.ofItems items
    | _ => .error .invalidType

/-- A record that must be written as an object. -/
def objectDecoder (record : Record α) : Decoder α where
  read depth := do
    match ← peek with
    | none => fail .endInValue
    | some 0x5B => Decoder.inside depth fun _ => fail .invalidType
    | some 0x7B => Decoder.inside depth record.readObject
    | some b => do
      let _ ← readScalar b
      fail .invalidType
  ofValue
    | .object members => record.ofMembers members
    | _ => .error .invalidType

end Record

/-- Reads a whole text as a value of the described shape. -/
def Decoder.run (decoder : Decoder α) (input : Bytes) : Except Fault α :=
  readAll (decoder.read maxDepth) input

end BearerClient.Json
