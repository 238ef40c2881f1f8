/-!
# JSON values

A value as it stands in a text: members keep their order and may repeat a key.  The *sorted* form
of a value orders the members of every object by the code points of their keys and keeps the last
of several members with one key; it is the form in which values are compared and sent.
-/

namespace BearerClient.Json

/-- Integers are exact between -2^63 and 2^64 - 1; all other numbers are binary floating-point
values of 64 bits, given by their bits. -/
inductive Number where
  | int (value : Int)
  | float (bits : UInt64)
  deriving Repr, DecidableEq

inductive Value where
  | null
  | bool (value : Bool)
  | number (value : Number)
  | string (text : String)
  | array (items : List Value)
  | object (members : List (String × Value))
  deriving Repr, Inhabited

namespace Value

def int (n : Int) : Value := .number (.int n)

/-- The last member with a key. -/
def lookup (members : List (String × α)) (key : String) : Option α :=
  (members.reverse.find? fun member => member.1 == key).map (·.2)

/-- The member of an object; nothing for any other value. -/
def member? (key : String) : Value → Option Value
  | .object members => lookup members key
  | _ => none

def string? : Value → Option String
  | .string text => some text
  | _ => none

/-- Puts a member into members ordered by key, in place of one with the same key. -/
def insertMember (key : String) (value : α) : List (String × α) → List (String × α)
  | [] => [(key, value)]
  | (k, v) :: rest =>
    if key < k then (key, value) :: (k, v) :: rest
    else if key = k then (key, value) :: rest
    else (k, v) :: insertMember key value rest

/-- Members ordered by key; of several with one key the last. -/
def sortMembers (members : List (String × α)) : List (String × α) :=
  members.foldl (fun sorted member => insertMember member.1 member.2 sorted) []

mutual
/-- The form with ordered members, throughout. -/
def sorted : Value → Value
  | .array items => .array (sortedItems items)
  | .object members => .object (sortMembers (sortedMembers members))
  | v => v

def sortedItems : List Value → List Value
  | [] => []
  | v :: rest => v.sorted :: sortedItems rest

def sortedMembers : List (String × Value) → List (String × Value)
  | [] => []
  | (key, v) :: rest => (key, v.sorted) :: sortedMembers rest
end

-- Equality is not derived for a type that is nested in lists of itself.
mutual
/-- Whether two values are the same, in the order of their members too. -/
def same : Value → Value → Bool
  | .null, .null => true
  | .bool value, .bool value' => value = value'
  | .number value, .number value' => value = value'
  | .string text, .string text' => text = text'
  | .array items, .array items' => sameItems items items'
  | .object members, .object members' => sameMembers members members'
  | _, _ => false

def sameItems : List Value → List Value → Bool
  | [], [] => true
  | v :: rest, v' :: rest' => same v v' && sameItems rest rest'
  | _, _ => false

def sameMembers : List (String × Value) → List (String × Value) → Bool
  | [], [] => true
  | (key, v) :: rest, (key', v') :: rest' => key = key' && same v v' && sameMembers rest rest'
  | _, _ => false
end

mutual
theorem same_iff : (v v' : Value) → (same v v' = true ↔ v = v')
  | .null, v' => by cases v' <;> simp [same]
  | .bool value, v' => by cases v' <;> simp [same]
  | .number value, v' => by cases v' <;> simp [same]
  | .string text, v' => by cases v' <;> simp [same]
  | .array items, v' => by cases v' <;> simp [same, sameItems_iff items]
  | .object members, v' => by cases v' <;> simp [same, sameMembers_iff members]

theorem sameItems_iff : (items items' : List Value) →
    (sameItems items items' = true ↔ items = items')
  | [], items' => by cases items' <;> simp [sameItems]
  | v :: rest, [] => by simp [sameItems]
  | v :: rest, v' :: rest' => by simp [sameItems, same_iff v v', sameItems_iff rest rest']

theorem sameMembers_iff : (members members' : List (String × Value)) →
    (sameMembers members members' = true ↔ members = members')
  | [], members' => by cases members' <;> simp [sameMembers]
  | (key, v) :: rest, [] => by simp [sameMembers]
  | (key, v) :: rest, (key', v') :: rest' => by
      simp [sameMembers, same_iff v v', sameMembers_iff rest rest']
end

instance : DecidableEq Value := fun v v' => decidable_of_iff (same v v' = true) (same_iff v v')

end Value
end BearerClient.Json
