import BearerClient.Json.Decoder

/-!
# Tagged values

A value of one of several shapes, written as an object with a tag, which names the shape, and a
content of that shape.  The two members come in either order.  A content that comes after its tag
is read as what it is; one that comes first is read as any value and taken apart once the tag is
known.  Other members are passed over, and a list of tag and content will do as well.
-/

namespace BearerClient.Json

structure Tagged (τ α : Type) where
  tagName : String
  contentName : String
  tag : Decoder τ
  content : τ → Decoder α
  /-- the value of a tag that stands alone -/
  alone : τ → Option α

namespace Tagged

open Scan

/-- Which of the two members a key names. -/
inductive Role where
  | tag
  | content

def role? (shape : Tagged τ α) (key : String) : Option Role :=
  if key = shape.tagName then some .tag
  else if key = shape.contentName then some .content
  else none

/-- What is known after some members. -/
inductive Progress (τ α : Type) where
  | nothing
  | tagged (tag : τ)
  /-- a content whose shape is not yet known -/
  | held (content : Value)
  | complete (value : α)

/-- One more member.  Once a value is complete, a repeated member is refused. -/
def member (shape : Tagged τ α) (depth : Nat) (key : String) (progress : Progress τ α) :
    Reader (Progress τ α) :=
  match shape.role? key, progress with
  | none, _ => do
    colon
    skipValue
    return progress
  | some .tag, .nothing => do
    colon
    return .tagged (← shape.tag.read depth)
  | some .content, .nothing => do
    colon
    return .held (← readValue depth)
  | some .content, .tagged tag => do
    colon
    return .complete (← (shape.content tag).read depth)
  | some .tag, .held content => do
    colon
    let tag ← shape.tag.read depth
    fun input => ((shape.content tag).ofValue content).map (.complete ·, input)
  | some .tag, _ => fail (.duplicateField shape.tagName)
  | some .content, _ => fail (.duplicateField shape.contentName)

def finish (shape : Tagged τ α) : Progress τ α → Except Fault α
  | .nothing | .held _ => .error (.missingField shape.tagName)
  | .tagged tag =>
    match shape.alone tag with
    | some value => .ok value
    | none => .error (.missingField shape.contentName)
  | .complete value => .ok value

def readObject (shape : Tagged τ α) (depth : Nat) : Reader α := do
  drop
  let progress ← readMembers (shape.member depth) .nothing
  let value ← fun input => (shape.finish progress).map (·, input)
  closeObject
  return value

def readList (shape : Tagged τ α) (depth : Nat) : Reader α := do
  drop
  unless ← anotherItem true do fail .invalidLength
  let tag ← shape.tag.read depth
  unless ← anotherItem false do fail .invalidLength
  let value ← (shape.content tag).read depth
  closeList
  return value

/-- Reads a tagged value from a text. -/
def read (shape : Tagged τ α) (depth : Nat) : Reader α := do
  match ← peek with
  | none => fail .endInValue
  | some 0x5B => Decoder.inside depth shape.readList
  | some 0x7B => Decoder.inside depth shape.readObject
  | some b => do
    let _ ← readScalar b
    fail .invalidType

end Tagged
end BearerClient.Json
