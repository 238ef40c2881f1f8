import BearerClient.Toml.Scalar

/-!
# Tables of TOML

A document builds up a table by headers, which open the table or list element that the entries
after them go to, and by dotted keys, which open tables on the way.  A table may be opened in one
of these ways only, and no key may be given two values.
-/

namespace BearerClient.Toml

/-- How a table came to be. -/
inductive Origin where
  /-- by a header of its own -/
  | header
  /-- by the header of a table inside it -/
  | implied
  /-- by a dotted key -/
  | dotted
  /-- in braces -/
  | braces
  deriving Repr, DecidableEq

inductive Value where
  | text (text : String)
  | scalar (scalar : Scalar)
  | array (items : List Value)
  | table (origin : Origin) (members : List (String × Value))
  /-- a list of tables, one for each header in double brackets -/
  | tables (items : List (List (String × Value)))

/-- The members of a table in the order in which they came to be. -/
abbrev Members := List (String × Value)

/-- Why a text is no document, or not the one that was wanted. -/
inductive Fault where
  | malformed
  | conflict (key : String)
  | missing (key : String)
  | wrongType (key : String)
  deriving Repr, DecidableEq

def Fault.message : Fault → String
  | .malformed => "not a TOML document"
  | .conflict key => "key `" ++ key ++ "` is defined twice"
  | .missing key => "missing field `" ++ key ++ "`"
  | .wrongType key => "invalid type for key `" ++ key ++ "`"

namespace Members

/-- Gives a key another value. -/
def replace (members : Members) (key : String) (value : Value) : Members :=
  members.map fun member => if member.1 = key then (key, value) else member

/-- Adds a value under a key that has none. -/
def add (members : Members) (key : String) (value : Value) : Except Fault Members :=
  if (members.lookup key).isSome then .error (.conflict key) else .ok (members ++ [(key, value)])

/-- Which tables a key may lead into. -/
structure Passage where
  /-- how tables come to be on the way -/
  opens : Origin
  /-- whether a table of some origin may be entered, also as the last one -/
  enters : (last : Bool) → Origin → Bool
  /-- whether a list of tables may be entered, also as the last one; its last table is meant -/
  entersLists : (last : Bool) → Bool

/-- Headers lead into every table that is not written in braces. -/
def byHeader : Passage := ⟨.implied, fun _ origin => origin != .braces, fun _ => true⟩

/-- Dotted keys end in tables that dotted keys have opened. -/
def byKey : Passage :=
  ⟨.dotted, fun last origin => origin = .dotted || (!last && origin = .implied), fun last => !last⟩

/-- Changes the table that a path leads to. -/
def alter (passage : Passage) (change : Members → Except Fault Members) :
    List String → Members → Except Fault Members
  | [], members => change members
  | key :: path, members =>
    match members.lookup key with
    | none => do
      let inner ← alter passage change path []
      .ok (members ++ [(key, .table passage.opens inner)])
    | some (.table origin inner) =>
      if passage.enters path.isEmpty origin then do
        let inner ← alter passage change path inner
        .ok (members.replace key (.table origin inner))
      else .error (.conflict key)
    | some (.tables items) =>
      if passage.entersLists path.isEmpty then do
        let inner ← alter passage change path (items.getLast?.getD [])
        .ok (members.replace key (.tables (items.dropLast ++ [inner])))
      else .error (.conflict key)
    | some _ => .error (.conflict key)

/-- Adds an entry with a dotted key. -/
def addEntry (members : Members) (path : List String) (value : Value) : Except Fault Members :=
  match path.getLast? with
  | none => .error .malformed
  | some key => members.alter byKey (·.add key value) path.dropLast

/-- Opens a table by its header. -/
def openTable (members : Members) (key : String) : Except Fault Members :=
  match members.lookup key with
  | none => .ok (members ++ [(key, .table .header [])])
  | some (.table .implied inner) => .ok (members.replace key (.table .header inner))
  | some _ => .error (.conflict key)

/-- Opens the next table of a list by its header. -/
def openElement (members : Members) (key : String) : Except Fault Members :=
  match members.lookup key with
  | none => .ok (members ++ [(key, .tables [[]])])
  | some (.tables items) => .ok (members.replace key (.tables (items ++ [[]])))
  | some _ => .error (.conflict key)

end Members
end BearerClient.Toml
