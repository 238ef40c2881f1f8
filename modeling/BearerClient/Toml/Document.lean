import BearerClient.Toml.Quoted
import BearerClient.Toml.Table

/-!
# Documents of TOML

Reading a document happens in two steps: its text becomes a list of statements, headers and
entries, and these build up one table.
-/

namespace BearerClient.Toml

/-! ## White space -/

def dropBlanks (text : List Char) : List Char := text.dropWhile isBlank

/-- Drops blanks, line breaks and comments. -/
def dropLines : (inComment : Bool) → List Char → Option (List Char)
  | _, [] => some []
  | true, c :: rest =>
    if isLineBreak (c :: rest) then dropLines false rest
    else if isTextChar c then dropLines true rest
    else none
  | false, c :: rest =>
    if isBlank c ∨ isLineBreak (c :: rest) then dropLines false rest
    else if c = '#' then dropLines true rest
    else some (c :: rest)

/-- Whether nothing more than a comment is left of a line. -/
def endsLine (text : List Char) : Bool :=
  match dropBlanks text with
  | [] | '#' :: _ => true
  | rest => isLineBreak rest

/-! ## Keys -/

def isBareChar (c : Char) : Bool := c.isAlphanum || c = '_' || c = '-'

/-- Reads one part of a key. -/
def keyPart? (text : List Char) : Option (String × List Char) :=
  match quotedKey? text with
  | some (part, rest) => some (String.ofList part, rest)
  | none =>
    let part := text.takeWhile isBareChar
    if part.isEmpty then none else some (String.ofList part, text.dropWhile isBareChar)

/-- Reads a dotted key of at most `parts` parts, and the blanks around them. -/
def keyWithin : (parts : Nat) → List Char → Option (List String × List Char)
  | 0, _ => none
  | parts + 1, text => do
    let (part, rest) ← keyPart? (dropBlanks text)
    match dropBlanks rest with
    | '.' :: rest =>
      let (path, rest) ← keyWithin parts rest
      some (part :: path, rest)
    | rest => some ([part], rest)

/-- Reads a dotted key. -/
def key? (text : List Char) : Option (List String × List Char) := keyWithin text.length text

/-! ## Values -/

/-- Reads of what a value consists of. -/
abbrev ValueReader := List Char → Option (Value × List Char)

/-- Reads the items of an array, at most `items` of them, and the closing bracket. -/
def readItems (readValue : ValueReader) : (items : Nat) → List Char →
    Option (List Value × List Char)
  | 0, _ => none
  | items + 1, text => do
    match ← dropLines false text with
    | ']' :: rest => some ([], rest)
    | text =>
      let (value, rest) ← readValue text
      match ← dropLines false rest with
      | ',' :: rest =>
        let (values, rest) ← readItems readValue items rest
        some (value :: values, rest)
      | ']' :: rest => some ([value], rest)
      | _ => none

/-- Reads a key, the equals sign after it and a value. -/
def readEntry (readValue : ValueReader) (text : List Char) :
    Option ((List String × Value) × List Char) := do
  let (path, rest) ← key? text
  let (value, rest) ← readValue (dropBlanks (← expect? '=' rest))
  some ((path, value), rest)

/-- Reads the entries of a table in braces, at most `entries` of them, and the closing brace. -/
def readEntries (readValue : ValueReader) : (entries : Nat) → List Char →
    Option (List (List String × Value) × List Char)
  | 0, _ => none
  | entries + 1, text => do
    match ← dropLines false text with
    | '\x7d' :: rest => some ([], rest)
    | text =>
      let (entry, rest) ← readEntry readValue text
      match ← dropLines false rest with
      | ',' :: rest =>
        let (others, rest) ← readEntries readValue entries rest
        some (entry :: others, rest)
      | '\x7d' :: rest => some ([entry], rest)
      | _ => none

/-- The table that entries make. -/
def ofEntries (entries : List (List String × Value)) : Except Fault Members :=
  entries.foldlM (fun (members : Members) entry => members.addEntry entry.1 entry.2) []

/-- Reads a value in which arrays and tables nest at most `depth` deep. -/
def readValue : (depth : Nat) → ValueReader
  | depth, text =>
    match quoted? text with
    | some (content, rest) => some (.text (String.ofList content), rest)
    | none =>
      match depth, text with
      | depth + 1, '[' :: rest => do
        let (items, rest) ← readItems (readValue depth) (rest.length + 1) rest
        some (.array items, rest)
      | depth + 1, '\x7b' :: rest => do
        let (entries, rest) ← readEntries (readValue depth) (rest.length + 1) rest
        match ofEntries entries with
        | .ok members => some (.table .braces members, rest)
        | .error _ => none
      | _, text => (scalar text).map fun (value, rest) => (.scalar value, rest)

/-- How deep values may nest. -/
def maxDepth : Nat := 80

/-! ## Statements -/

inductive Statement where
  | header (path : List String)
  | elementHeader (path : List String)
  | entry (path : List String) (value : Value)

/-- Reads one statement. -/
def readStatement (text : List Char) : Option (Statement × List Char) :=
  match text with
  | '[' :: '[' :: rest => do
    let (path, rest) ← key? rest
    some (.elementHeader path, ← expect? ']' (← expect? ']' rest))
  | '[' :: rest => do
    let (path, rest) ← key? rest
    some (.header path, ← expect? ']' rest)
  | _ => do
    let ((path, value), rest) ← readEntry (readValue maxDepth) text
    some (.entry path value, rest)

/-- Reads statements up to the end, at most `statements` of them. -/
def readStatements : (statements : Nat) → List Char → Option (List Statement)
  | 0, _ => none
  | statements + 1, text => do
    match ← dropLines false text with
    | [] => some []
    | text =>
      let (statement, rest) ← readStatement text
      if endsLine rest then
        let others ← readStatements statements rest
        some (statement :: others)
      else none

/-! ## Documents -/

/-- A document as far as it has been read, and the path that its last header gave. -/
structure Draft where
  members : Members := []
  opened : List String := []

/-- Adds a statement to a document. -/
def Draft.add (draft : Draft) : Statement → Except Fault Draft
  | .header path => do
    let key := path.getLast?.getD ""
    let members ← draft.members.alter Members.byHeader (·.openTable key) path.dropLast
    .ok ⟨members, path⟩
  | .elementHeader path => do
    let key := path.getLast?.getD ""
    let members ← draft.members.alter Members.byHeader (·.openElement key) path.dropLast
    .ok ⟨members, path⟩
  | .entry path value => do
    let members ← draft.members.alter Members.byHeader (·.addEntry path value) draft.opened
    .ok { draft with members }

/-- Drops a byte order mark. -/
def dropMark : List Char → List Char
  | '\ufeff' :: rest => rest
  | text => text

/-- The table that a document stands for. -/
def parse (text : String) : Except Fault Members :=
  let text := dropMark text.toList
  match readStatements (text.length + 1) text with
  | none => .error .malformed
  | some statements => (·.members) <$> statements.foldlM Draft.add {}

end BearerClient.Toml
