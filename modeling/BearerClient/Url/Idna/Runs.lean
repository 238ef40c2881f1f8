/-!
# Tables as runs

A property of all code points is written as a sequence of runs, one after the other from some code
point on.  Each run is a word: a letter that tells the kind of the run, and numbers in base 36 with
points between them, the first of which is the length of the run.
-/

namespace BearerClient.Url.Idna

structure Run where
  kind : Char
  numbers : List Int

namespace Run

def digitValue (c : Char) : Nat :=
  if c.isDigit then c.toNat - '0'.toNat else c.toNat - 'a'.toNat + 10

/-- A number in base 36, with a minus sign if it is negative. -/
def number (text : List Char) : Int :=
  match text with
  | '-' :: digits => -(digits.foldl (fun n c => 36 * n + digitValue c) 0 : Nat)
  | digits => (digits.foldl (fun n c => 36 * n + digitValue c) 0 : Nat)

def ofWord : List Char → Option Run
  | [] => none
  | kind :: text => some ⟨kind, (text.splitOn '.').map number⟩

def isSpace (c : Char) : Bool := c = ' ' || c = '\n'

/-- The runs of a table. -/
def table (text : String) : List Run :=
  (text.toList.splitOnP isSpace).filterMap ofWord

/-- How many code points the run covers. -/
def length (run : Run) : Nat := (run.numbers.headD 0).toNat

/-- The run that covers the code point after a number of others, and its place in the run. -/
def find? : List Run → (offset : Nat) → Option (Run × Nat)
  | [], _ => none
  | run :: runs, offset =>
    if offset < run.length then some (run, offset) else find? runs (offset - run.length)

/-- The kind of a code point; past the last run it is `default`. -/
def kindAt (runs : List Run) (default : Char) (code : Nat) : Char :=
  ((find? runs code).map (·.1.kind)).getD default

end Run
end BearerClient.Url.Idna
