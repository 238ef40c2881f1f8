import BearerClient.Text.Utf8

/-!
# Quoted texts of TOML

A text stands between quotation marks of one of two kinds; with double ones a backslash escapes.
Three marks in place of one let the text span lines: then a line break right after the opening
marks is dropped, up to two marks may stand right before the closing ones, and an escaped line
break is dropped together with the white space around it.
-/

namespace BearerClient.Toml

def isBlank (c : Char) : Bool := c = ' ' || c = '\t'

/-- Characters of comments and of texts in one line. -/
def isTextChar (c : Char) : Bool := c = '\t' || (0x20 ≤ c.toNat && c.toNat != 0x7F)

/-- Which marks a text stands between. -/
structure Quotes where
  mark : Char
  /-- three marks, and texts of several lines -/
  long : Bool
  deriving DecidableEq

namespace Quotes

/-- Whether a backslash escapes. -/
def escapes (quotes : Quotes) : Bool := quotes.mark = '"'

/-- Recognises the end of a text: the marks that still belong to it, and what follows it. -/
def close? (quotes : Quotes) (text : List Char) : Option (List Char × List Char) :=
  let marks := (text.takeWhile (· = quotes.mark)).length
  if quotes.long then
    if 3 ≤ marks then
      let kept := min marks 5 - 3
      some (List.replicate kept quotes.mark, text.drop (kept + 3))
    else none
  else if 1 ≤ marks then some ([], text.drop 1) else none

end Quotes

/-- The value of a hexadecimal digit. -/
def hexDigit? (c : Char) : Option Nat :=
  if c.isDigit then some (c.toNat - '0'.toNat)
  else if 'a' ≤ c ∧ c ≤ 'f' then some (c.toNat - 'a'.toNat + 10)
  else if 'A' ≤ c ∧ c ≤ 'F' then some (c.toNat - 'A'.toNat + 10)
  else none

/-- The character of a code point, which is not half of a pair of code units. -/
def scalar? (code : Nat) : Option Char :=
  if code.isValidChar then some (Char.ofNat code) else none

/-- What a letter stands for after a backslash. -/
def escaped? : Char → Option Char
  | 'b' => some '\x08'
  | 't' => some '\t'
  | 'n' => some '\n'
  | 'f' => some '\x0c'
  | 'r' => some '\x0d'
  | 'e' => some '\x1b'
  | '"' => some '"'
  | '\\' => some '\\'
  | _ => none

/-- How many hexadecimal digits follow a letter after a backslash. -/
def codeLength? : Char → Option Nat
  | 'x' => some 2
  | 'u' => some 4
  | 'U' => some 8
  | _ => none

/-- Where the reader of a text stands. -/
inductive Reading where
  | plain
  | afterBackslash
  /-- inside a code point, with a number of further digits -/
  | code (digits value : Nat)
  /-- after an escaped line break, or in the white space before it -/
  | afterLine (broken : Bool)

/-- A line break has to be complete. -/
def isLineBreak : List Char → Bool
  | '\n' :: _ | '\x0d' :: '\n' :: _ => true
  | _ => false

def Reading.rank : Reading → Nat
  | plain => 0
  | _ => 1

/-- Reads a text up to its end: its contents, and what follows it. -/
def readText (quotes : Quotes) : Reading → List Char → Option (List Char × List Char)
  | _, [] => none
  | .plain, c :: rest =>
    match quotes.close? (c :: rest) with
    | some (kept, after) => some (kept, after)
    | none =>
      if c = '\\' ∧ quotes.escapes then readText quotes .afterBackslash rest
      else if isTextChar c ∨ (quotes.long ∧ isLineBreak (c :: rest)) then
        (readText quotes .plain rest).map fun (text, after) => (c :: text, after)
      else none
  | .afterBackslash, c :: rest =>
    match codeLength? c, escaped? c with
    | some digits, _ => readText quotes (.code digits 0) rest
    | none, some d => (readText quotes .plain rest).map fun (text, after) => (d :: text, after)
    | none, none =>
      if quotes.long ∧ (isBlank c ∨ isLineBreak (c :: rest)) then
        readText quotes (.afterLine (c = '\n')) rest
      else none
  | .code digits value, c :: rest =>
    match hexDigit? c with
    | none => none
    | some d =>
      if digits = 1 then
        match scalar? (16 * value + d) with
        | some e => (readText quotes .plain rest).map fun (text, after) => (e :: text, after)
        | none => none
      else readText quotes (.code (digits - 1) (16 * value + d)) rest
  | .afterLine broken, c :: rest =>
    if isBlank c then readText quotes (.afterLine broken) rest
    else if c = '\n' then readText quotes (.afterLine true) rest
    else if isLineBreak (c :: rest) then readText quotes (.afterLine broken) rest
    else if broken then readText quotes .plain (c :: rest)
    else none
termination_by reading text => 2 * text.length + reading.rank
decreasing_by all_goals (simp [Reading.rank]; try omega)

/-- Drops a line break at the start of a text. -/
def dropLineBreak : List Char → List Char
  | '\n' :: rest => rest
  | '\x0d' :: '\n' :: rest => rest
  | text => text

/-- Reads a text with its marks, which may be long ones. -/
def quoted? : List Char → Option (List Char × List Char)
  | '"' :: '"' :: '"' :: rest => readText ⟨'"', true⟩ .plain (dropLineBreak rest)
  | '\x27' :: '\x27' :: '\x27' :: rest => readText ⟨'\x27', true⟩ .plain (dropLineBreak rest)
  | '"' :: rest => readText ⟨'"', false⟩ .plain rest
  | '\x27' :: rest => readText ⟨'\x27', false⟩ .plain rest
  | _ => none

/-- Reads a text in one line with its marks. -/
def quotedKey? : List Char → Option (List Char × List Char)
  | '"' :: rest => readText ⟨'"', false⟩ .plain rest
  | '\x27' :: rest => readText ⟨'\x27', false⟩ .plain rest
  | _ => none

end BearerClient.Toml
