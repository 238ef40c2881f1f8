import BearerClient.Text.Hidden

/-!
# Quoted text

Text as it is shown to a reader inside double quotes: the quote and the backslash are escaped, the
usual control characters have letters, and every other character that would not be seen is given
by its code point in braces.
-/

namespace BearerClient.Text

/-- A number in lower-case hexadecimal. -/
def hex (n : Nat) : List Char := Nat.toDigits 16 n

/-- One character inside quotes. -/
def shown (c : Char) : List Char :=
  if c = '"' then ['\\', '"']
  else if c = '\\' then ['\\', '\\']
  else if c = '\n' then ['\\', 'n']
  else if c = '\t' then ['\\', 't']
  else if c = '\x0d' then ['\\', 'r']
  else if c = '\x00' then ['\\', '0']
  else if isHidden c then ['\\', 'u', '\x7b'] ++ hex c.toNat ++ ['\x7d']
  else [c]

/-- A text in double quotes. -/
def quote (text : String) : String := String.ofList ('"' :: text.toList.flatMap shown ++ ['"'])

/-- A record as it is shown: its name, its fields with their values, and a mark where fields are
left out. -/
def showRecord (name : String) (fields : List (String × String)) (omitted : Bool) : String :=
  let shownFields := fields.map (fun field => field.1 ++ ": " ++ field.2) ++
    (if omitted then [".."] else [])
  name ++ " \x7b " ++ ", ".intercalate shownFields ++ " \x7d"

/-- A value that may be missing, as it is shown. -/
def showOption : Option String → String
  | none => "None"
  | some text => "Some(" ++ text ++ ")"

end BearerClient.Text
