import BearerClient.Url.Idna.Labels
import BearerClient.Url.Idna.Mapping
import BearerClient.Url.Idna.Punycode

/-!
# International host names

The ASCII form of a host name.  Its characters are mapped and composed, and each label between dots
that is not ASCII then is written in Punycode behind a mark.  A label that has the mark already has
to stand for text that could have been written so.
-/

namespace BearerClient.Url.Idna

/-- ASCII characters that no host name may hold. -/
def isForbidden (c : Char) : Bool :=
  c.toNat ≤ 0x20 || c.toNat = 0x7F ||
    ['%', '#', '/', ':', '<', '>', '?', '@', '[', '\\', ']', '^', '|'].contains c

def isAscii (c : Char) : Bool := c.toNat < 0x80

/-- The mark of labels in Punycode. -/
def mark : List Char := "xn--".toList

/-- The longest label that is encoded, and the longest one that is decoded. -/
def maxEncoded : Nat := 1000

def maxDecoded : Nat := 2000

/-- A label of a name: its ASCII form and the text that this stands for. -/
structure Label where
  ascii : List Char
  text : List Char

/-- What a label with a mark stands for: text beyond ASCII that is mapped and composed. -/
def marked? (label : List Char) : Option Label :=
  let digits := label.drop mark.length
  if !label.all isAscii ∨ maxDecoded < digits.length then none
  else
    match Punycode.decode? digits with
    | none => none
    | some text =>
      if !text.all isAscii ∧ text.all (statusOf · = .valid) ∧ normalForm text = text then
        some ⟨label, text⟩
      else none

def label? (label : List Char) : Option Label :=
  if mark.isPrefixOf label then marked? label
  else if label.all isAscii then some ⟨label, label⟩
  else if maxEncoded < label.length then none
  else some ⟨mark ++ Punycode.encode label, label⟩

/-- Whether the text of a label is in order. -/
def Label.isValid (label : Label) (bothWays : Bool) : Bool :=
  !label.text.any isForbidden && !(label.text.head?.any isMark) && joinersPlaced [] label.text &&
    (!bothWays || keepsDirection label.text)

/-- The ASCII form of a name with characters beyond ASCII or labels with a mark. -/
def convert? (name : List Char) : Option (List Char) := do
  let mapped ← name.mapM replacement?
  let labels ← ((normalForm mapped.flatten).splitOn '.').mapM label?
  let bothWays := labels.any (·.text.any runsLeft)
  if labels.all (·.isValid bothWays) then
    some (['.'].intercalate (labels.map (·.ascii)))
  else none

/-- Whether a name in small letters is its own ASCII form if no character in it is forbidden. -/
def isPlain (name : List Char) : Bool :=
  name.all isAscii && !(name.splitOn '.').any mark.isPrefixOf

/-- The ASCII form of a host name. -/
def toAscii? (name : List Char) : Option (List Char) :=
  let lowered := name.map Char.toLower
  if isPlain lowered then
    if lowered.any isForbidden then none else some lowered
  else convert? name

end BearerClient.Url.Idna
