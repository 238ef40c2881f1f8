/-!
# UTF-8

Octets on the wire and the text they stand for.  A sequence of octets is cut into *pieces*: whole
characters, runs of octets that no character can start with, and a last character that the end of
the input interrupts.  Strict reading, reading with replacement characters and the two faults that
strict reading reports are all folds over the pieces, so they agree on where a character ends.
-/

namespace BearerClient

/-- A sequence of octets. -/
abbrev Bytes := List UInt8

namespace Text

/-- The UTF-8 form of a text. -/
def utf8 (text : String) : Bytes := text.toList.flatMap String.utf8EncodeChar

namespace Utf8

/-- What a sequence of octets consists of. -/
inductive Piece where
  /-- a whole character -/
  | char (c : Char)
  /-- octets, one to three, that are not the start of any character -/
  | broken (length : Nat)
  /-- the start of a character, cut off by the end of the input -/
  | cut
  deriving Repr, DecidableEq

/-- What the first octet of a character announces: the number of octets that follow it and, where
there are several, the range of the second one. -/
inductive Lead where
  | one
  | two
  | three (low high : UInt8)
  | four (low high : UInt8)
  | invalid
  deriving Repr, DecidableEq

/-- The second octet is narrowed after E0, ED, F0 and F4, which rules out overlong forms,
surrogates and values above 10FFFF. -/
def Lead.of (a : UInt8) : Lead :=
  if a ≤ 0x7F then .one
  else if a < 0xC2 then .invalid
  else if a ≤ 0xDF then .two
  else if a = 0xE0 then .three 0xA0 0xBF
  else if a = 0xED then .three 0x80 0x9F
  else if a ≤ 0xEF then .three 0x80 0xBF
  else if a = 0xF0 then .four 0x90 0xBF
  else if a ≤ 0xF3 then .four 0x80 0xBF
  else if a = 0xF4 then .four 0x80 0x8F
  else .invalid

/-- An octet of the form 10xxxxxx. -/
def isTail (b : UInt8) : Bool := 0x80 ≤ b && b ≤ 0xBF

/-- The low six bits of a tail octet. -/
def tailBits (b : UInt8) : Nat := b.toNat % 64

def char2 (a b : UInt8) : Char := Char.ofNat (a.toNat % 32 * 64 + tailBits b)

def char3 (a b c : UInt8) : Char :=
  Char.ofNat (a.toNat % 16 * 4096 + tailBits b * 64 + tailBits c)

def char4 (a b c d : UInt8) : Char :=
  Char.ofNat (a.toNat % 8 * 262144 + tailBits b * 4096 + tailBits c * 64 + tailBits d)

/-- The piece that starts with octet `a`, and how many of the octets after `a` belong to it. -/
def first (a : UInt8) (rest : Bytes) : Piece × Nat :=
  match Lead.of a, rest with
  | .one, _ => (.char (Char.ofNat a.toNat), 0)
  | .invalid, _ => (.broken 1, 0)
  | .two, [] => (.cut, 0)
  | .two, b :: _ => if isTail b then (.char (char2 a b), 1) else (.broken 1, 0)
  | .three _ _, [] => (.cut, 0)
  | .three low high, b :: rest =>
    if low ≤ b ∧ b ≤ high then
      match rest with
      | [] => (.cut, 1)
      | c :: _ => if isTail c then (.char (char3 a b c), 2) else (.broken 2, 1)
    else (.broken 1, 0)
  | .four _ _, [] => (.cut, 0)
  | .four low high, b :: rest =>
    if low ≤ b ∧ b ≤ high then
      match rest with
      | [] => (.cut, 1)
      | c :: rest =>
        if isTail c then
          match rest with
          | [] => (.cut, 2)
          | d :: _ => if isTail d then (.char (char4 a b c d), 3) else (.broken 3, 2)
        else (.broken 2, 1)
    else (.broken 1, 0)

/-- The pieces after the next `skip` octets, which belong to the piece before. -/
def piecesAfter : Nat → Bytes → List Piece
  | _, [] => []
  | skip + 1, _ :: rest => piecesAfter skip rest
  | 0, a :: rest => (first a rest).1 :: piecesAfter (first a rest).2 rest

/-- Cuts octets into pieces.  After a broken run reading resumes at the octet that broke it. -/
def pieces (octets : Bytes) : List Piece := piecesAfter 0 octets

/-- Why octets are not text. -/
inductive Fault where
  /-- a run of octets that no character starts with, at an index -/
  | invalid (length index : Nat)
  /-- the input ends inside the character that starts at an index -/
  | incomplete (index : Nat)
  deriving Repr, DecidableEq

def Fault.message : Fault → String
  | .invalid length index => s!"invalid utf-8 sequence of {length} bytes from index {index}"
  | .incomplete index => s!"incomplete utf-8 byte sequence from index {index}"

/-- The characters of the pieces, or the first piece that is none; `index` is the number of
octets before the pieces. -/
def charsFrom (index : Nat) : List Piece → Except Fault (List Char)
  | [] => .ok []
  | .char c :: rest => (charsFrom (index + c.utf8Size) rest).map (c :: ·)
  | .broken length :: _ => .error (.invalid length index)
  | .cut :: _ => .error (.incomplete index)

/-- The text that octets stand for, or the first fault in them. -/
def decode (octets : Bytes) : Except Fault String :=
  (charsFrom 0 (pieces octets)).map String.ofList

def decode? (octets : Bytes) : Option String := (decode octets).toOption

/-- Every run of octets that is no character becomes one replacement character. -/
def Piece.shown : Piece → Char
  | .char c => c
  | .broken _ => '\uFFFD'
  | .cut => '\uFFFD'

/-- The text of octets with replacement characters where they are no text. -/
def decodeLossy (octets : Bytes) : String := String.ofList ((pieces octets).map Piece.shown)

end Utf8
end Text
end BearerClient
