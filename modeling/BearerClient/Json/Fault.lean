/-!
# What can be wrong with a JSON text

One cause per way in which a text is no JSON, or is JSON of another shape than the one asked for,
and the wording of each.
-/

namespace BearerClient.Json

/-- Why a text could not be read. -/
inductive Fault where
  /-- the input ends where a value, a string, a list or an object goes on -/
  | endInValue
  | endInString
  | endInList
  | endInObject
  /-- an octet stands where only a certain token may stand -/
  | expectedValue
  | expectedIdent
  | expectedColon
  | expectedListCommaOrEnd
  | expectedObjectCommaOrEnd
  | trailingComma
  | trailingCharacters
  | keyNotString
  /-- a number or a string is malformed -/
  | invalidNumber
  | numberOutOfRange
  | invalidEscape
  | controlCharacter
  | loneSurrogate
  | unfinishedSurrogatePair
  | invalidCodePoint
  /-- values are nested too deeply -/
  | tooDeep
  /-- the value is JSON, but not of the shape asked for -/
  | invalidType
  | invalidValue
  | invalidLength
  | unknownVariant
  | missingField (name : String)
  | duplicateField (name : String)
  | instantOutOfRange (millis : Int)
  deriving Repr, DecidableEq

/-- A name as error texts quote it. -/
def quoted (name : String) : String := "\x60" ++ name ++ "\x60"

def Fault.message : Fault → String
  | .endInValue => "EOF while parsing a value"
  | .endInString => "EOF while parsing a string"
  | .endInList => "EOF while parsing a list"
  | .endInObject => "EOF while parsing an object"
  | .expectedValue => "expected value"
  | .expectedIdent => "expected ident"
  | .expectedColon => "expected " ++ quoted ":"
  | .expectedListCommaOrEnd => "expected " ++ quoted "," ++ " or " ++ quoted "]"
  | .expectedObjectCommaOrEnd => "expected " ++ quoted "," ++ " or " ++ quoted "\x7d"
  | .trailingComma => "trailing comma"
  | .trailingCharacters => "trailing characters"
  | .keyNotString => "key must be a string"
  | .invalidNumber => "invalid number"
  | .numberOutOfRange => "number out of range"
  | .invalidEscape => "invalid escape"
  | .controlCharacter => "control character (\\u0000-\\u001F) found while parsing a string"
  | .loneSurrogate => "lone leading surrogate in hex escape"
  | .unfinishedSurrogatePair => "unexpected end of hex escape"
  | .invalidCodePoint => "invalid unicode code point"
  | .tooDeep => "recursion limit exceeded"
  | .invalidType => "invalid type"
  | .invalidValue => "invalid value"
  | .invalidLength => "invalid length"
  | .unknownVariant => "unknown variant"
  | .missingField name => "missing field " ++ quoted name
  | .duplicateField name => "duplicate field " ++ quoted name
  | .instantOutOfRange millis => s!"timestamp out of range: {millis}"

end BearerClient.Json
