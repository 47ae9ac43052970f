/-!
# Faults of a JSON text

A text is refused because it ends too early, because it is malformed, or because the data is not
what was asked for. Each fault has a place: a line and a column, both counted in bytes.

* `Cause.message`: the wording without the place.
* `Error.message`: the wording with the place.
-/

namespace PeripheralBus.Json

/-- What a value turned out to be. -/
inductive Found where
  | null
  | boolean (b : Bool)
  | unsigned (n : Nat)
  /-- The integer `-n`. -/
  | negative (n : Nat)
  /-- A number with a fraction or an exponent, by its text. -/
  | fraction (digits : String)
  /-- A text, by its quoted form. -/
  | text (quoted : String)
  | list
  | map
  deriving DecidableEq, Repr

/-- A value as messages name it. -/
def Found.describe : Found → String
  | .null => "null"
  | .boolean b => "boolean `" ++ toString b ++ "`"
  | .unsigned n => "integer `" ++ toString n ++ "`"
  | .negative n => "integer `-" ++ toString n ++ "`"
  | .fraction digits => "floating point `" ++ digits ++ "`"
  | .text quoted => "string " ++ quoted
  | .list => "sequence"
  | .map => "map"

/-- Data that is not what was asked for. -/
inductive Mismatch where
  /-- A value of another type. -/
  | type (found : Found) (expected : String)
  /-- A value of the right type that is out of range. -/
  | value (found : Found) (expected : String)
  /-- A list with too few elements. -/
  | length (count : Nat) (expected : String)
  | missingField (name : String)
  | duplicateField (name : String)
  /-- A name that is none of those allowed. -/
  | unknownVariant (name : String) (allowed : List String)
  deriving DecidableEq, Repr

/-- The wording of a mismatch. -/
def Mismatch.message : Mismatch → String
  | .type found expected => "invalid type: " ++ found.describe ++ ", expected " ++ expected
  | .value found expected => "invalid value: " ++ found.describe ++ ", expected " ++ expected
  | .length count expected => "invalid length " ++ toString count ++ ", expected " ++ expected
  | .missingField name => "missing field `" ++ name ++ "`"
  | .duplicateField name => "duplicate field `" ++ name ++ "`"
  | .unknownVariant name allowed =>
    "unknown variant `" ++ name ++ "`, expected one of " ++
      ", ".intercalate (allowed.map fun a => "`" ++ a ++ "`")

/-- What the text ends inside of. -/
inductive Part where
  | list
  | object
  | string
  | value
  deriving DecidableEq, Repr

/-- Ways to be no JSON text. -/
inductive Malformation where
  | expectedColon
  | expectedListCommaOrEnd
  | expectedObjectCommaOrEnd
  | expectedIdentifier
  | expectedValue
  | invalidEscape
  | invalidNumber
  | numberOutOfRange
  | invalidCodePoint
  | controlCharacter
  | keyNotString
  | loneSurrogate
  | trailingComma
  | trailingCharacters
  | endOfHexEscape
  deriving DecidableEq, Repr

/-- The wording of a malformation. -/
def Malformation.message : Malformation → String
  | .expectedColon => "expected `:`"
  | .expectedListCommaOrEnd => "expected `,` or `]`"
  | .expectedObjectCommaOrEnd => "expected `,` or `\x7d`"
  | .expectedIdentifier => "expected ident"
  | .expectedValue => "expected value"
  | .invalidEscape => "invalid escape"
  | .invalidNumber => "invalid number"
  | .numberOutOfRange => "number out of range"
  | .invalidCodePoint => "invalid unicode code point"
  | .controlCharacter => "control character (\\u0000-\\u001F) found while parsing a string"
  | .keyNotString => "key must be a string"
  | .loneSurrogate => "lone leading surrogate in hex escape"
  | .trailingComma => "trailing comma"
  | .trailingCharacters => "trailing characters"
  | .endOfHexEscape => "unexpected end of hex escape"

/-- Why a text is refused. -/
inductive Cause where
  | ends (inside : Part)
  | malformed (how : Malformation)
  | mismatch (what : Mismatch)
  deriving DecidableEq, Repr

/-- The wording of a cause. -/
def Cause.message : Cause → String
  | .ends .list => "EOF while parsing a list"
  | .ends .object => "EOF while parsing an object"
  | .ends .string => "EOF while parsing a string"
  | .ends .value => "EOF while parsing a value"
  | .malformed how => how.message
  | .mismatch what => what.message

/-- A cause and where it was noticed: the line, counted from one, and the bytes read in it. -/
structure Error where
  cause : Cause
  line : Nat
  column : Nat
  deriving DecidableEq, Repr

/-- The wording with the place. -/
def Error.message (e : Error) : String :=
  e.cause.message ++ " at line " ++ toString e.line ++ " column " ++ toString e.column

end PeripheralBus.Json
