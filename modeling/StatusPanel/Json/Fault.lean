import StatusPanel.Decimal.Shortest
import StatusPanel.Json.Basic
import StatusPanel.Text.Quoted

/-!
# What may be wrong with a JSON text

Faults of the text itself come first, then those of a value that is not of the expected shape.
-/

namespace StatusPanel.Json

/-- The kind of a value, with its content if it has no parts. -/
inductive Found where
  | null
  | boolean (value : Bool)
  | number (value : Number)
  | string (value : String)
  | sequence
  | map

/-- What a whole value is found to be. -/
def found : Json → Found
  | .null => .null
  | .boolean b => .boolean b
  | .number n => .number n
  | .string s => .string s
  | .array _ => .sequence
  | .object _ => .map

/-- A fault of a JSON text. -/
inductive Fault where
  | unfinishedValue
  | unfinishedList
  | unfinishedObject
  | unfinishedString
  | noColon
  | noListEnd
  | noObjectEnd
  | noWord
  | noValue
  | keyNotString
  | trailingComma
  | trailingCharacters
  | invalidEscape
  | loneSurrogate
  | unfinishedEscape
  | invalidText
  | controlCharacter
  | invalidNumber
  | numberOutOfRange
  | tooDeep
  | wrongType (found : Found) (expected : String)
  | wrongLength (length : Nat) (expected : String)
  | missingField (name : String)
  | duplicateField (name : String)
  | unknownVariant (name : String) (known : List String)
  | noVariant (type : String)

/-- Numbers in messages: the shortest decimal, a whole number with a zero fraction, and an
exponent outside `[1e-5, 1e16)`. -/
def numberLayout : Decimal.Layout where
  positional point := -5 < point && point ≤ 16
  keepFraction := true
  nan := "NaN"
  infinity := "inf"

/-- What was found, in words. -/
def Found.describe : Found → String
  | .null => "null"
  | .boolean b => s!"boolean `{b}`"
  | .number (.whole n) => s!"integer `{n}`"
  | .number (.real x) => "floating point `" ++ Decimal.text numberLayout x ++ "`"
  | .string s => "string " ++ Text.quoted s
  | .sequence => "sequence"
  | .map => "map"

/-- The message of a fault. -/
def Fault.message : Fault → String
  | .unfinishedValue => "EOF while parsing a value"
  | .unfinishedList => "EOF while parsing a list"
  | .unfinishedObject => "EOF while parsing an object"
  | .unfinishedString => "EOF while parsing a string"
  | .noColon => "expected `:`"
  | .noListEnd => "expected `,` or `]`"
  | .noObjectEnd => "expected `,` or `\x7d`"
  | .noWord => "expected ident"
  | .noValue => "expected value"
  | .keyNotString => "key must be a string"
  | .trailingComma => "trailing comma"
  | .trailingCharacters => "trailing characters"
  | .invalidEscape => "invalid escape"
  | .loneSurrogate => "lone leading surrogate in hex escape"
  | .unfinishedEscape => "unexpected end of hex escape"
  | .invalidText => "invalid unicode code point"
  | .controlCharacter =>
    "control character (\\u0000-\\u001F) found while parsing a string"
  | .invalidNumber => "invalid number"
  | .numberOutOfRange => "number out of range"
  | .tooDeep => "recursion limit exceeded"
  | .wrongType found expected => s!"invalid type: {found.describe}, expected {expected}"
  | .wrongLength length expected => s!"invalid length {length}, expected {expected}"
  | .missingField name => s!"missing field `{name}`"
  | .duplicateField name => s!"duplicate field `{name}`"
  | .unknownVariant name known =>
    s!"unknown variant `{name}`, expected " ++ " or ".intercalate (known.map fun k => s!"`{k}`")
  | .noVariant type => s!"data did not match any variant of untagged enum {type}"

end StatusPanel.Json
