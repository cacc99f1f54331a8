import WalletGateway.Numeric.ShortestDecimal
import WalletGateway.Text.Quoted

/-!
# Faults of JSON texts

Why a JSON text is not a value of the wanted type, and where.  A place is given by the number of
bytes after it; `Fault.message` turns it into a line and a column, where the column is the number
of bytes on the line before the place.
-/

namespace WalletGateway.Json

/-- What was found where something else was wanted. -/
inductive Found where
  | null
  | flag (value : Bool)
  | integer (value : Int)
  | float (negative : Bool) (value : Binary64)
  | text (value : String)
  | list
  | object
  deriving DecidableEq

/-- How a finding is shown. -/
def Found.describe : Found → String
  | null => "null"
  | flag true => "boolean `true`"
  | flag false => "boolean `false`"
  | integer value => "integer `" ++ toString value ++ "`"
  | float negative value =>
    "floating point `" ++ (if negative then "-" else "") ++ value.text ++ "`"
  | text value => "string " ++ Text.quoted value
  | list => "sequence"
  | object => "map"

/-- What is wrong with a text. -/
inductive Fault.Cause where
  | endInValue | endInObject | endInList | endInText
  | expectedValue | expectedWord | expectedColon
  | expectedCommaInObject | expectedCommaInList
  | trailingComma | trailingCharacters
  | keyNotText
  | invalidNumber | numberOutOfRange
  | invalidEscape | invalidCodePoint | loneSurrogate | endOfEscape | controlCharacter
  | invalidType (found : Found) (expected : String)
  | invalidValue (found : Found) (expected : String)
  | duplicateField (name : String)
  deriving DecidableEq

/-- The text of a cause. -/
def Fault.Cause.message : Fault.Cause → String
  | endInValue => "EOF while parsing a value"
  | endInObject => "EOF while parsing an object"
  | endInList => "EOF while parsing a list"
  | endInText => "EOF while parsing a string"
  | expectedValue => "expected value"
  | expectedWord => "expected ident"
  | expectedColon => "expected `:`"
  | expectedCommaInObject => "expected `,` or `\x7d`"
  | expectedCommaInList => "expected `,` or `]`"
  | trailingComma => "trailing comma"
  | trailingCharacters => "trailing characters"
  | keyNotText => "key must be a string"
  | invalidNumber => "invalid number"
  | numberOutOfRange => "number out of range"
  | invalidEscape => "invalid escape"
  | invalidCodePoint => "invalid unicode code point"
  | loneSurrogate => "lone leading surrogate in hex escape"
  | endOfEscape => "unexpected end of hex escape"
  | controlCharacter => "control character (\\u0000-\\u001F) found while parsing a string"
  | invalidType found expected =>
    "invalid type: " ++ found.describe ++ ", expected " ++ expected
  | invalidValue found expected =>
    "invalid value: " ++ found.describe ++ ", expected " ++ expected
  | duplicateField name => "duplicate field `" ++ name ++ "`"

/-- A fault and its place. -/
structure Fault where
  cause : Fault.Cause
  /-- How many bytes come after the place. -/
  after : Nat
  deriving DecidableEq

namespace Fault

/-- A fault at the front of the remaining input. -/
def here (cause : Cause) (rest : List UInt8) : Fault :=
  ⟨cause, rest.length⟩

/-- A fault at the byte that comes next, which belongs to the place. -/
def atNext (cause : Cause) (rest : List UInt8) : Fault :=
  ⟨cause, rest.length - 1⟩

/-- The text of a fault in the given input. -/
def message (fault : Fault) (input : List UInt8) : String :=
  let before := input.take (input.length - fault.after)
  let line := 1 + before.count 0x0a
  let column := (before.reverse.takeWhile (· != 0x0a)).length
  fault.cause.message ++ " at line " ++ toString line ++ " column " ++ toString column

end Fault

end WalletGateway.Json
