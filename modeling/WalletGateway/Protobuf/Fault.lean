/-!
# Faults of encoded records

Why bytes are not an encoding of a record, and where the fault was met.
-/

namespace WalletGateway.Protobuf

/-- How the content of an entry is delimited. -/
inductive WireType where
  | varint | fixed64 | lengthDelimited | startGroup | endGroup | fixed32
  deriving DecidableEq

namespace WireType

/-- The three low bits of a key. -/
def code : WireType → Nat
  | varint => 0
  | fixed64 => 1
  | lengthDelimited => 2
  | startGroup => 3
  | endGroup => 4
  | fixed32 => 5

/-- The wire type with a given code, if there is one. -/
def ofCode? : Nat → Option WireType
  | 0 => some varint
  | 1 => some fixed64
  | 2 => some lengthDelimited
  | 3 => some startGroup
  | 4 => some endGroup
  | 5 => some fixed32
  | _ => none

/-- The name that messages use. -/
def name : WireType → String
  | varint => "Varint"
  | fixed64 => "SixtyFourBit"
  | lengthDelimited => "LengthDelimited"
  | startGroup => "StartGroup"
  | endGroup => "EndGroup"
  | fixed32 => "ThirtyTwoBit"

theorem ofCode?_code (wireType : WireType) : ofCode? wireType.code = some wireType := by
  cases wireType <;> rfl

end WireType

/-- What is wrong with the bytes. -/
inductive Fault.Cause where
  /-- The data end inside a varint, or it has more than 64 bits. -/
  | invalidVarint
  /-- A key does not fit 32 bits. -/
  | invalidKey (key : Nat)
  /-- A key names a wire type that does not exist. -/
  | invalidWireType (code : Nat)
  /-- A key names the tag zero. -/
  | invalidTag
  /-- A known field has the wrong wire type. -/
  | wireTypeMismatch (found expected : WireType)
  /-- An announced length goes beyond the data. -/
  | bufferUnderflow
  /-- The bytes of a text are not UTF-8. -/
  | notUtf8
  /-- The entries of a nested record go beyond its announced length. -/
  | delimitedLengthExceeded
  /-- A group is closed that is not the innermost open one. -/
  | unexpectedEndGroup
  /-- Records and groups are nested too deeply. -/
  | recursionLimit
  deriving DecidableEq

/-- A fault, together with the fields around it. -/
structure Fault where
  cause : Fault.Cause
  /-- Record and field names, innermost first. -/
  path : List (String × String)
  deriving DecidableEq

namespace Fault

/-- A fault outside every known field. -/
def bare (cause : Cause) : Fault := ⟨cause, []⟩

/-- The same fault, seen from the record around it. -/
def within (fault : Fault) (record field : String) : Fault :=
  { fault with path := fault.path ++ [(record, field)] }

/-- The text of a cause. -/
def Cause.message : Cause → String
  | invalidVarint => "invalid varint"
  | invalidKey key => "invalid key value: " ++ toString key
  | invalidWireType code => "invalid wire type value: " ++ toString code
  | invalidTag => "invalid tag value: 0"
  | wireTypeMismatch found expected =>
    "invalid wire type: " ++ found.name ++ " (expected " ++ expected.name ++ ")"
  | bufferUnderflow => "buffer underflow"
  | notUtf8 => "invalid string value: data is not UTF-8 encoded"
  | delimitedLengthExceeded => "delimited length exceeded"
  | unexpectedEndGroup => "unexpected end group tag"
  | recursionLimit => "recursion limit reached"

/-- The text of a fault: the path, innermost field first, then the cause. -/
def message (fault : Fault) : String :=
  "failed to decode Protobuf message: "
    ++ String.join (fault.path.map fun (record, field) => record ++ "." ++ field ++ ": ")
    ++ fault.cause.message

end Fault

end WalletGateway.Protobuf
