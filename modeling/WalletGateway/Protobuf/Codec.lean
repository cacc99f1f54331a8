import WalletGateway.Protobuf.Varint
import WalletGateway.Text.Basic

/-!
# Codecs of field values

How one value of a field is written after its key, and how it is read.  Integers are varints of
which the reader keeps the low bits; a negative integer is written as its residue modulo 2^64.
-/

namespace WalletGateway.Protobuf

/-- A field's content, for readers that do not know the record's type. -/
inductive Datum where
  | absent
  | text (value : String)
  | bytes (value : List UInt8)
  | flag (value : Bool)
  | word32 (value : UInt32)
  | int32 (value : Int32)
  | word64 (value : UInt64)
  | many (values : List Datum)
  | record (fields : List (String × Datum))

/-- How values of one type are written and read. -/
structure Codec (γ : Type) where
  wireType : WireType
  /-- The value of a required field that is not written. -/
  initial : γ
  /-- The content after the key. -/
  write : γ → List UInt8
  /-- Reads content, given how many levels of nesting are left. -/
  read : Nat → List UInt8 → Except Fault (Parsed γ)
  view : γ → Datum

namespace Codec

/-- Reads a varint and turns it into a value. -/
def readNumber {γ : Type} (ofNat : Nat → γ) (input : List UInt8) : Except Fault (Parsed γ) :=
  match readVarint input with
  | .error fault => .error fault
  | .ok number => .ok (number.map ofNat)

/-- Unsigned 32-bit integers. -/
def word32 : Codec UInt32 where
  wireType := .varint
  initial := 0
  write value := varint value.toNat
  read _ := readNumber UInt32.ofNat
  view := .word32

/-- Unsigned 64-bit integers. -/
def word64 : Codec UInt64 where
  wireType := .varint
  initial := 0
  write value := varint value.toNat
  read _ := readNumber UInt64.ofNat
  view := .word64

/-- Signed 32-bit integers. -/
def int32 : Codec Int32 where
  wireType := .varint
  initial := 0
  write value := varint (value.toInt % (UInt64.size : Nat)).toNat
  read _ := readNumber fun number => (UInt32.ofNat number).toInt32
  view := .int32

/-- Truth values: everything but zero is true. -/
def flag : Codec Bool where
  wireType := .varint
  initial := false
  write value := varint (if value then 1 else 0)
  read _ := readNumber (· != 0)
  view := .flag

/-- Byte strings. -/
def bytes : Codec (List UInt8) where
  wireType := .lengthDelimited
  initial := []
  write := delimited
  read _ := readDelimited
  view := .bytes

/-- Texts in UTF-8. -/
def text : Codec String where
  wireType := .lengthDelimited
  initial := ""
  write value := delimited (Text.utf8 value)
  read _ input :=
    match readDelimited input with
    | .error fault => .error fault
    | .ok content =>
      match Text.ofUtf8? content.value with
      | none => .error (.bare .notUtf8)
      | some value => .ok (content.map fun _ => value)
  view := .text

end Codec

end WalletGateway.Protobuf
