import WalletGateway.Protobuf.Codec
import WalletGateway.Protobuf.Skip

/-!
# Records

A record type is described by the list of its fields, in ascending order of their tags.  Writing
goes through that list; reading starts from the empty record and merges one entry after another:
an entry of a singular field replaces the value, an entry of a repeated field is added at the end.

A nested record announces its length.  Its entries are read from all the bytes that follow, and
only afterwards is the end compared with the announced one.
-/

namespace WalletGateway.Protobuf

/-- One field of a record type. -/
structure Field (α : Type) where
  tag : Nat
  name : String
  wireType : WireType
  /-- All entries of the field, keys included. -/
  write : α → List UInt8
  /-- Reads the content of one entry into a record. -/
  merge : Nat → α → List UInt8 → Except Fault (Parsed α)
  view : α → Datum

namespace Field

variable {α γ : Type}

/-- An entry: key and content. -/
def entry (tag : Nat) (codec : Codec γ) (value : γ) : List UInt8 :=
  Key.write ⟨tag, codec.wireType⟩ ++ codec.write value

/-- Reads a value and puts it into a record. -/
def readInto (codec : Codec γ) (put : γ → α → α) (limit : Nat) (record : α)
    (input : List UInt8) : Except Fault (Parsed α) :=
  match codec.read limit input with
  | .error fault => .error fault
  | .ok value => .ok (value.map (put · record))

/-- A field that may be absent. -/
def optional (tag : Nat) (name : String) (codec : Codec γ) (get : α → Option γ)
    (set : Option γ → α → α) : Field α where
  tag
  name
  wireType := codec.wireType
  write record :=
    match get record with
    | none => []
    | some value => entry tag codec value
  merge := readInto codec fun value => set (some value)
  view record :=
    match get record with
    | none => .absent
    | some value => codec.view value

/-- A field that is always written. -/
def required (tag : Nat) (name : String) (codec : Codec γ) (get : α → γ) (set : γ → α → α) :
    Field α where
  tag
  name
  wireType := codec.wireType
  write record := entry tag codec (get record)
  merge := readInto codec set
  view record := codec.view (get record)

/-- A field with any number of entries. -/
def repeated (tag : Nat) (name : String) (codec : Codec γ) (get : α → List γ)
    (set : List γ → α → α) : Field α where
  tag
  name
  wireType := codec.wireType
  write record := (get record).flatMap (entry tag codec)
  merge := readInto codec fun value record => set (get record ++ [value]) record
  view record := .many ((get record).map codec.view)

end Field

/-- A record type. -/
class Record (α : Type) where
  name : String
  /-- The record in which nothing is written. -/
  empty : α
  /-- The fields, by ascending tag. -/
  fields : List (Field α)

namespace Record

variable {α : Type} [Record α]

/-- The encoding of a record. -/
def encode (record : α) : List UInt8 :=
  (fields (α := α)).flatMap fun field => field.write record

/-- The fields of a record with their names. -/
def view (record : α) : List (String × Datum) :=
  (fields (α := α)).map fun field => (field.name, field.view record)

/-- Reads the content of one entry whose key has been read.  A field that is not known is passed
over. -/
def mergeEntry (limit : Nat) (record : α) (key : Key) (input : List UInt8) :
    Except Fault (Parsed α) :=
  match (fields (α := α)).find? fun field => field.tag == key.tag with
  | none => (skip limit key input).map (·.map fun _ => record)
  | some field =>
    let merged :=
      if key.wireType ≠ field.wireType then
        .error (.bare (.wireTypeMismatch key.wireType field.wireType))
      else field.merge limit record input
    merged.mapError (·.within (name α) field.name)

/-- Reads entries until they fill the given number of bytes.  `count` is the number of bytes taken
before. -/
def mergeEntries (limit : Nat) (window : Nat) (record : α) (count : Nat) (input : List UInt8) :
    Except Fault (Parsed α) :=
  if window = 0 then .ok ⟨record, input, count⟩
  else
    match _hkey : readKey input with
    | .error fault => .error fault
    | .ok key =>
      match mergeEntry limit record key.value key.rest with
      | .error fault => .error fault
      | .ok merged =>
        let taken := key.count + merged.count
        if window < taken then .error (.bare .delimitedLengthExceeded)
        else mergeEntries limit (window - taken) merged.value (count + taken) merged.rest
termination_by window
decreasing_by
  have := readKey_measure _hkey
  omega

/-- How many records and groups may be nested. -/
def nestingLimit : Nat := 100

/-- The record that some bytes encode. -/
def decode (input : List UInt8) : Except Fault α :=
  (mergeEntries nestingLimit input.length empty 0 input).map (·.value)

end Record

/-- Nested records. -/
def Codec.record (α : Type) [Record α] : Codec α where
  wireType := .lengthDelimited
  initial := Record.empty
  write value := delimited (Record.encode value)
  read limit input :=
    match limit with
    | 0 => .error (.bare .recursionLimit)
    | inner + 1 =>
      match readVarint input with
      | .error fault => .error fault
      | .ok length =>
        if length.rest.length < length.value then .error (.bare .bufferUnderflow)
        else Record.mergeEntries inner length.value Record.empty length.count length.rest
  view value := .record (Record.view value)

end WalletGateway.Protobuf
