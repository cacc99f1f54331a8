import WalletGateway.Numeric.Positional
import WalletGateway.Message.Basic

/-!
# Packets

A message travels as a sequence of packets of 64 bytes.  The first packet opens with a nine-byte
header and carries up to 55 bytes of the payload; each further packet opens with the report mark
and carries up to 63 bytes.  What is left of the last packet is zero.

```text
first packet         '?' '#' '#' code (2) length (4) payload ...
continuation packet  '?' payload ...
```
-/

namespace WalletGateway

/-- A packet: exactly 64 bytes. -/
structure Packet where
  bytes : List UInt8
  length_bytes : bytes.length = 64
  deriving DecidableEq

namespace Packet

/-- The length of every packet. -/
def size : Nat := 64

/-- The length of the header that opens a message. -/
def headerSize : Nat := 9

/-- The longest payload that is accepted from the wire. -/
def maxPayload : Nat := 1024 * 1024

/-- The first byte of every packet. -/
def reportMark : UInt8 := 0x3f

/-- The second and third byte of a first packet. -/
def headerMark : UInt8 := 0x23

/-- The packet that starts with the given bytes, cut to 64 or filled up with zeros. -/
def ofBytes (bytes : List UInt8) : Packet where
  bytes := bytes.take 64 ++ List.replicate (64 - bytes.length) 0
  length_bytes := by simp; omega

/-- The header that opens a message.  The length field has 32 bits. -/
def header (message : Message) : List UInt8 :=
  reportMark :: headerMark :: headerMark :: BigEndian.word16 message.code
    ++ BigEndian.word32 (UInt32.ofNat message.payload.length)

@[simp] theorem length_header (message : Message) : (header message).length = headerSize := rfl

/-- The continuation packets for the part of a payload that is still to be sent. -/
def continuations (payload : List UInt8) : List Packet :=
  if payload.isEmpty then []
  else ofBytes (reportMark :: payload.take 63) :: continuations (payload.drop 63)
termination_by payload.length
decreasing_by
  rename_i h
  have : payload.length ≠ 0 := by simpa using h
  simp only [List.length_drop]
  omega

end Packet

/-- The packets of a message, in the order in which they are sent. -/
def Message.packets (message : Message) : List Packet :=
  Packet.ofBytes (Packet.header message ++ message.payload.take 55)
    :: Packet.continuations (message.payload.drop 55)

end WalletGateway
