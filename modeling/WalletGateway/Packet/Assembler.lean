import WalletGateway.Packet.Basic
import WalletGateway.Text.Hex

/-!
# Assembling messages from packets

An `Assembler` takes packets one at a time and answers with a message as soon as the announced
number of payload bytes has arrived.  Whatever is not part of an accepted message leaves the
assembler empty, so that the next packet is read as the start of a message.
-/

namespace WalletGateway

/-- Why a packet was refused. -/
inductive FramingError where
  /-- The packet does not open with the report mark. -/
  | invalidMark (found : UInt8)
  /-- A first packet does not carry the header marks. -/
  | invalidHeader
  /-- The header announces more than `Packet.maxPayload` bytes. -/
  | oversize (announced : Nat)
  deriving DecidableEq

/-- The text of a framing error. -/
def FramingError.message : FramingError → String
  | invalidMark found => "invalid packet magic: 0x" ++ Text.hexPadded 2 found.toNat
  | invalidHeader => "invalid message header"
  | oversize announced => "payload length " ++ toString announced ++ " exceeds maximum"

/-- A message whose payload has not arrived in full. -/
structure Assembler.Pending where
  code : UInt16
  /-- How many bytes of the payload have yet to arrive. -/
  missing : Nat
  /-- The bytes of the payload that have arrived, the latest first. -/
  received : List UInt8
  deriving DecidableEq

/-- The state of one stream of packets: empty, or in the middle of a message. -/
structure Assembler where
  pending : Option Assembler.Pending
  deriving DecidableEq

namespace Assembler

/-- The assembler that waits for the start of a message. -/
def empty : Assembler := ⟨none⟩

instance : Inhabited Assembler := ⟨empty⟩

/-- Takes as many bytes as the payload still lacks; the rest of the data is padding. -/
def Pending.accept (pending : Pending) (data : List UInt8) : Option Message × Assembler :=
  if data.length < pending.missing then
    (none, ⟨some { pending with
      missing := pending.missing - data.length
      received := data.reverse ++ pending.received }⟩)
  else
    (some ⟨pending.code, pending.received.reverse ++ data.take pending.missing⟩, empty)

/-- Reads the header of a first packet. -/
def start (bytes : List UInt8) : Except FramingError Pending :=
  if (bytes.drop 1).take 2 ≠ [Packet.headerMark, Packet.headerMark] then
    .error .invalidHeader
  else
    let announced := BigEndian.value ((bytes.drop 5).take 4)
    if announced > Packet.maxPayload then
      .error (.oversize announced)
    else
      .ok ⟨UInt16.ofNat (BigEndian.value ((bytes.drop 3).take 2)), announced, []⟩

/-- Takes one packet.  The answer is a message where the packet completes one, nothing where more
packets are needed, and an error where the packet cannot belong to a message. -/
def push (assembler : Assembler) (packet : Packet) :
    Except FramingError (Option Message) × Assembler :=
  let mark := packet.bytes.headD 0
  if mark ≠ Packet.reportMark then
    (.error (.invalidMark mark), empty)
  else
    match assembler.pending with
    | some pending =>
      let (message, next) := pending.accept (packet.bytes.drop 1)
      (.ok message, next)
    | none =>
      match start packet.bytes with
      | .error error => (.error error, empty)
      | .ok pending =>
        let (message, next) := pending.accept (packet.bytes.drop Packet.headerSize)
        (.ok message, next)

/-- Discards what has arrived of a message. -/
def reset (_ : Assembler) : Assembler :=
  empty

end Assembler

end WalletGateway
