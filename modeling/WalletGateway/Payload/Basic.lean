import WalletGateway.Message.Basic
import WalletGateway.Protobuf.Record

/-!
# Payloads

A payload is a record that travels as a message of one kind.
-/

namespace WalletGateway

/-- A record type whose values are the payloads of one kind of message. -/
class Payload (α : Type) extends Protobuf.Record α where
  kind : Message.Kind

namespace Message

variable {α : Type} [Payload α]

/-- The message that carries a payload. -/
def of (payload : α) : Message :=
  ⟨(Payload.kind α).code, Protobuf.Record.encode payload⟩

/-- The payload that a message carries, if it is one of the wanted type.  The kind of the message
is not looked at. -/
def decode (α : Type) [Payload α] (message : Message) : Except Protobuf.Fault α :=
  Protobuf.Record.decode message.payload

end Message

end WalletGateway
