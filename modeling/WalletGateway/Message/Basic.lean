import WalletGateway.Message.Kind

/-!
# Messages

A message is a kind code and an encoded payload.  The code stays raw, so that a message of a kind
that the host does not know can still be framed, shown and reported.
-/

namespace WalletGateway

/-- One message between host and wallet. -/
structure Message where
  /-- The kind as it stands on the wire. -/
  code : UInt16
  /-- The encoded payload. -/
  payload : List UInt8
  deriving DecidableEq, Inhabited

namespace Message

/-- The kind of a message, if its code is known. -/
def kind? (message : Message) : Option Kind :=
  Kind.ofCode? message.code

/-- The name of the kind, or the code itself where it is unknown. -/
def kindName (message : Message) : String :=
  match message.kind? with
  | some kind => kind.name
  | none => "Unknown(" ++ toString message.code.toNat ++ ")"

/-- A one-line account of a message that leaves out the payload's content. -/
def summary (message : Message) : String :=
  "Message \x7b kind: \"" ++ message.kindName ++ "\", payload_len: "
    ++ toString message.payload.length ++ " \x7d"

end Message

end WalletGateway
