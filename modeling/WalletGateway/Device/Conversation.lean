import WalletGateway.Device.Request
import WalletGateway.Device.Resolution

/-!
# Conversations

A conversation follows the replies of a device, one after the other, until one of them resolves it.
Here the replies are given as a list; a device whose list is at its end is not there.
-/

namespace WalletGateway.Conversation

/-- A reply of the device, or the error in its place. -/
abbrev Reply := Except DeviceError Message

/-- How a conversation went. -/
structure Outcome where
  /-- The messages that were sent, in order. -/
  sent : List Message
  /-- The replies that were not taken. -/
  unused : List Reply
  result : Except DeviceError Resolution

/-- Goes on from a reply.  Every acknowledgement takes one more reply. -/
def follow : Reply → List Reply → Outcome
  | .error error, replies => ⟨[], replies, .error error⟩
  | .ok message, replies =>
    match message.verdict with
    | .resolved result => ⟨[], replies, result⟩
    | .acknowledge =>
      let acknowledgement := DeviceRequest.acknowledgeButton.message
      match replies with
      | [] => ⟨[acknowledgement], [], .error .noDevice⟩
      | reply :: replies =>
        let outcome := follow reply replies
        { outcome with sent := acknowledgement :: outcome.sent }
termination_by _ replies => replies.length

/-- Sends a message and takes its reply. -/
def exchange (replies : List Reply) : Reply × List Reply :=
  match replies with
  | [] => (.error .noDevice, [])
  | reply :: replies => (reply, replies)

end WalletGateway.Conversation
