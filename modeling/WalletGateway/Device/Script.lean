import WalletGateway.Device.Conversation

/-!
# Scripted devices

A device that answers from a list.  An entry of the list is a reply, or says that the call stays
open until it is answered from outside.  Where the list is at its end, there is no device.
-/

namespace WalletGateway

/-- One entry of a script. -/
inductive ScriptEntry where
  | reply (reply : Conversation.Reply)
  | pending

/-- A scripted device, with an account of what was asked of it. -/
structure ScriptedDevice where
  script : List ScriptEntry := []
  /-- The owners of the calls that were left open, oldest first. -/
  pending : List Nat := []
  /-- The messages that were sent, the latest first. -/
  sent : List Message := []
  disconnects : Nat := 0
  /-- Whether disconnecting fails. -/
  failing : Bool := false

instance : Inhabited ScriptedDevice := ⟨{}⟩

namespace ScriptedDevice

/-- Takes a message.  The reply, if there is one at once, is the second part. -/
def call (device : ScriptedDevice) (owner : Nat) (message : Message) :
    ScriptedDevice × Option Conversation.Reply :=
  let device := { device with sent := message :: device.sent }
  match device.script with
  | [] => (device, some (.error .noDevice))
  | .reply reply :: script => ({ device with script }, some reply)
  | .pending :: script => ({ device with script, pending := device.pending ++ [owner] }, none)

/-- The text of the error of a device that fails to disconnect. -/
def disconnectFault : String := "disconnect failed"

/-- Disconnects. -/
def disconnect (device : ScriptedDevice) : ScriptedDevice × Except DeviceError Unit :=
  ({ device with disconnects := device.disconnects + 1 },
    if device.failing then .error (.transport disconnectFault) else .ok ())

end ScriptedDevice

end WalletGateway
