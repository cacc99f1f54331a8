import WalletGateway.Message.Kind
import WalletGateway.Packet.Assembler
import WalletGateway.Protobuf.Fault

/-!
# Device errors

Why an exchange with a device, or an operation on it, has no result.
-/

namespace WalletGateway

/-- Why a device gave no usable answer. -/
inductive DeviceError where
  /-- There is no device. -/
  | noDevice
  /-- The connection failed to carry data. -/
  | transport (text : String)
  /-- A packet was refused. -/
  | framing (error : FramingError)
  /-- The payload of a message of the given kind cannot be read. -/
  | undecodable (kind : Message.Kind) (fault : Protobuf.Fault)
  /-- A message came that is no answer. -/
  | unexpectedMessage (name : String)
  /-- The connection was closed. -/
  | disconnected
  /-- The device took too long. -/
  | timeout
  /-- The client went away. -/
  | clientClosed
  /-- The operation ended without a result. -/
  | taskFailed (text : String)
  deriving DecidableEq

/-- The text of a device error. -/
def DeviceError.message : DeviceError → String
  | noDevice => "no device available"
  | transport text => "I/O error: " ++ text
  | framing error => "wire error: " ++ error.message
  | undecodable kind fault =>
    "failed to decode " ++ kind.name ++ " payload: " ++ fault.message
  | unexpectedMessage name => "unexpected message kind " ++ name
  | disconnected => "device disconnected"
  | timeout => "timeout waiting for device response"
  | clientClosed => "client closed request"
  | taskFailed text => "device task failed: " ++ text

end WalletGateway
