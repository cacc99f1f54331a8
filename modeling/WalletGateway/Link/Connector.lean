import WalletGateway.Link.Settling

/-!
# Ways to a device

A device is reached over USB or as an emulated device.  Without support for USB there is no device
there, whatever is asked of it.
-/

namespace WalletGateway

/-- A way to a device. -/
inductive Connector where
  | usb | emulator
  deriving DecidableEq

namespace Connector

/-- The name of a way to a device. -/
def name : Connector → String
  | usb => "Usb"
  | emulator => "Emulator"

/-- The vendor number of USB devices. -/
def usbVendor : UInt16 := 0x313a

/-- The product number of USB devices. -/
def usbProduct : UInt16 := 0x0001

/-- A line to a device that is not there. -/
def absentLine : Line :=
  { openings := [some .noDevice] }

/-- Calls a device that is not there. -/
def callAbsent (request : Message) : Option (Except DeviceError Message) :=
  let link : Link := { line := absentLine }
  let stage : Option CallStage := (link.after? (.call request)).bind fun link => link.calls.head?
  match stage with
  | some (.ended result) => some result
  | _ => none

end Connector

end WalletGateway
