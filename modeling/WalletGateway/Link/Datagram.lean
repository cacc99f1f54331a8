import WalletGateway.Link.Line

/-!
# Devices that are reached by datagrams

An emulated device exchanges one packet per datagram.  A datagram that is too short is filled up
with zeros, and one that is too long is cut; an empty one means that the device is gone.

Where the network is down, already opening the connection fails.
-/

namespace WalletGateway

/-- A failure of the operating system. -/
structure SystemFault where
  code : Nat
  kind : String
  text : String
  deriving DecidableEq

namespace SystemFault

/-- The network is down. -/
def networkUnreachable : SystemFault := ⟨101, "NetworkUnreachable", "Network is unreachable"⟩

/-- The text of a fault. -/
def message (fault : SystemFault) : String :=
  fault.text ++ " (os error " ++ toString fault.code ++ ")"

/-- A fault with all its parts. -/
def summary (fault : SystemFault) : String :=
  "Os \x7b code: " ++ toString fault.code ++ ", kind: " ++ fault.kind ++ ", message: \""
    ++ fault.text ++ "\" \x7d"

end SystemFault

namespace Datagram

/-- The port at which an emulated device listens. -/
def defaultPort : UInt16 := 21324

/-- The datagrams of a message, one for each of its packets. -/
def ofMessage (message : Message) : List (List UInt8) :=
  message.packets.map (·.bytes)

/-- What a datagram carries. -/
def arrival (datagram : List UInt8) : Arrival :=
  if datagram.isEmpty then .error .disconnected else .ok (.ofBytes datagram)

/-- What is read from datagrams, message by message, until the connection fails.  After a packet
that was refused, reading begins anew. -/
def received (assembler : Assembler) : List (List UInt8) → List (Except DeviceError Message)
  | [] => []
  | datagram :: datagrams =>
    match arrival datagram with
    | .error error => [.error error]
    | .ok packet =>
      match assembler.push packet with
      | (.ok none, assembler) => received assembler datagrams
      | (.ok (some message), _) => .ok message :: received .empty datagrams
      | (.error error, _) => .error (.framing error) :: received .empty datagrams

/-- Sends a message and reads datagrams: what was sent, and what was read.  The device is gone after
its last datagram. -/
def exchange (isNetworkUp : Bool) (message : Message) (datagrams : List (List UInt8)) :
    Except SystemFault (List (List UInt8) × List (Except DeviceError Message)) :=
  if isNetworkUp then .ok (ofMessage message, received .empty (datagrams ++ [[]]))
  else .error .networkUnreachable

end Datagram

end WalletGateway
