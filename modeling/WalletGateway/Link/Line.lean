import WalletGateway.Device.Error
import WalletGateway.Numeric.Total
import WalletGateway.Packet.Basic

/-!
# Lines to a device

The connections that were ever opened to a device, with what has arrived on each of them and is not
read yet, and an account of what was written.  Opening and writing never wait.  Whether the next
attempts succeed stands in two lists, which can be extended at any time; where a list is at its end,
every attempt succeeds.
-/

namespace WalletGateway

/-- What comes from a connection: a packet, or an error in its place. -/
abbrev Arrival := Except DeviceError Packet

/-- The connections to a device. -/
structure Line where
  /-- How the next attempts to open a connection end. -/
  openings : List (Option DeviceError) := []
  /-- How the next attempts to write a packet end, on whatever connection. -/
  writings : List (Option DeviceError) := []
  /-- The number of attempts to open a connection. -/
  attempts : Nat := 0
  /-- What has arrived and is not read, for each connection in the order of opening. -/
  inboxes : List (List Arrival) := []
  /-- The packets that were written, with their connections, the latest first. -/
  written : List (Nat × Packet) := []

instance : Inhabited Line := ⟨{}⟩

namespace Line

/-- Tries to open a connection.  The new connection is the last one. -/
def connect (line : Line) : Except DeviceError Nat × Line :=
  let tried := { line with attempts := line.attempts + 1, openings := line.openings.tail }
  match line.openings.head?.join with
  | some error => (.error error, tried)
  | none => (.ok line.inboxes.length, { tried with inboxes := line.inboxes ++ [[]] })

/-- Writes packets up to the first failure. -/
def write (line : Line) (connection : Nat) : List Packet → Option DeviceError × Line
  | [] => (none, line)
  | packet :: packets =>
    let tried := { line with writings := line.writings.tail }
    match line.writings.head?.join with
    | some error => (some error, tried)
    | none =>
      write { tried with written := (connection, packet) :: line.written } connection packets

/-- The oldest unread arrival of a connection, and the line without it. -/
def receive (line : Line) (connection : Nat) : Option (Arrival × Line) :=
  match line.inboxes[connection]? with
  | some (arrival :: arrivals) =>
    some (arrival, { line with inboxes := line.inboxes.set connection arrivals })
  | _ => none

/-- Something arrives on the newest connection, if there ever was one. -/
def arrive (line : Line) (arrivals : List Arrival) : Option Line :=
  match line.inboxes.getLast? with
  | none => none
  | some inbox =>
    some { line with inboxes := line.inboxes.dropLast ++ [inbox ++ arrivals] }

/-- How much is unread. -/
def unread (line : Line) : Nat :=
  total List.length line.inboxes

end Line

end WalletGateway
