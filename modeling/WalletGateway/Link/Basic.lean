import WalletGateway.Device.Request
import WalletGateway.Link.Line
import WalletGateway.Payload.FailureReason

/-!
# The link to a device

A link carries calls to a device over one connection at a time, which it opens when it is needed.
The calls queue up: the one at the head carries out its exchange, that is, it writes its request and
reads until a message is complete.  An exchange that fails closes the connection.

A cancellation that finds the queue empty is a call like any other.  Otherwise it writes the Cancel
request past the queue, at once, and then queues up itself to wait for the exchanges before it, for
as long as the patience of the link lasts.

Disconnecting closes the connection and ends the exchange that is under way.  A call that is dropped
leaves the queue and touches nothing else.

`Link.step` gives the state after an event.  The events are those from outside, and
that a call goes on; any order of events is possible.
-/

namespace WalletGateway

/-- How far a call has come. -/
inductive CallStage where
  /-- It waits for its exchange. -/
  | queued (request : Message)
  /-- It has written its request on a connection and reads the reply.  `epoch` is the number of
  disconnections before its exchange began. -/
  | exchanging (connection epoch : Nat) (assembler : Assembler)
  /-- It has written a Cancel request past the queue, and waits for its turn until the deadline. -/
  | yielding (deadline : Nat)
  | ended (result : Except DeviceError Message)
  | dropped

/-- The link to a device. -/
structure Link where
  /-- How long a cancellation waits for its turn, in milliseconds. -/
  patience : Nat := 10000
  /-- The time, in milliseconds. -/
  now : Nat := 0
  line : Line := {}
  /-- The open connection. -/
  connection : Option Nat := none
  /-- The number of disconnections. -/
  epoch : Nat := 0
  /-- The calls that are not ended, in the order of their turns. -/
  queue : List Nat := []
  /-- All calls, in the order of their start. -/
  calls : List CallStage := []

instance : Inhabited Link := ⟨{}⟩

/-- What happens to a link. -/
inductive LinkEvent where
  /-- A call starts. -/
  | call (request : Message)
  /-- A cancellation starts. -/
  | cancel
  /-- A call is dropped. -/
  | drop (index : Nat)
  | disconnect
  /-- Something arrives on the newest connection. -/
  | arrive (arrivals : List Arrival)
  /-- Time passes. -/
  | wait (milliseconds : Nat)
  /-- It is settled how later attempts to open a connection end. -/
  | expectOpenings (outcomes : List (Option DeviceError))
  /-- It is settled how later attempts to write a packet end. -/
  | expectWritings (outcomes : List (Option DeviceError))
  /-- A call goes on. -/
  | proceed (index : Nat)

namespace Link

/-- The answer to a cancellation that has waited for its turn. -/
def cancelled : Message :=
  .of ({
    code := some Payload.FailureReason.actionCancelled.code
    message := some "Action cancelled by user" } : Payload.Failure)

/-- The call whose turn it is. -/
def turn (link : Link) : Option Nat :=
  link.queue.head?

/-- A call reaches a stage in which it still has to wait. -/
def stay (link : Link) (index : Nat) (stage : CallStage) : Link :=
  { link with calls := link.calls.set index stage }

/-- A call ends and leaves the queue. -/
def finish (link : Link) (index : Nat) (result : Except DeviceError Message) : Link :=
  { link with queue := link.queue.erase index, calls := link.calls.set index (.ended result) }

/-- Closes the connection. -/
def close (link : Link) : Link :=
  { link with connection := none }

/-- The open connection; a new one, if there is none. -/
def open? (link : Link) : Except DeviceError Nat × Link :=
  match link.connection with
  | some connection => (.ok connection, link)
  | none =>
    match link.line.connect with
    | (.error error, line) => (.error error, { link with line })
    | (.ok connection, line) => (.ok connection, { link with line, connection := some connection })

/-- A call begins its exchange. -/
def exchange (link : Link) (index : Nat) (request : Message) : Link :=
  match link.open? with
  | (.error error, link) => link.finish index (.error error)
  | (.ok connection, link) =>
    match link.line.write connection request.packets with
    | (some error, line) => ({ link with line } : Link).close.finish index (.error error)
    | (none, line) =>
      ({ link with line } : Link).stay index (.exchanging connection link.epoch .empty)

/-- An exchange takes what has arrived. -/
def take (link : Link) (index connection epoch : Nat) (assembler : Assembler) :
    Arrival → Link
  | .error error => link.close.finish index (.error error)
  | .ok packet =>
    match assembler.push packet with
    | (.ok none, assembler) => link.stay index (.exchanging connection epoch assembler)
    | (.ok (some message), _) => link.finish index (.ok message)
    | (.error error, _) => link.close.finish index (.error (.framing error))

/-- A call goes on, if it can.  An exchange during which the link was disconnected ends with that,
even where its reply has arrived in the meantime.  Either of the two could be noticed first when both
are there; an exchange that notices its reply first is one that goes on before the disconnection. -/
def proceed? (link : Link) (index : Nat) : Option Link :=
  match link.calls[index]? with
  | some (.queued request) =>
    if link.turn = some index then some (link.exchange index request) else none
  | some (.exchanging connection epoch assembler) =>
    if epoch ≠ link.epoch then some (link.close.finish index (.error .disconnected))
    else
      match link.line.receive connection with
      | none => none
      | some (arrival, line) =>
        some (({ link with line } : Link).take index connection epoch assembler arrival)
  | some (.yielding deadline) =>
    if link.turn = some index then some (link.finish index (.ok cancelled))
    else if deadline ≤ link.now then some (link.finish index (.error .timeout))
    else none
  | _ => none

/-- A call starts at some stage, at the end of the queue. -/
def enqueue (link : Link) (stage : CallStage) : Link :=
  { link with queue := link.queue ++ [link.calls.length], calls := link.calls ++ [stage] }

/-- A call has ended as soon as it starts. -/
def answer (link : Link) (result : Except DeviceError Message) : Link :=
  { link with calls := link.calls ++ [.ended result] }

/-- A cancellation starts. -/
def cancel (link : Link) : Link :=
  if link.queue.isEmpty then link.enqueue (.queued DeviceRequest.cancel.message)
  else
    match link.open? with
    | (.error error, link) => link.answer (.error error)
    | (.ok connection, link) =>
      match link.line.write connection DeviceRequest.cancel.message.packets with
      | (some error, line) => ({ link with line } : Link).answer (.error error)
      | (none, line) =>
        ({ link with line } : Link).enqueue (.yielding (link.now + link.patience))

/-- A call is dropped, unless it has ended. -/
def drop? (link : Link) (index : Nat) : Option Link :=
  if index ∈ link.queue then
    some { link with queue := link.queue.erase index, calls := link.calls.set index .dropped }
  else none

/-- The state after an event; nothing where the event cannot occur. -/
def step (link : Link) : LinkEvent → Option Link
  | .call request => some (link.enqueue (.queued request))
  | .cancel => some link.cancel
  | .drop index => link.drop? index
  | .disconnect => some { link.close with epoch := link.epoch + 1 }
  | .arrive arrivals => (link.line.arrive arrivals).map fun line => { link with line }
  | .wait milliseconds => some { link with now := link.now + milliseconds }
  | .expectOpenings outcomes =>
    some { link with line := { link.line with openings := link.line.openings ++ outcomes } }
  | .expectWritings outcomes =>
    some { link with line := { link.line with writings := link.line.writings ++ outcomes } }
  | .proceed index => link.proceed? index

/-- The state after several events. -/
def run (link : Link) : List LinkEvent → Option Link
  | [] => some link
  | event :: events => (link.step event).bind fun link => link.run events

end Link

end WalletGateway
