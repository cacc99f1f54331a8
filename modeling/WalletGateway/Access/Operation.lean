import WalletGateway.Access.Slot
import WalletGateway.Device.Request
import WalletGateway.Device.Resolution

/-!
# Operations

An operation wants something of a device on behalf of a caller.  It may have to take the slot first;
if the slot is held, a Cancel request is sent, and the slot is taken over once that is answered.
Then the operation drives the device: it sends its message and acknowledges button requests until a
reply resolves it.

An operation that is given up before it has ended disconnects the device.  Its drive is not
stopped: it goes on whenever the device answers, but nobody hears of its end.

`Operation.react` says what one signal does to one operation.  Signals come from the caller, from
the device, or from the operation itself when it can go on.
-/

namespace WalletGateway.Access

/-- What an operation is for. -/
inductive Purpose where
  /-- To carry out a request under supervision, holding the slot or not.  It is given up when its
  caller goes away. -/
  | supervised (serialized : Bool)
  /-- To carry out a request without the slot.  It is given up when its token fires. -/
  | run
  /-- To take the slot for the caller.  It is given up when its token fires. -/
  | acquire
  deriving DecidableEq

/-- How far the drive of the device has come. -/
inductive Drive where
  | idle
  /-- A message is to be sent. -/
  | ready (message : Message)
  /-- A reply is awaited. -/
  | awaiting
  | resolved (result : Except DeviceError Resolution)

/-- How far an operation has come. -/
inductive Stage where
  /-- It has not looked at the slot yet. -/
  | waiting
  /-- It has sent a Cancel request to the holder's device. -/
  | preempting
  /-- Its drive is under way. -/
  | driving
  /-- It has been given up and disconnects the device. -/
  | disconnecting
  | ended
  deriving DecidableEq

/-- An operation. -/
structure Operation where
  purpose : Purpose
  /-- The message that opens the drive. -/
  request : Message
  stage : Stage
  drive : Drive := .idle
  /-- Whether it has been given up. -/
  fired : Bool := false
  /-- Whether its caller waits for the outcome. -/
  attended : Bool := true
  guard : Option Guard := none

/-- What a caller is told. -/
inductive Outcome where
  | acquired
  | result (result : Except DeviceError Resolution)

/-- What a caller is told of its request. -/
def Outcome.result? : Outcome → Option (Except DeviceError Resolution)
  | acquired => none
  | result told => some told

/-- What happens to an operation. -/
inductive Signal where
  /-- It looks at the slot. -/
  | start
  /-- The device answers its outstanding call. -/
  | answer (reply : Except DeviceError Message)
  /-- Its drive sends the next message. -/
  | send
  /-- It takes note of the end of its drive. -/
  | settle
  /-- Its token fires. -/
  | fire
  /-- It takes note of having been given up. -/
  | notice
  /-- The disconnection that it asked for has ended. -/
  | disconnected (result : Except DeviceError Unit)
  /-- Its caller goes away. -/
  | abandon
  /-- Its caller releases the guard and keeps it. -/
  | release
  /-- Its caller drops the guard. -/
  | dropGuard

/-- What an operation does to the world. -/
inductive Effect where
  | call (message : Message)
  | disconnect
  | deliver (outcome : Outcome)

/-- What is left after a signal: the slot, the operation, and what it did. -/
structure Reaction where
  slot : Slot
  operation : Operation
  effect : Option Effect := none

namespace Operation

/-- An operation that begins. -/
def new (purpose : Purpose) (request : Message) : Operation :=
  match purpose with
  | .supervised true | .acquire => { purpose, request, stage := .waiting }
  | .supervised false | .run => { purpose, request, stage := .driving, drive := .ready request }

/-- Whether a call of the operation is outstanding. -/
def awaits (operation : Operation) : Bool :=
  operation.stage == .preempting || operation.drive matches .awaiting

/-- The operation ends: a guard of its own is dropped, and the caller, if there is one, hears of the
outcome. -/
def finish (operation : Operation) (slot : Slot) (outcome : Outcome) : Reaction where
  slot := (operation.guard.map slot.giveBack).getD slot
  operation := { operation with stage := .ended, guard := none }
  effect := if operation.attended then some (.deliver outcome) else none

/-- The operation takes the slot and goes on. -/
def takeSlot (operation : Operation) (slot : Slot) : Reaction :=
  let (guard, slot) := slot.take
  match operation.purpose with
  | .acquire =>
    ⟨slot, { operation with stage := .ended, guard := some guard },
      if operation.attended then some (.deliver .acquired) else none⟩
  | _ =>
    ⟨slot,
      { operation with
        stage := .driving
        drive := .ready operation.request
        guard := some guard },
      none⟩

/-- The drive after a reply. -/
def Drive.after (reply : Except DeviceError Message) : Drive :=
  match reply with
  | .error error => .resolved (.error error)
  | .ok message =>
    match message.verdict with
    | .acknowledge => .ready DeviceRequest.acknowledgeButton.message
    | .resolved result => .resolved result

/-- What a signal does; nothing where it cannot occur. -/
def react (operation : Operation) (slot : Slot) : Signal → Option Reaction
  | .start =>
    if operation.stage ≠ .waiting then none
    else if slot.isFree then some (operation.takeSlot slot)
    else some ⟨slot, { operation with stage := .preempting },
        some (.call DeviceRequest.cancel.message)⟩
  | .answer reply =>
    if operation.stage = .preempting then
      match reply with
      | .ok _ => some (operation.takeSlot slot)
      | .error error => some (operation.finish slot (.result (.error error)))
    else
      match operation.drive with
      | .awaiting => some ⟨slot, { operation with drive := Drive.after reply }, none⟩
      | _ => none
  | .send =>
    match operation.drive with
    | .ready message => some ⟨slot, { operation with drive := .awaiting }, some (.call message)⟩
    | _ => none
  | .settle =>
    match operation.stage, operation.drive with
    | .driving, .resolved result => some (operation.finish slot (.result result))
    | _, _ => none
  | .notice =>
    if operation.fired ∧ operation.stage ∈ [.waiting, .preempting, .driving] then
      some ⟨slot, { operation with stage := .disconnecting }, some .disconnect⟩
    else none
  | .disconnected result =>
    if operation.stage ≠ .disconnecting then none
    else
      match result with
      | .ok () => some (operation.finish slot (.result (.error .clientClosed)))
      | .error error => some (operation.finish slot (.result (.error error)))
  | .fire =>
    match operation.purpose with
    | .supervised _ => none
    | _ => some ⟨slot, { operation with fired := true }, none⟩
  | .abandon =>
    if !operation.attended ∨ operation.stage = .ended then none
    else
      match operation.purpose with
      | .supervised _ => some ⟨slot, { operation with attended := false, fired := true }, none⟩
      | _ => some ⟨slot, { operation with attended := false, stage := .ended }, none⟩
  | .release =>
    match operation.purpose, operation.guard with
    | .acquire, some guard =>
      some ⟨slot.giveBack guard,
        { operation with guard := some { guard with released := true } }, none⟩
    | _, _ => none
  | .dropGuard =>
    match operation.purpose, operation.guard with
    | .acquire, some guard => some ⟨slot.giveBack guard, { operation with guard := none }, none⟩
    | _, _ => none

end Operation

end WalletGateway.Access
