import WalletGateway.Access.Rehearsal
import WalletGateway.Api.Handling

/-!
# The service

The service answers requests with the help of two devices.  A request that starts an operation stays
open until the operation has an outcome or the client goes away; the latter abandons the operation.

`Service.step` gives the service after an event, once everything waits again.
-/

namespace WalletGateway.Api

open Access (Rehearsal)
open Http (Request Response)

/-- How far the answer to a request has come. -/
inductive ExchangeStage where
  /-- An operation is under way. -/
  | operating (device : DeviceId) (endpoint : Endpoint) (operation : Nat)
  | answered (response : Response)
  /-- The client has gone. -/
  | abandoned
  deriving DecidableEq

/-- A request and the way to its answer. -/
structure Exchange where
  dressing : Dressing
  stage : ExchangeStage
  deriving DecidableEq

/-- An exchange takes note of the outcome of its operation, once that has been told. -/
def Exchange.collect (exchange : Exchange) (told : DeviceId → List (Nat × Access.Outcome)) :
    Exchange :=
  match exchange.stage with
  | .operating device endpoint operation =>
    match ((told device).lookup operation).bind Access.Outcome.result? with
    | none => exchange
    | some result =>
      { exchange with
        stage := .answered (exchange.dressing.apply (endpoint.response result)) }
  | _ => exchange

/-- The service, with the access to its devices. -/
structure Service where
  config : Config := {}
  /-- The key of CSRF tokens, if they are in use. -/
  secret : Option Hmac.Key := none
  usb : Rehearsal := {}
  emulator : Rehearsal := {}
  /-- All requests, in the order in which they came. -/
  exchanges : List Exchange := []

instance : Inhabited Service := ⟨{}⟩

/-- What happens to the service. -/
inductive ServiceEvent where
  /-- A request comes. The nonce is for a token, should one be issued. -/
  | request (now : Instant) (nonce : List UInt8) (request : Request)
  /-- The client of a request goes away. -/
  | leave (exchange : Nat)
  /-- A device answers one of its open calls, counted from the oldest. -/
  | reply (device : DeviceId) (position : Nat) (reply : Except DeviceError Message)
  /-- A device has more to say. -/
  | extend (device : DeviceId) (script : List ScriptEntry)
  /-- From now on disconnecting a device fails, or does not. -/
  | setFailing (device : DeviceId) (failing : Bool)

namespace Service

/-- The access to a device. -/
def access (service : Service) : DeviceId → Rehearsal
  | .usb => service.usb
  | .emulator => service.emulator

/-- The service with another access to a device. -/
def setAccess (service : Service) (device : DeviceId) (access : Rehearsal) : Service :=
  match device with
  | .usb => { service with usb := access }
  | .emulator => { service with emulator := access }

/-- All exchanges take note of the outcomes of their operations. -/
def collect (service : Service) : Service :=
  { service with
    exchanges := service.exchanges.map fun exchange =>
      exchange.collect fun device => (service.access device).delivered }

/-- The service with one more exchange. -/
def withExchange (service : Service) (exchange : Exchange) : Service :=
  { service with exchanges := service.exchanges ++ [exchange] }

@[simp] theorem access_setAccess (service : Service) (device other : DeviceId)
    (access : Rehearsal) :
    (service.setAccess device access).access other
      = if other = device then access else service.access other := by
  cases device <;> cases other <;> rfl

@[simp] theorem setAccess_exchanges (service : Service) (device : DeviceId) (access : Rehearsal) :
    (service.setAccess device access).exchanges = service.exchanges := by
  cases device <;> rfl

@[simp] theorem access_withExchange (service : Service) (exchange : Exchange)
    (device : DeviceId) :
    (service.withExchange exchange).access device = service.access device := by
  cases device <;> rfl

@[simp] theorem access_collect (service : Service) (device : DeviceId) :
    service.collect.access device = service.access device := by
  cases device <;> rfl

/-- The service takes up a request. -/
def takeUp (service : Service) (now : Instant) (nonce : List UInt8) (request : Request) :
    Service :=
  let dressing := Dressing.of service.config request
  match handle ⟨service.config, service.secret, now, nonce⟩ request with
  | .respond response => service.withExchange ⟨dressing, .answered (dressing.apply response)⟩
  | .operate device endpoint asked =>
    let access := service.access device
    let operation := access.state.operations.length
    let purpose := Access.Purpose.supervised endpoint.isSerialized
    (service.setAccess device (access.start purpose asked.message)).withExchange
      ⟨dressing, .operating device endpoint operation⟩

/-- The client of a request goes away.  The second part says whether it was still waiting. -/
def leave (service : Service) (index : Nat) : Service × Bool :=
  match service.exchanges[index]? with
  | some ⟨dressing, .operating device _ operation⟩ =>
    let access := (service.access device).notify operation .abandon
    let exchanges := service.exchanges.set index ⟨dressing, .abandoned⟩
    ({ service.setAccess device access with exchanges }, true)
  | _ => (service, false)

/-- The service after an event.  The second part says whether somebody was there to notice it. -/
def step (service : Service) (event : ServiceEvent) : Service × Bool :=
  match event with
  | .request now nonce request => ((service.takeUp now nonce request).collect, true)
  | .leave index =>
    let (service, found) := service.leave index
    (service.collect, found)
  | .reply device position reply =>
    let (access, heard) := (service.access device).reply position reply
    ((service.setAccess device access).collect, heard)
  | .extend device script =>
    (service.setAccess device ((service.access device).extend script), true)
  | .setFailing device failing =>
    (service.setAccess device ((service.access device).setFailing failing), true)

/-- The service after several events. -/
def run (service : Service) (events : List ServiceEvent) : Service :=
  events.foldl (fun service event => (service.step event).1) service

end Service

end WalletGateway.Api
