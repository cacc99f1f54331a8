import WalletGateway.Api.Dressing
import WalletGateway.Api.Gate

/-!
# Handling of requests

`handle` decides what becomes of a request: it is answered at once, or it starts an operation on a
device.  The decision depends on the request, the configuration and the time, and not on what goes
on at the devices.
-/

namespace WalletGateway.Api

open Http (Request Response)

/-- What becomes of a request. -/
inductive Handling where
  | respond (response : Response)
  | operate (device : DeviceId) (endpoint : Endpoint) (request : DeviceRequest)
  deriving DecidableEq

/-- What is needed to decide. -/
structure Circumstances where
  config : Config
  /-- The key of CSRF tokens, if they are in use. -/
  secret : Option Hmac.Key
  now : Instant
  /-- The nonce for a token, should one be issued. -/
  nonce : List UInt8

/-- The response with a new CSRF token. -/
def tokenResponse (circumstances : Circumstances) : Response :=
  match circumstances.secret with
  | none => (ApiError.of .notFound "").response
  | some secret => dataResponse (.text (Csrf.issue secret circumstances.nonce circumstances.now))

/-- What becomes of a request that has passed the gate. -/
def route (circumstances : Circumstances) (request : Request) : Handling :=
  match Resource.ofPath? request.target.path with
  | none => .respond (ApiError.of .notFound "").response
  | some resource =>
    if !resource.takes request.method then .respond (ApiError.of .methodNotAllowed "").response
    else
      match resource with
      | .token => .respond (tokenResponse circumstances)
      | .operation device endpoint =>
        match endpoint.request request with
        | .error error => .respond error.response
        | .ok asked => .operate device endpoint asked

/-- What becomes of a request. -/
def handle (circumstances : Circumstances) (request : Request) : Handling :=
  if request.method = .options then .respond preflightResponse
  else
    match Gate.check circumstances.config circumstances.secret circumstances.now request with
    | .error error => .respond error.response
    | .ok () => route circumstances request

end WalletGateway.Api
