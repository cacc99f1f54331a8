import WalletGateway.Api.Answer
import WalletGateway.Api.Body
import WalletGateway.Http.Request

/-!
# Endpoints

What the API offers, and at which paths.  Both devices have the same endpoints, under prefixes of
their own.  `Endpoint.request` turns a request to an endpoint into what is asked of the device, or
refuses it.
-/

namespace WalletGateway.Api

open Http (Method Request)

/-- The devices that are served. -/
inductive DeviceId where
  | usb | emulator
  deriving DecidableEq

/-- What both devices offer. -/
inductive Endpoint where
  | generateAddresses | applySettings | backup | cancel | checkMessageSignature | features
  | generateMnemonic | recovery | setMnemonic | setPinCode | signMessage | transactionSign | wipe
  | pinMatrix | passphrase | word
  deriving DecidableEq

namespace Endpoint

/-- All endpoints. -/
def all : List Endpoint :=
  [generateAddresses, applySettings, backup, cancel, checkMessageSignature, features,
    generateMnemonic, recovery, setMnemonic, setPinCode, signMessage, transactionSign, wipe,
    pinMatrix, passphrase, word]

/-- The path of an endpoint, under the prefix of its device. -/
def path : Endpoint → String
  | generateAddresses => "/generateAddresses"
  | applySettings => "/applySettings"
  | backup => "/backup"
  | cancel => "/cancel"
  | checkMessageSignature => "/checkMessageSignature"
  | features => "/features"
  | generateMnemonic => "/generateMnemonic"
  | recovery => "/recovery"
  | setMnemonic => "/setMnemonic"
  | setPinCode => "/setPinCode"
  | signMessage => "/signMessage"
  | transactionSign => "/transactionSign"
  | wipe => "/wipe"
  | pinMatrix => "/intermediate/pinmatrix"
  | passphrase => "/intermediate/passphrase"
  | word => "/intermediate/word"

/-- The method that an endpoint takes. -/
def method : Endpoint → Method
  | features => .get
  | cancel => .put
  | wipe => .delete
  | _ => .post

/-- Whether an operation of the endpoint holds the slot of the device.  A cancellation does not, so
that it can reach a device that is in use. -/
def isSerialized : Endpoint → Bool
  | cancel => false
  | _ => true

/-- The longest body that is read. -/
def maxBody : Nat := 2 * 1024 * 1024

/-- Whether the body is announced as JSON. -/
def announcesJson (request : Request) : Bool :=
  match request.plainHeader? "content-type" with
  | none => false
  | some value =>
    let isEdge (c : Char) : Bool := c == ' ' || c == '\t'
    let type := ((value.toList.takeWhile (· != ';')).dropWhile isEdge).reverse.dropWhile isEdge
    (String.ofList type.reverse).toLower = "application/json"

/-- What a JSON body asks of the device. -/
def bodyRequest (kind : BodyKind) (request : Request) : Except ApiError DeviceRequest :=
  if !announcesJson request then .error (.of .unsupportedMediaType "")
  else if request.body.length > maxBody then
    .error (.badRequest "Failed to buffer the request body: length limit exceeded")
  else
    match kind.decode request.body with
    | .error fault => .error (.badRequest (fault.message request.body))
    | .ok checked => checked

/-- Whether the query asks to remove the PIN: it must say so exactly once. -/
def removesPin (request : Request) : Bool :=
  match request.target.form.filter fun field => field.1 = Text.utf8 "remove_pin" with
  | [(_, value)] => value = Text.utf8 "true"
  | _ => false

/-- What a request to an endpoint asks of the device. -/
def request (endpoint : Endpoint) (request : Request) : Except ApiError DeviceRequest :=
  match endpoint with
  | generateAddresses => bodyRequest .addresses request
  | applySettings => bodyRequest .settings request
  | backup => .ok .backup
  | cancel => .ok .cancel
  | checkMessageSignature => bodyRequest .signature request
  | features => .ok .reportFeatures
  | generateMnemonic => bodyRequest .newSeed request
  | recovery => bodyRequest .recovery request
  | setMnemonic => bodyRequest .seed request
  | setPinCode => .ok (.changePin (removesPin request))
  | signMessage => bodyRequest .message request
  | transactionSign => bodyRequest .transaction request
  | wipe => .ok .wipe
  | pinMatrix => bodyRequest .pin request
  | passphrase => bodyRequest .passphrase request
  | word => bodyRequest .word request

/-- The response to an operation of the endpoint.  To a cancellation the device answers with a
refusal, so this is no failure there. -/
def response (endpoint : Endpoint) (result : Except DeviceError Resolution) : Http.Response :=
  match endpoint, result with
  | cancel, .ok (.refused text) => dataResponse (.text text)
  | _, _ => outcomeResponse result

end Endpoint

/-- What stands at a path. -/
inductive Resource where
  | operation (device : DeviceId) (endpoint : Endpoint)
  /-- New CSRF tokens. -/
  | token
  deriving DecidableEq

/-- The path under which the endpoints of a device are found. -/
def DeviceId.root : DeviceId → String
  | usb => "/api/v1"
  | emulator => "/api/v1/emulator"

namespace Resource

/-- All resources. -/
def all : List Resource :=
  Endpoint.all.map (operation .usb) ++ Endpoint.all.map (operation .emulator) ++ [token]

/-- The path of a resource. -/
def path : Resource → String
  | operation device endpoint => device.root ++ endpoint.path
  | token => "/api/v1/csrf"

/-- The method that a resource takes. -/
def method : Resource → Method
  | operation _ endpoint => endpoint.method
  | token => .get

/-- What stands at a path, if anything does.  Paths match exactly. -/
def ofPath? (path : String) : Option Resource :=
  all.find? fun resource => resource.path = path

/-- Whether a resource takes a method.  What can be got can also be asked for its head. -/
def takes (resource : Resource) (method : Method) : Bool :=
  method = resource.method || (method = .head && resource.method = .get)

/-- The methods that a resource takes, as a header says it. -/
def allowed (resource : Resource) : String :=
  match resource.method with
  | .get => "GET,HEAD"
  | .put => "PUT"
  | .delete => "DELETE"
  | _ => "POST"

end Resource

end WalletGateway.Api
