import WalletGateway.Device.Error
import WalletGateway.Http.Response
import WalletGateway.Json.Value

/-!
# The envelope of answers

Every answer of the API is an object with the members `error` and `data`, of which exactly one is
null.
-/

namespace WalletGateway.Api

open Http

/-- The response that carries a JSON value. -/
def jsonResponse (status : Status) (value : Json.Value) : Response :=
  ⟨status, [("content-type", "application/json")], value.print⟩

/-- The response to a request that was carried out. -/
def dataResponse (data : Json.Value) : Response :=
  jsonResponse .ok (.object [("error", .null), ("data", data)])

/-- A refusal, or a failure to carry out a request. -/
structure ApiError where
  status : Status
  message : String
  deriving DecidableEq

namespace ApiError

/-- The error with a status and a message; an empty message becomes the reason of the status. -/
def of (status : Status) (message : String) : ApiError :=
  ⟨status, if message.isEmpty then status.reason else message⟩

/-- The error about a malformed request. -/
def badRequest (message : String) : ApiError :=
  of .badRequest message

/-- The error about a value that is not allowed. -/
def unprocessable (message : String) : ApiError :=
  of .unprocessable message

/-- The error that tells a client of a device error. -/
def ofDevice (error : DeviceError) : ApiError :=
  match error with
  | .clientClosed => of .clientClosed "Client Closed Request"
  | .undecodable .success _ => of .unauthorized error.message
  | _ => of .serverError error.message

/-- The response that carries an error. -/
def response (error : ApiError) : Response :=
  jsonResponse error.status
    (.object [("error", .object [("code", .number error.status.code),
      ("message", .text error.message)]), ("data", .null)])

end ApiError

end WalletGateway.Api
