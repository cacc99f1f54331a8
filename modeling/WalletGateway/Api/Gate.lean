import WalletGateway.Api.Config
import WalletGateway.Api.Csrf
import WalletGateway.Api.Error
import WalletGateway.Http.Request
import WalletGateway.Url.Authority

/-!
# The gate

The checks that a request passes before it reaches a resource.  The headers that name a host must
name an allowed one; and a request that changes something must carry a valid CSRF token.
-/

namespace WalletGateway.Api

open Http (Request)

namespace Gate

/-- Whether a header that holds a URL, where there is one, holds a URL of an allowed host. -/
def allowsUrl (config : Config) (request : Request) (name : String) : Bool :=
  match request.header? name with
  | none => true
  | some value =>
    Http.isPlain value && (Url.authority? value).any fun authority => config.allows authority.text

/-- Whether the `Host` header names an allowed host. -/
def allowsHost (config : Config) (request : Request) : Bool :=
  (request.plainHeader? "host").any config.allows

/-- The check of the headers that name a host. -/
def checkHeaders (config : Config) (request : Request) : Except ApiError Unit :=
  if !config.checksHeaders then .ok ()
  else if !allowsHost config request then .error (.of .forbidden "Invalid Host")
  else if !allowsUrl config request "origin" then .error (.of .forbidden "Invalid Origin")
  else if !allowsUrl config request "referer" then .error (.of .forbidden "Invalid Referer")
  else .ok ()

/-- The CSRF token of a request; empty, if there is none that is plain text. -/
def token (request : Request) : String :=
  (request.plainHeader? Csrf.headerName.toLower).getD ""

/-- Whether a request may change something, and so must carry a token. -/
def needsToken (request : Request) : Bool :=
  request.method ∈ [.post, .put, .delete]

/-- The check of the CSRF token, where tokens are in use. -/
def checkToken (secret : Option Hmac.Key) (now : Instant) (request : Request) :
    Except ApiError Unit :=
  match secret with
  | none => .ok ()
  | some secret =>
    if !needsToken request then .ok ()
    else
      (Csrf.verify secret (token request) now).mapError fun error =>
        ApiError.of .forbidden error.message

/-- Both checks, in their order. -/
def check (config : Config) (secret : Option Hmac.Key) (now : Instant) (request : Request) :
    Except ApiError Unit := do
  checkHeaders config request
  checkToken secret now request

end Gate

end WalletGateway.Api
