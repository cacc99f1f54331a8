import WalletGateway.Api.Config
import WalletGateway.Api.Endpoint

/-!
# Dressing of responses

What every response gets on its way out, whatever it is about: the headers that tell browsers which
origins may read it, and the methods that the path takes where the request used another one.  The
response to a request for the head of a resource loses its body.
-/

namespace WalletGateway.Api

open Http (Request Response)

/-- How the response to a request is dressed. -/
structure Dressing where
  /-- The origin that may read the response. -/
  origin : Option String
  /-- The methods that the path takes. -/
  allowed : Option String
  /-- Whether the body is left out. -/
  isHeadOnly : Bool
  deriving DecidableEq

namespace Dressing

/-- The origins whose scripts may read responses. -/
def origins (config : Config) : List String :=
  (config.hosts.map ("http://" ++ ·)).filter Http.isHeaderValue

/-- The dressing for the response to a request. -/
def of (config : Config) (request : Request) : Dressing :=
  let resource := Resource.ofPath? request.target.path
  { origin := (request.header? "origin").filter (origins config).contains
    allowed := (resource.filter fun resource => !resource.takes request.method).map Resource.allowed
    isHeadOnly :=
      request.method = .head && resource.any fun resource => resource.takes request.method }

/-- The headers of a response that may differ with the request. -/
def vary : String :=
  "origin, access-control-request-method, access-control-request-headers"

/-- A dressed response. -/
def apply (dressing : Dressing) (response : Response) : Response :=
  { response with
    headers := response.headers
      ++ (dressing.allowed.map fun value => ("allow", value)).toList
      ++ [("vary", vary)]
      ++ (dressing.origin.map fun value => ("access-control-allow-origin", value)).toList
    body := if dressing.isHeadOnly then "" else response.body }

end Dressing

/-- The response to a browser that asks in advance what it may request. -/
def preflightResponse : Response :=
  ⟨.ok,
    [("access-control-allow-methods", "GET,POST,PUT,DELETE"),
      ("access-control-allow-headers", "origin,accept,content-type,x-requested-with,x-csrf-token")],
    ""⟩

end WalletGateway.Api
