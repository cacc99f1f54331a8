/-!
# Configuration
-/

namespace WalletGateway.Api

/-- The configuration of the service. -/
structure Config where
  /-- Host and port at which the service is reached. -/
  host : String := "127.0.0.1:9510"
  /-- Further hosts that requests may name. -/
  whitelist : List String := []
  /-- Whether the headers that name a host are checked. -/
  checksHeaders : Bool := true
  deriving DecidableEq

namespace Config

/-- The name under which a loopback address is also reached. -/
def alias? (host : String) : Option String :=
  let loopback := "127.0.0.1:"
  if loopback.toList.isPrefixOf host.toList then
    some (String.ofList ("localhost:".toList ++ host.toList.drop loopback.length))
  else none

/-- The hosts that requests may name. -/
def hosts (config : Config) : List String :=
  config.host :: (alias? config.host).toList ++ config.whitelist

/-- Whether requests may name a host; letters count in either case. -/
def allows (config : Config) (host : String) : Bool :=
  config.hosts.any fun allowed => allowed.toLower = host.toLower

end Config

end WalletGateway.Api
