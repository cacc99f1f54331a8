import WalletGateway.Text.Basic
import WalletGateway.Text.Hex
import WalletGateway.Url.Domain
import WalletGateway.Url.Ipv6

/-!
# Hosts

The host of a URL is an IP address or a name.  In the web's own schemes a name is a domain: it is
percent-decoded, put into its ASCII form, and must be an IPv4 address if its last part is a number.
In other schemes it is kept as it is.
-/

namespace WalletGateway.Url

/-- The host of a URL. -/
inductive Host where
  | name (text : String)
  | ipv4 (address : Ipv4)
  | ipv6 (address : Ipv6)
  deriving DecidableEq

namespace Host

/-- The text of a host; an IPv6 address stands in brackets. -/
def text : Host → String
  | name text => text
  | ipv4 address => address.text
  | ipv6 address => "[" ++ address.text ++ "]"

/-- The characters, besides controls, that no name may have. -/
def reserved : List Char :=
  [' ', '#', '/', ':', '<', '>', '?', '@', '[', '\\', ']', '^', '|']

/-- Whether a domain may not have a character. -/
def isForbidden (c : Char) : Bool :=
  c.toNat < 0x20 || c.toNat == 0x7f || c == '%' || reserved.contains c

/-- Whether an opaque name may not have a character. -/
def isForbiddenOpaque (c : Char) : Bool :=
  c.toNat == 0 || c == '\t' || c == '\n' || c == '\r' || reserved.contains c

/-- The ASCII form of a domain. -/
def domain? (text : String) : Option (List Char) :=
  (Domain.toAscii? text.toList).filter fun domain => !domain.any isForbidden

/-- The address between brackets. -/
def bracketed? (text : List Char) : Option Host :=
  if text.getLast? = some ']' then (Ipv6.ofText? (text.drop 1).dropLast).map .ipv6 else none

/-- Reads a host of one of the web's own schemes. -/
def ofText? (text : List Char) : Option Host :=
  if text.head? = some '[' then bracketed? text
  else do
    let decoded ← Text.ofUtf8? (Percent.decode (Text.utf8 (String.ofList text)))
    let domain ← domain? decoded
    if domain.isEmpty then none
    else if Ipv4.endsInNumber domain then (Ipv4.ofText? domain).map .ipv4
    else some (.name (String.ofList domain))

/-- A character of an opaque name: controls and what is not ASCII are percent-encoded. -/
def encodeOpaque (c : Char) : List Char :=
  if c.toNat < 0x20 ∨ 0x7f ≤ c.toNat then
    (Text.utf8 (String.singleton c)).flatMap fun byte =>
      '%' :: ((Text.hexPadded 2 byte.toNat).toList.map Char.toUpper)
  else [c]

/-- Reads a host of any other scheme; it may be empty. -/
def ofOpaque? (text : List Char) : Option Host :=
  if text.head? = some '[' then bracketed? text
  else if text.any isForbiddenOpaque then none
  else some (.name (String.ofList (text.flatMap encodeOpaque)))

end Host

end WalletGateway.Url
