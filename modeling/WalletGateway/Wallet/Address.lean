import WalletGateway.Encoding.Base58
import WalletGateway.Hash.Hmac

/-!
# Addresses

An address is the base-58 form of a 20-byte key, a version byte and four bytes of checksum.
-/

namespace WalletGateway.Wallet

/-- The length of an address in bytes. -/
def addressSize : Nat := 25

/-- The length of the part that the checksum covers. -/
def addressBodySize : Nat := 21

/-- The checksum of the first part of an address. -/
def checksum (body : List UInt8) : List UInt8 :=
  (Sha256.hash body).take 4

/-- The address with the given first part. -/
def addressOf (body : List UInt8) : String :=
  Base58.encode (body ++ checksum body)

/-- Why a text is not an address. -/
inductive AddressError where
  | notBase58
  | wrongLength
  | wrongChecksum
  deriving DecidableEq

/-- The text of an error about an address. -/
def AddressError.message : AddressError → String
  | notBase58 => "invalid base58 address"
  | wrongLength => "invalid address length"
  | wrongChecksum => "invalid address checksum"

/-- Checks an address: its digits, then its length, then its checksum. -/
def checkAddress (text : String) : Except AddressError Unit :=
  match Base58.decode? text with
  | none => .error .notBase58
  | some bytes =>
    if bytes.length ≠ addressSize then .error .wrongLength
    else if checksum (bytes.take addressBodySize) ≠ bytes.drop addressBodySize then
      .error .wrongChecksum
    else .ok ()

end WalletGateway.Wallet
