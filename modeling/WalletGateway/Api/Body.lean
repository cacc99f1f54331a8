import WalletGateway.Api.Error
import WalletGateway.Device.Request
import WalletGateway.Json.Record
import WalletGateway.Text.Blank
import WalletGateway.Wallet.Address
import WalletGateway.Wallet.Amount

/-!
# Request bodies

The JSON bodies of requests.  `Body.check` turns a body into the request to the device, or refuses
it: what is missing makes the request malformed, what is out of range makes it unprocessable.
-/

namespace WalletGateway.Api

open Json (Member Reader)

/-- The wanted run of addresses. -/
structure AddressesBody where
  count : Int := 0
  start : Int := 0
  confirm : Bool := false

/-- The wanted settings. -/
structure SettingsBody where
  settings : Settings := {}

/-- A message, its signature and the address of the signer. -/
structure SignatureBody where
  message : String := ""
  signature : String := ""
  address : String := ""

/-- The wanted length of a new seed. -/
structure NewSeedBody where
  wordCount : UInt32 := 0
  usePassphrase : Bool := false

/-- The length of the seed to be recovered. -/
structure RecoveryBody where
  wordCount : UInt32 := 0
  usePassphrase : Bool := false
  dryRun : Bool := false

/-- The seed to be loaded. -/
structure SeedBody where
  mnemonic : String := ""

/-- A message to be signed, and the index of the address whose key signs it. -/
structure MessageBody where
  index : Int := 0
  message : String := ""

/-- An output that a transaction spends. -/
structure InputBody where
  hash : String := ""
  index : Option UInt32 := none

/-- An output that a transaction makes. -/
structure OutputBody where
  address : String := ""
  addressIndex : Option UInt32 := none
  coins : String := ""
  hours : String := ""

/-- A transaction to be signed. -/
structure TransactionBody where
  inputs : List InputBody := []
  outputs : List OutputBody := []

/-- The PIN. -/
structure PinBody where
  pin : String := ""

/-- The passphrase. -/
structure PassphraseBody where
  passphrase : String := ""

/-- A recovery word. -/
structure WordBody where
  word : String := ""

/-! ## Readers -/

/-- Reads the wanted run of addresses. -/
def AddressesBody.reader : Reader AddressesBody :=
  .record "GenerateAddressesRequest" {}
    [.of "address_n" .int64 fun value body => { body with count := value },
      .of "start_index" .int64 fun value body => { body with start := value },
      .of "confirm_address" .flag fun value body => { body with confirm := value }]

/-- Reads the wanted settings. -/
def SettingsBody.reader : Reader SettingsBody :=
  .record "ApplySettingsRequest" {}
    [.of "label" (.optional .text)
        fun value body => { body with settings := { body.settings with label := value } },
      .of "language" (.optional .text)
        fun value body => { body with settings := { body.settings with language := value } },
      .of "use_passphrase" (.optional .flag)
        fun value body => { body with settings := { body.settings with usePassphrase := value } }]

/-- Reads a signed message. -/
def SignatureBody.reader : Reader SignatureBody :=
  .record "CheckMessageSignatureRequest" {}
    [.of "message" .text fun value body => { body with message := value },
      .of "signature" .text fun value body => { body with signature := value },
      .of "address" .text fun value body => { body with address := value }]

/-- Reads the wanted length of a new seed. -/
def NewSeedBody.reader : Reader NewSeedBody :=
  .record "GenerateMnemonicRequest" {}
    [.of "word_count" .word32 fun value body => { body with wordCount := value },
      .of "use_passphrase" .flag fun value body => { body with usePassphrase := value }]

/-- Reads the length of the seed to be recovered. -/
def RecoveryBody.reader : Reader RecoveryBody :=
  .record "RecoveryRequest" {}
    [.of "word_count" .word32 fun value body => { body with wordCount := value },
      .of "use_passphrase" .flag fun value body => { body with usePassphrase := value },
      .of "dry_run" .flag fun value body => { body with dryRun := value }]

/-- Reads the seed to be loaded. -/
def SeedBody.reader : Reader SeedBody :=
  .record "SetMnemonicRequest" {}
    [.of "mnemonic" .text fun value body => { body with mnemonic := value }]

/-- Reads a message to be signed. -/
def MessageBody.reader : Reader MessageBody :=
  .record "SignMessageRequest" {}
    [.of "address_n" .int64 fun value body => { body with index := value },
      .of "message" .text fun value body => { body with message := value }]

/-- Reads an output that a transaction spends. -/
def InputBody.reader : Reader InputBody :=
  .record "TransactionInput" {}
    [.of "hash" .text fun value body => { body with hash := value },
      .of "index" (.optional .word32) fun value body => { body with index := value }]

/-- Reads an output that a transaction makes. -/
def OutputBody.reader : Reader OutputBody :=
  .record "TransactionOutput" {}
    [.of "address" .text fun value body => { body with address := value },
      .of "address_index" (.optional .word32) fun value body => { body with addressIndex := value },
      .of "coins" .text fun value body => { body with coins := value },
      .of "hours" .text fun value body => { body with hours := value }]

/-- Reads a transaction to be signed. -/
def TransactionBody.reader : Reader TransactionBody :=
  .record "TransactionSignRequest" {}
    [.of "transaction_inputs" (.list InputBody.reader)
        fun value body => { body with inputs := value },
      .of "transaction_outputs" (.list OutputBody.reader)
        fun value body => { body with outputs := value }]

/-- Reads the PIN. -/
def PinBody.reader : Reader PinBody :=
  .record "PinMatrixBody" {} [.of "pin" .text fun value body => { body with pin := value }]

/-- Reads the passphrase. -/
def PassphraseBody.reader : Reader PassphraseBody :=
  .record "PassphraseBody" {}
    [.of "passphrase" .text fun value body => { body with passphrase := value }]

/-- Reads a recovery word. -/
def WordBody.reader : Reader WordBody :=
  .record "WordBody" {} [.of "word" .text fun value body => { body with word := value }]

/-! ## Checks -/

/-- The 32-bit word of an integer, if it fits. -/
def word32? (value : Int) : Option UInt32 :=
  if 0 ≤ value ∧ value.toNat < UInt32.size then some (UInt32.ofNat value.toNat) else none

/-- A value that must be there. -/
def need (present : Bool) (message : String) : Except ApiError Unit :=
  if present then .ok () else .error (.badRequest message)

/-- A value that must fit. -/
def fit {γ : Type} (value : Option γ) (message : String) : Except ApiError γ :=
  match value with
  | some value => .ok value
  | none => .error (.unprocessable message)

/-- An address that must be valid. -/
def needAddress (address : String) : Except ApiError Unit :=
  (Wallet.checkAddress address).mapError fun error => .unprocessable error.message

/-- The lengths of a seed in words. -/
def wordCounts : List Nat := [12, 24]

/-- A length that a seed may have. -/
def needWordCount (wordCount : UInt32) : Except ApiError Unit :=
  fit (if wordCounts.contains wordCount.toNat then some () else none) "word_count must be 12 or 24"

/-- At least one address, and indices of 32 bits. -/
def AddressesBody.check (body : AddressesBody) : Except ApiError DeviceRequest := do
  fit (if body.count = 0 then none else some ()) "address_n cannot be 0"
  let count ← fit (word32? body.count) "address_n must be a positive integer"
  let start ← fit (word32? body.start) "start_index must be a non-negative integer"
  return .deriveAddresses count start body.confirm

/-- At least one setting. -/
def SettingsBody.check (body : SettingsBody) : Except ApiError DeviceRequest := do
  need (body.settings != {}) "no settings provided"
  return .applySettings body.settings

/-- All three texts, and a valid address. -/
def SignatureBody.check (body : SignatureBody) : Except ApiError DeviceRequest := do
  need (!body.address.isEmpty) "address is required"
  need (!body.message.isEmpty) "message is required"
  need (!body.signature.isEmpty) "signature is required"
  needAddress body.address
  return .checkSignature body.message body.signature body.address

/-- A length that a seed may have. -/
def NewSeedBody.check (body : NewSeedBody) : Except ApiError DeviceRequest := do
  needWordCount body.wordCount
  return .generateMnemonic body.wordCount body.usePassphrase

/-- A length that a seed may have. -/
def RecoveryBody.check (body : RecoveryBody) : Except ApiError DeviceRequest := do
  needWordCount body.wordCount
  return .recover body.wordCount body.usePassphrase body.dryRun

/-- As many words as a seed may have. -/
def SeedBody.check (body : SeedBody) : Except ApiError DeviceRequest := do
  let words := Text.wordCount body.mnemonic
  need (words != 0) "mnemonic is required"
  fit (if wordCounts.contains words then some () else none) "mnemonic must be 12 or 24 words"
  return .setMnemonic body.mnemonic

/-- A message, and an index of 32 bits. -/
def MessageBody.check (body : MessageBody) : Except ApiError DeviceRequest := do
  need (!body.message.isEmpty) "message is required"
  let index ← fit (word32? body.index) "address_n must be a non-negative integer"
  return .signMessage index body.message

/-- A hash. -/
def InputBody.check (body : InputBody) : Except ApiError Payload.SkycoinTransactionInput := do
  need (!body.hash.isEmpty) "input hash is required"
  return { hash := body.hash, index := body.index }

/-- All three texts, a valid address, an amount and a number of hours. -/
def OutputBody.check (body : OutputBody) : Except ApiError Payload.SkycoinTransactionOutput := do
  need (!body.address.isEmpty) "output address is required"
  need (!body.coins.isEmpty) "output coins are required"
  need (!body.hours.isEmpty) "output hours are required"
  needAddress body.address
  let coins ← (Wallet.parseDroplets body.coins).mapError fun error =>
    ApiError.unprocessable error.message
  let hours ← (Wallet.parseHours body.hours).mapError fun error =>
    ApiError.unprocessable ("invalid hours: " ++ error.message)
  return { address := body.address, addressIndex := body.addressIndex, coins, hours }

/-- At least one input and one output, all of them valid. -/
def TransactionBody.check (body : TransactionBody) : Except ApiError DeviceRequest := do
  need (!body.inputs.isEmpty) "at least one input is required"
  need (!body.outputs.isEmpty) "at least one output is required"
  let inputs ← body.inputs.mapM InputBody.check
  let outputs ← body.outputs.mapM OutputBody.check
  return .signTransaction inputs outputs

/-- A PIN. -/
def PinBody.check (body : PinBody) : Except ApiError DeviceRequest := do
  need (!body.pin.isEmpty) "pin is required"
  return .enterPin body.pin

/-- Any passphrase, also the empty one. -/
def PassphraseBody.check (body : PassphraseBody) : Except ApiError DeviceRequest :=
  .ok (.enterPassphrase body.passphrase)

/-- A word. -/
def WordBody.check (body : WordBody) : Except ApiError DeviceRequest := do
  need (!body.word.isEmpty) "word is required"
  return .enterWord body.word

/-! ## From bytes to requests -/

/-- How a body is read and checked. -/
structure BodyKind where
  decode : List UInt8 → Except Json.Fault (Except ApiError DeviceRequest)

/-- The kind of body with the given reader and check. -/
def BodyKind.of {β : Type} (reader : Reader β) (check : β → Except ApiError DeviceRequest) :
    BodyKind where
  decode bytes := (Json.decode reader bytes).map check

namespace BodyKind

/-- The wanted run of addresses. -/
def addresses : BodyKind := of AddressesBody.reader AddressesBody.check

/-- The wanted settings. -/
def settings : BodyKind := of SettingsBody.reader SettingsBody.check

/-- A message with its signature. -/
def signature : BodyKind := of SignatureBody.reader SignatureBody.check

/-- A new seed. -/
def newSeed : BodyKind := of NewSeedBody.reader NewSeedBody.check

/-- The recovery of a seed. -/
def recovery : BodyKind := of RecoveryBody.reader RecoveryBody.check

/-- A seed to be loaded. -/
def seed : BodyKind := of SeedBody.reader SeedBody.check

/-- A message to be signed. -/
def message : BodyKind := of MessageBody.reader MessageBody.check

/-- A transaction to be signed. -/
def transaction : BodyKind := of TransactionBody.reader TransactionBody.check

/-- The PIN. -/
def pin : BodyKind := of PinBody.reader PinBody.check

/-- The passphrase. -/
def passphrase : BodyKind := of PassphraseBody.reader PassphraseBody.check

/-- A recovery word. -/
def word : BodyKind := of WordBody.reader WordBody.check

end BodyKind

end WalletGateway.Api
