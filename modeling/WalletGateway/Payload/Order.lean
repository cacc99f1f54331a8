import WalletGateway.Payload.Basic

/-!
# Orders to the device

The payloads of messages that start an operation.
-/

namespace WalletGateway.Payload

open Protobuf

/-- The request to give up the current operation. -/
structure Cancel where
  deriving DecidableEq, Inhabited

instance : Record Cancel where
  name := "Cancel"
  empty := {}
  fields := []

instance : Payload Cancel where
  kind := .cancel

/-- The request for the device's features. -/
structure GetFeatures where
  deriving DecidableEq, Inhabited

instance : Record GetFeatures where
  name := "GetFeatures"
  empty := {}
  fields := []

instance : Payload GetFeatures where
  kind := .getFeatures

/-- The request to reset the session and report the features. -/
structure Initialize where
  deriving DecidableEq, Inhabited

instance : Record Initialize where
  name := "Initialize"
  empty := {}
  fields := []

instance : Payload Initialize where
  kind := .initializeSession

/-- The request to change label, language or use of the passphrase. -/
structure ApplySettings where
  language : Option String := none
  label : Option String := none
  usePassphrase : Option Bool := none
  deriving DecidableEq, Inhabited

instance : Record ApplySettings where
  name := "ApplySettings"
  empty := {}
  fields :=
    [.optional 1 "language" .text (·.language)
        fun value record => { record with language := value },
      .optional 2 "label" .text (·.label) fun value record => { record with label := value },
      .optional 3 "use_passphrase" .flag (·.usePassphrase)
        fun value record => { record with usePassphrase := value }]

instance : Payload ApplySettings where
  kind := .applySettings

/-- The request to show the seed for a backup. -/
structure BackupDevice where
  deriving DecidableEq, Inhabited

instance : Record BackupDevice where
  name := "BackupDevice"
  empty := {}
  fields := []

instance : Payload BackupDevice where
  kind := .backupDevice

/-- The request to set, change or remove the PIN. -/
structure ChangePin where
  remove : Option Bool := none
  deriving DecidableEq, Inhabited

instance : Record ChangePin where
  name := "ChangePin"
  empty := {}
  fields :=
    [.optional 1 "remove" .flag (·.remove) fun value record => { record with remove := value }]

instance : Payload ChangePin where
  kind := .changePin

/-- The request to erase all secrets. -/
structure WipeDevice where
  deriving DecidableEq, Inhabited

instance : Record WipeDevice where
  name := "WipeDevice"
  empty := {}
  fields := []

instance : Payload WipeDevice where
  kind := .wipeDevice

/-- The request to make a new seed on the device. -/
structure GenerateMnemonic where
  wordCount : Option UInt32 := none
  passphraseProtection : Option Bool := none
  deriving DecidableEq, Inhabited

instance : Record GenerateMnemonic where
  name := "GenerateMnemonic"
  empty := {}
  fields :=
    [.optional 1 "word_count" .word32 (·.wordCount)
        fun value record => { record with wordCount := value },
      .optional 2 "passphrase_protection" .flag (·.passphraseProtection)
        fun value record => { record with passphraseProtection := value }]

instance : Payload GenerateMnemonic where
  kind := .generateMnemonic

/-- The request to load a seed. -/
structure SetMnemonic where
  mnemonic : String := ""
  deriving DecidableEq, Inhabited

instance : Record SetMnemonic where
  name := "SetMnemonic"
  empty := {}
  fields :=
    [.required 1 "mnemonic" .text (·.mnemonic)
        fun value record => { record with mnemonic := value }]

instance : Payload SetMnemonic where
  kind := .setMnemonic

/-- The request to recover a seed word by word. -/
structure RecoveryDevice where
  wordCount : Option UInt32 := none
  passphraseProtection : Option Bool := none
  dryRun : Option Bool := none
  deriving DecidableEq, Inhabited

instance : Record RecoveryDevice where
  name := "RecoveryDevice"
  empty := {}
  fields :=
    [.optional 1 "word_count" .word32 (·.wordCount)
        fun value record => { record with wordCount := value },
      .optional 2 "passphrase_protection" .flag (·.passphraseProtection)
        fun value record => { record with passphraseProtection := value },
      .optional 10 "dry_run" .flag (·.dryRun) fun value record => { record with dryRun := value }]

instance : Payload RecoveryDevice where
  kind := .recoveryDevice

/-- The request for a run of addresses. -/
structure SkycoinAddress where
  addressCount : UInt32 := 0
  confirmAddress : Option Bool := none
  startIndex : Option UInt32 := none
  deriving DecidableEq, Inhabited

instance : Record SkycoinAddress where
  name := "SkycoinAddress"
  empty := {}
  fields :=
    [.required 1 "address_n" .word32 (·.addressCount)
        fun value record => { record with addressCount := value },
      .optional 2 "confirm_address" .flag (·.confirmAddress)
        fun value record => { record with confirmAddress := value },
      .optional 3 "start_index" .word32 (·.startIndex)
        fun value record => { record with startIndex := value }]

instance : Payload SkycoinAddress where
  kind := .skycoinAddress

/-- The request to check a signature against an address. -/
structure SkycoinCheckMessageSignature where
  address : String := ""
  message : String := ""
  signature : String := ""
  deriving DecidableEq, Inhabited

instance : Record SkycoinCheckMessageSignature where
  name := "SkycoinCheckMessageSignature"
  empty := {}
  fields :=
    [.required 1 "address" .text (·.address) fun value record => { record with address := value },
      .required 2 "message" .text (·.message) fun value record => { record with message := value },
      .required 3 "signature" .text (·.signature)
        fun value record => { record with signature := value }]

instance : Payload SkycoinCheckMessageSignature where
  kind := .skycoinCheckMessageSignature

/-- The request to sign a message with the key of an address. -/
structure SkycoinSignMessage where
  addressIndex : UInt32 := 0
  message : String := ""
  deriving DecidableEq, Inhabited

instance : Record SkycoinSignMessage where
  name := "SkycoinSignMessage"
  empty := {}
  fields :=
    [.required 1 "address_n" .word32 (·.addressIndex)
        fun value record => { record with addressIndex := value },
      .required 2 "message" .text (·.message) fun value record => { record with message := value }]

instance : Payload SkycoinSignMessage where
  kind := .skycoinSignMessage

/-- An output that a transaction spends. -/
structure SkycoinTransactionInput where
  hash : String := ""
  index : Option UInt32 := none
  deriving DecidableEq, Inhabited

instance : Record SkycoinTransactionInput where
  name := "SkycoinTransactionInput"
  empty := {}
  fields :=
    [.required 1 "hash_in" .text (·.hash) fun value record => { record with hash := value },
      .optional 2 "index" .word32 (·.index) fun value record => { record with index := value }]

/-- An output that a transaction makes. -/
structure SkycoinTransactionOutput where
  address : String := ""
  addressIndex : Option UInt32 := none
  coins : UInt64 := 0
  hours : UInt64 := 0
  deriving DecidableEq, Inhabited

instance : Record SkycoinTransactionOutput where
  name := "SkycoinTransactionOutput"
  empty := {}
  fields :=
    [.required 1 "address" .text (·.address) fun value record => { record with address := value },
      .optional 2 "address_index" .word32 (·.addressIndex)
        fun value record => { record with addressIndex := value },
      .required 3 "coin" .word64 (·.coins) fun value record => { record with coins := value },
      .required 4 "hour" .word64 (·.hours) fun value record => { record with hours := value }]

/-- The request to sign a transaction. -/
structure TransactionSign where
  inputCount : UInt32 := 0
  inputs : List SkycoinTransactionInput := []
  outputCount : UInt32 := 0
  outputs : List SkycoinTransactionOutput := []
  deriving DecidableEq, Inhabited

instance : Record TransactionSign where
  name := "TransactionSign"
  empty := {}
  fields :=
    [.required 1 "nb_in" .word32 (·.inputCount)
        fun value record => { record with inputCount := value },
      .repeated 2 "transaction_in" (.record SkycoinTransactionInput) (·.inputs)
        fun value record => { record with inputs := value },
      .required 3 "nb_out" .word32 (·.outputCount)
        fun value record => { record with outputCount := value },
      .repeated 4 "transaction_out" (.record SkycoinTransactionOutput) (·.outputs)
        fun value record => { record with outputs := value }]

instance : Payload TransactionSign where
  kind := .transactionSign

end WalletGateway.Payload
