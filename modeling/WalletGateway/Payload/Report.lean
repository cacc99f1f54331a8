import WalletGateway.Payload.Basic

/-!
# Reports of the device

The payloads of messages that end an operation: success, failure and the results of the
operations that have one.
-/

namespace WalletGateway.Payload

open Protobuf

/-- A report that the device has done what was asked. -/
structure Success where
  message : Option String := none
  deriving DecidableEq, Inhabited

instance : Record Success where
  name := "Success"
  empty := {}
  fields :=
    [.optional 1 "message" .text (·.message) fun value record => { record with message := value }]

instance : Payload Success where
  kind := .success

/-- A report that the device refuses or has given up. -/
structure Failure where
  code : Option Int32 := none
  message : Option String := none
  deriving DecidableEq, Inhabited

instance : Record Failure where
  name := "Failure"
  empty := {}
  fields :=
    [.optional 1 "code" .int32 (·.code) fun value record => { record with code := value },
      .optional 2 "message" .text (·.message) fun value record => { record with message := value }]

instance : Payload Failure where
  kind := .failure

/-- What a device says about itself. -/
structure Features where
  vendor : Option String := none
  majorVersion : Option UInt32 := none
  minorVersion : Option UInt32 := none
  patchVersion : Option UInt32 := none
  bootloaderMode : Option Bool := none
  deviceId : Option String := none
  pinProtection : Option Bool := none
  passphraseProtection : Option Bool := none
  language : Option String := none
  label : Option String := none
  initialized : Option Bool := none
  bootloaderHash : Option (List UInt8) := none
  pinCached : Option Bool := none
  passphraseCached : Option Bool := none
  firmwarePresent : Option Bool := none
  needsBackup : Option Bool := none
  model : Option String := none
  firmwareMajor : Option UInt32 := none
  firmwareMinor : Option UInt32 := none
  firmwarePatch : Option UInt32 := none
  deriving DecidableEq, Inhabited

instance : Record Features where
  name := "Features"
  empty := {}
  fields :=
    [.optional 1 "vendor" .text (·.vendor) fun value record => { record with vendor := value },
      .optional 2 "major_version" .word32 (·.majorVersion)
        fun value record => { record with majorVersion := value },
      .optional 3 "minor_version" .word32 (·.minorVersion)
        fun value record => { record with minorVersion := value },
      .optional 4 "patch_version" .word32 (·.patchVersion)
        fun value record => { record with patchVersion := value },
      .optional 5 "bootloader_mode" .flag (·.bootloaderMode)
        fun value record => { record with bootloaderMode := value },
      .optional 6 "device_id" .text (·.deviceId)
        fun value record => { record with deviceId := value },
      .optional 7 "pin_protection" .flag (·.pinProtection)
        fun value record => { record with pinProtection := value },
      .optional 8 "passphrase_protection" .flag (·.passphraseProtection)
        fun value record => { record with passphraseProtection := value },
      .optional 9 "language" .text (·.language)
        fun value record => { record with language := value },
      .optional 10 "label" .text (·.label) fun value record => { record with label := value },
      .optional 12 "initialized" .flag (·.initialized)
        fun value record => { record with initialized := value },
      .optional 14 "bootloader_hash" .bytes (·.bootloaderHash)
        fun value record => { record with bootloaderHash := value },
      .optional 16 "pin_cached" .flag (·.pinCached)
        fun value record => { record with pinCached := value },
      .optional 17 "passphrase_cached" .flag (·.passphraseCached)
        fun value record => { record with passphraseCached := value },
      .optional 18 "firmware_present" .flag (·.firmwarePresent)
        fun value record => { record with firmwarePresent := value },
      .optional 19 "needs_backup" .flag (·.needsBackup)
        fun value record => { record with needsBackup := value },
      .optional 21 "model" .text (·.model) fun value record => { record with model := value },
      .optional 22 "fw_major" .word32 (·.firmwareMajor)
        fun value record => { record with firmwareMajor := value },
      .optional 23 "fw_minor" .word32 (·.firmwareMinor)
        fun value record => { record with firmwareMinor := value },
      .optional 24 "fw_patch" .word32 (·.firmwarePatch)
        fun value record => { record with firmwarePatch := value }]

instance : Payload Features where
  kind := .features

/-- The addresses. -/
structure ResponseSkycoinAddress where
  addresses : List String := []
  deriving DecidableEq, Inhabited

instance : Record ResponseSkycoinAddress where
  name := "ResponseSkycoinAddress"
  empty := {}
  fields :=
    [.repeated 1 "addresses" .text (·.addresses)
        fun value record => { record with addresses := value }]

instance : Payload ResponseSkycoinAddress where
  kind := .responseSkycoinAddress

/-- The signature of a message. -/
structure ResponseSkycoinSignMessage where
  signedMessage : String := ""
  deriving DecidableEq, Inhabited

instance : Record ResponseSkycoinSignMessage where
  name := "ResponseSkycoinSignMessage"
  empty := {}
  fields :=
    [.required 1 "signed_message" .text (·.signedMessage)
        fun value record => { record with signedMessage := value }]

instance : Payload ResponseSkycoinSignMessage where
  kind := .responseSkycoinSignMessage

/-- The signatures of a transaction's inputs. -/
structure ResponseTransactionSign where
  signatures : List String := []
  padding : Option Bool := none
  deriving DecidableEq, Inhabited

instance : Record ResponseTransactionSign where
  name := "ResponseTransactionSign"
  empty := {}
  fields :=
    [.repeated 1 "signatures" .text (·.signatures)
        fun value record => { record with signatures := value },
      .optional 2 "padding" .flag (·.padding) fun value record => { record with padding := value }]

instance : Payload ResponseTransactionSign where
  kind := .responseTransactionSign

end WalletGateway.Payload
