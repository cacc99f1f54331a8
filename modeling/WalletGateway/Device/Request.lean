import WalletGateway.Payload.Interaction
import WalletGateway.Payload.Order

/-!
# Requests to a device

Everything that the host can ask of a device, and the message that asks it.
-/

namespace WalletGateway

/-- Settings to be changed; what is absent stays as it is. -/
structure Settings where
  label : Option String := none
  language : Option String := none
  usePassphrase : Option Bool := none
  deriving DecidableEq, Inhabited

/-- What the host asks of a device. -/
inductive DeviceRequest where
  /-- Give up the current operation. -/
  | cancel
  /-- Go on after a button request. -/
  | acknowledgeButton
  /-- Go on with the PIN, given as positions on the scrambled matrix. -/
  | enterPin (pin : String)
  /-- Go on with the passphrase. -/
  | enterPassphrase (passphrase : String)
  /-- Go on with a recovery word. -/
  | enterWord (word : String)
  /-- Report the features. -/
  | reportFeatures
  /-- Derive a run of addresses. -/
  | deriveAddresses (count start : UInt32) (confirm : Bool)
  /-- Change the settings. -/
  | applySettings (settings : Settings)
  /-- Show the seed for a backup. -/
  | backup
  /-- Check a signature of a message against an address. -/
  | checkSignature (message signature address : String)
  /-- Set or change the PIN, or remove it. -/
  | changePin (remove : Bool)
  /-- Make a new seed. -/
  | generateMnemonic (wordCount : UInt32) (usePassphrase : Bool)
  /-- Recover a seed word by word. -/
  | recover (wordCount : UInt32) (usePassphrase dryRun : Bool)
  /-- Load a seed. -/
  | setMnemonic (mnemonic : String)
  /-- Sign a message with the key of an address. -/
  | signMessage (index : UInt32) (message : String)
  /-- Sign a transaction. -/
  | signTransaction (inputs : List Payload.SkycoinTransactionInput)
    (outputs : List Payload.SkycoinTransactionOutput)
  /-- Erase all secrets. -/
  | wipe
  deriving DecidableEq

/-- The message that carries a request. -/
def DeviceRequest.message : DeviceRequest → Message
  | cancel => .of ({} : Payload.Cancel)
  | acknowledgeButton => .of ({} : Payload.ButtonAck)
  | enterPin pin => .of (⟨pin⟩ : Payload.PinMatrixAck)
  | enterPassphrase passphrase => .of (⟨passphrase⟩ : Payload.PassphraseAck)
  | enterWord word => .of (⟨word⟩ : Payload.WordAck)
  | reportFeatures => .of ({} : Payload.GetFeatures)
  | deriveAddresses count start confirm =>
    let payload : Payload.SkycoinAddress :=
      { addressCount := count
        startIndex := some start
        confirmAddress := some confirm }
    .of payload
  | applySettings settings =>
    let payload : Payload.ApplySettings :=
      { label := settings.label
        language := settings.language
        usePassphrase := settings.usePassphrase }
    .of payload
  | backup => .of ({} : Payload.BackupDevice)
  | checkSignature message signature address =>
    .of ({ message, signature, address } : Payload.SkycoinCheckMessageSignature)
  | changePin remove => .of (⟨if remove then some true else none⟩ : Payload.ChangePin)
  | generateMnemonic wordCount usePassphrase =>
    .of (⟨some wordCount, some usePassphrase⟩ : Payload.GenerateMnemonic)
  | recover wordCount usePassphrase dryRun =>
    .of (⟨some wordCount, some usePassphrase, some dryRun⟩ : Payload.RecoveryDevice)
  | setMnemonic mnemonic => .of (⟨mnemonic⟩ : Payload.SetMnemonic)
  | signMessage index message => .of (⟨index, message⟩ : Payload.SkycoinSignMessage)
  | signTransaction inputs outputs =>
    let payload : Payload.TransactionSign :=
      { inputCount := UInt32.ofNat inputs.length
        inputs
        outputCount := UInt32.ofNat outputs.length
        outputs }
    .of payload
  | wipe => .of ({} : Payload.WipeDevice)

end WalletGateway
