import WalletGateway.Payload.Interaction
import WalletGateway.Payload.Report
import WalletGateway.Proofs.Payload.RoundTrip

/-!
# All payloads read back

`Payload.IsCarried` is the table of the types that messages carry, and `Payload.IsNested` that of
the records inside of them.  Every value of these types is read back from its message as it was
written: `payloads_read_back`.

The kind of a message is not looked at when its payload is read.  A payload must be shorter than
`2 ^ 64` bytes, because its lengths are written as numbers of 64 bits.
-/

namespace WalletGateway.Payload

open Protobuf

/-- The types of the payloads that messages carry. -/
inductive IsCarried : (α : Type) → [Payload α] → Prop where
  -- Reports
  | success : IsCarried Success
  | failure : IsCarried Failure
  | features : IsCarried Features
  | responseSkycoinAddress : IsCarried ResponseSkycoinAddress
  | responseSkycoinSignMessage : IsCarried ResponseSkycoinSignMessage
  | responseTransactionSign : IsCarried ResponseTransactionSign
  -- Interaction
  | buttonRequest : IsCarried ButtonRequest
  | buttonAck : IsCarried ButtonAck
  | pinMatrixRequest : IsCarried PinMatrixRequest
  | pinMatrixAck : IsCarried PinMatrixAck
  | passphraseRequest : IsCarried PassphraseRequest
  | passphraseAck : IsCarried PassphraseAck
  | wordRequest : IsCarried WordRequest
  | wordAck : IsCarried WordAck
  -- Orders
  | cancel : IsCarried Cancel
  | getFeatures : IsCarried GetFeatures
  | initializeSession : IsCarried Initialize
  | applySettings : IsCarried ApplySettings
  | backupDevice : IsCarried BackupDevice
  | changePin : IsCarried ChangePin
  | wipeDevice : IsCarried WipeDevice
  | generateMnemonic : IsCarried GenerateMnemonic
  | setMnemonic : IsCarried SetMnemonic
  | recoveryDevice : IsCarried RecoveryDevice
  | skycoinAddress : IsCarried SkycoinAddress
  | skycoinCheckMessageSignature : IsCarried SkycoinCheckMessageSignature
  | skycoinSignMessage : IsCarried SkycoinSignMessage
  | transactionSign : IsCarried TransactionSign

/-- The types of the records inside of payloads. -/
inductive IsNested : (α : Type) → [Record α] → Prop where
  | transactionInput : IsNested SkycoinTransactionInput
  | transactionOutput : IsNested SkycoinTransactionOutput

theorem Features.isFaithful {depth : Nat} : Record.IsFaithful Features depth :=
  .of_copies ⟨by decide, by decide⟩ fun _ =>
    .optional Codec.text_isFaithful rfl <|
    .optional Codec.word32_isFaithful rfl <|
    .optional Codec.word32_isFaithful rfl <|
    .optional Codec.word32_isFaithful rfl <|
    .optional Codec.flag_isFaithful rfl <|
    .optional Codec.text_isFaithful rfl <|
    .optional Codec.flag_isFaithful rfl <|
    .optional Codec.flag_isFaithful rfl <|
    .optional Codec.text_isFaithful rfl <|
    .optional Codec.text_isFaithful rfl <|
    .optional Codec.flag_isFaithful rfl <|
    .optional Codec.bytes_isFaithful rfl <|
    .optional Codec.flag_isFaithful rfl <|
    .optional Codec.flag_isFaithful rfl <|
    .optional Codec.flag_isFaithful rfl <|
    .optional Codec.flag_isFaithful rfl <|
    .optional Codec.text_isFaithful rfl <|
    .optional Codec.word32_isFaithful rfl <|
    .optional Codec.word32_isFaithful rfl <|
    .optional Codec.word32_isFaithful rfl <|
    .nil _

/-- The cases are those of the fields: types with the same fields go together. -/
theorem IsCarried.isFaithful {α : Type} [Payload α] (h : IsCarried α) :
    Record.IsFaithful α 1 := by
  cases h with
  | features => exact Features.isFaithful
  | transactionSign => exact TransactionSign.isFaithful
  | buttonAck | passphraseRequest | wordRequest | cancel | getFeatures | initializeSession
  | backupDevice | wipeDevice =>
    exact .of_copies ⟨by decide, by decide⟩ fun _ => .nil _
  | responseSkycoinSignMessage | pinMatrixAck | passphraseAck | wordAck | setMnemonic =>
    exact .of_copies ⟨by decide, by decide⟩ fun _ =>
      .required Codec.text_isFaithful (.nil _)
  | skycoinCheckMessageSignature =>
    exact .of_copies ⟨by decide, by decide⟩ fun _ =>
      .required Codec.text_isFaithful <|
      .required Codec.text_isFaithful <|
      .required Codec.text_isFaithful (.nil _)
  | skycoinSignMessage =>
    exact .of_copies ⟨by decide, by decide⟩ fun _ =>
      .required Codec.word32_isFaithful <|
      .required Codec.text_isFaithful (.nil _)
  | skycoinAddress =>
    exact .of_copies ⟨by decide, by decide⟩ fun _ =>
      .required Codec.word32_isFaithful <|
      .optional Codec.flag_isFaithful rfl <|
      .optional Codec.word32_isFaithful rfl (.nil _)
  | success =>
    exact .of_copies ⟨by decide, by decide⟩ fun _ =>
      .optional Codec.text_isFaithful rfl (.nil _)
  | changePin =>
    exact .of_copies ⟨by decide, by decide⟩ fun _ =>
      .optional Codec.flag_isFaithful rfl (.nil _)
  | pinMatrixRequest =>
    exact .of_copies ⟨by decide, by decide⟩ fun _ =>
      .optional Codec.int32_isFaithful rfl (.nil _)
  | failure | buttonRequest =>
    exact .of_copies ⟨by decide, by decide⟩ fun _ =>
      .optional Codec.int32_isFaithful rfl <|
      .optional Codec.text_isFaithful rfl (.nil _)
  | generateMnemonic =>
    exact .of_copies ⟨by decide, by decide⟩ fun _ =>
      .optional Codec.word32_isFaithful rfl <|
      .optional Codec.flag_isFaithful rfl (.nil _)
  | recoveryDevice =>
    exact .of_copies ⟨by decide, by decide⟩ fun _ =>
      .optional Codec.word32_isFaithful rfl <|
      .optional Codec.flag_isFaithful rfl <|
      .optional Codec.flag_isFaithful rfl (.nil _)
  | applySettings =>
    exact .of_copies ⟨by decide, by decide⟩ fun _ =>
      .optional Codec.text_isFaithful rfl <|
      .optional Codec.text_isFaithful rfl <|
      .optional Codec.flag_isFaithful rfl (.nil _)
  | responseSkycoinAddress =>
    exact .of_copies ⟨by decide, by decide⟩ fun _ =>
      .repeated Codec.text_isFaithful rfl (fun _ => rfl) (fun _ _ => rfl) (.nil _)
  | responseTransactionSign =>
    exact .of_copies ⟨by decide, by decide⟩ fun _ =>
      .repeated Codec.text_isFaithful rfl (fun _ => rfl) (fun _ _ => rfl) <|
      .optional Codec.flag_isFaithful rfl (.nil _)

theorem IsNested.isFaithful {α : Type} [Record α] (h : IsNested α) : Record.IsFaithful α 0 := by
  cases h with
  | transactionInput => exact SkycoinTransactionInput.isFaithful
  | transactionOutput => exact SkycoinTransactionOutput.isFaithful

/-- Every payload is read back from its message, whatever kind the message is of, and so is every
record inside of payloads from its own bytes. -/
theorem payloads_read_back :
    (∀ {α : Type} [Payload α], IsCarried α → ∀ (kind : Message.Kind) (payload : α),
      (Record.encode payload).length < UInt64.size →
      ({ Message.of payload with code := kind.code } : Message).decode α = .ok payload) ∧
    ∀ {α : Type} [Record α], IsNested α → ∀ part : α,
      (Record.encode part).length < UInt64.size →
      Record.decode (Record.encode part) = .ok part := by
  constructor
  · intro α _ hcarried kind payload hlength
    exact hcarried.isFaithful.decode_encode (by decide) hlength
  · intro α _ hnested part hlength
    exact hnested.isFaithful.decode_encode (by decide) hlength

/-- A transaction with an input and an output, whose optional numbers are there and zero. -/
theorem transaction_reads_back :
    let transaction : TransactionSign :=
      { inputCount := 1
        inputs := [⟨"5e", some 0⟩]
        outputCount := 1
        outputs := [⟨"", some 0, UInt64.ofNat (UInt64.size - 1), 0⟩] }
    (Record.encode transaction).length < UInt64.size ∧
      ({ Message.of transaction with code := Message.Kind.ping.code } : Message).decode
        TransactionSign = .ok transaction := by
  intro transaction
  have hbound : (Record.encode transaction).length ≤ (1 + 1) * (2 + 100) + 40 :=
    TransactionSign.length_encode_le (by decide) (by decide) (by decide)
  have hlength : (Record.encode transaction).length < UInt64.size :=
    Nat.lt_of_le_of_lt hbound (by decide)
  exact ⟨hlength, payloads_read_back.1 .transactionSign .ping transaction hlength⟩

end WalletGateway.Payload
