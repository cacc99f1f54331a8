import WalletGateway.Device.Error
import WalletGateway.Message.Basic
import WalletGateway.Payload.Report

/-!
# Resolutions

What a reply of the device means.  A button request is only acknowledged; every other reply ends the
conversation: with a result, with a pause for input of the user, with a refusal or with an error.
-/

namespace WalletGateway

/-- The input that the device waits for. -/
inductive Interaction where
  | pinMatrix
  | passphrase
  | word
  deriving DecidableEq

/-- The name of an interaction. -/
def Interaction.name : Interaction → String
  | pinMatrix => "PinMatrixRequest"
  | passphrase => "PassphraseRequest"
  | word => "WordRequest"

/-- The result of an operation. -/
inductive Completion where
  | text (text : String)
  | addresses (addresses : List String)
  | signature (signature : String)
  | signatures (signatures : List String)
  | features (features : Payload.Features)
  deriving DecidableEq

/-- How a conversation ends. -/
inductive Resolution where
  /-- The operation has a result. -/
  | complete (completion : Completion)
  /-- The device waits for input of the user. -/
  | interaction (interaction : Interaction)
  /-- The device refuses, or has given up. -/
  | refused (text : String)
  deriving DecidableEq

/-- What a reply asks of the host. -/
inductive Verdict where
  /-- To acknowledge a button request. -/
  | acknowledge
  /-- Nothing: the conversation is over. -/
  | resolved (result : Except DeviceError Resolution)

namespace Message

/-- Ends a conversation with what a payload says. -/
def resolveWith (α : Type) [Payload α] (message : Message) (resolution : α → Resolution) :
    Verdict :=
  .resolved <|
    match message.decode α with
    | .ok payload => .ok (resolution payload)
    | .error fault => .error (.undecodable (Payload.kind α) fault)

/-- What a reply asks of the host. -/
def verdict (message : Message) : Verdict :=
  match message.kind? with
  | some .buttonRequest => .acknowledge
  | some .pinMatrixRequest => .resolved (.ok (.interaction .pinMatrix))
  | some .passphraseRequest => .resolved (.ok (.interaction .passphrase))
  | some .wordRequest => .resolved (.ok (.interaction .word))
  | some .failure =>
    message.resolveWith Payload.Failure fun payload => .refused (payload.message.getD "")
  | some .success =>
    message.resolveWith Payload.Success fun payload =>
      .complete (.text (payload.message.getD ""))
  | some .responseSkycoinAddress =>
    message.resolveWith Payload.ResponseSkycoinAddress fun payload =>
      .complete (.addresses payload.addresses)
  | some .responseSkycoinSignMessage =>
    message.resolveWith Payload.ResponseSkycoinSignMessage fun payload =>
      .complete (.signature payload.signedMessage)
  | some .responseTransactionSign =>
    message.resolveWith Payload.ResponseTransactionSign fun payload =>
      .complete (.signatures payload.signatures)
  | some .features =>
    message.resolveWith Payload.Features fun payload => .complete (.features payload)
  | _ => .resolved (.error (.unexpectedMessage message.kindName))

end Message

end WalletGateway
