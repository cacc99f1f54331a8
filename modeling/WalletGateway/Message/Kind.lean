/-!
# Kinds of messages

Every message that travels between host and wallet carries a 16-bit code.  `Kind` lists the codes
that the host knows; `Kind.ofCode?` recognises them, and a code outside the table is kept as it is
by `Message`.
-/

namespace WalletGateway.Message

/-- What a message is about. -/
inductive Kind where
  | initializeSession | ping | success | failure | changePin | wipeDevice | getEntropy | entropy
  | resetDevice | features | pinMatrixRequest | pinMatrixAck | cancel | applySettings
  | buttonRequest | buttonAck | backupDevice | passphraseRequest | passphraseAck | recoveryDevice
  | wordRequest | wordAck | getFeatures | setMnemonic | skycoinAddress | responseSkycoinAddress
  | skycoinCheckMessageSignature | skycoinSignMessage | responseSkycoinSignMessage
  | generateMnemonic | transactionSign | responseTransactionSign
  deriving DecidableEq, Inhabited

namespace Kind

/-- The code of a kind on the wire. -/
def code : Kind → UInt16
  | initializeSession => 0
  | ping => 1
  | success => 2
  | failure => 3
  | changePin => 4
  | wipeDevice => 5
  | getEntropy => 9
  | entropy => 10
  | resetDevice => 14
  | features => 17
  | pinMatrixRequest => 18
  | pinMatrixAck => 19
  | cancel => 20
  | applySettings => 25
  | buttonRequest => 26
  | buttonAck => 27
  | backupDevice => 34
  | passphraseRequest => 41
  | passphraseAck => 42
  | recoveryDevice => 45
  | wordRequest => 46
  | wordAck => 47
  | getFeatures => 55
  | setMnemonic => 113
  | skycoinAddress => 114
  | responseSkycoinAddress => 115
  | skycoinCheckMessageSignature => 116
  | skycoinSignMessage => 117
  | responseSkycoinSignMessage => 118
  | generateMnemonic => 119
  | transactionSign => 120
  | responseTransactionSign => 121

/-- The name of a kind, as it is shown to people. -/
def name : Kind → String
  | initializeSession => "Initialize"
  | ping => "Ping"
  | success => "Success"
  | failure => "Failure"
  | changePin => "ChangePin"
  | wipeDevice => "WipeDevice"
  | getEntropy => "GetEntropy"
  | entropy => "Entropy"
  | resetDevice => "ResetDevice"
  | features => "Features"
  | pinMatrixRequest => "PinMatrixRequest"
  | pinMatrixAck => "PinMatrixAck"
  | cancel => "Cancel"
  | applySettings => "ApplySettings"
  | buttonRequest => "ButtonRequest"
  | buttonAck => "ButtonAck"
  | backupDevice => "BackupDevice"
  | passphraseRequest => "PassphraseRequest"
  | passphraseAck => "PassphraseAck"
  | recoveryDevice => "RecoveryDevice"
  | wordRequest => "WordRequest"
  | wordAck => "WordAck"
  | getFeatures => "GetFeatures"
  | setMnemonic => "SetMnemonic"
  | skycoinAddress => "SkycoinAddress"
  | responseSkycoinAddress => "ResponseSkycoinAddress"
  | skycoinCheckMessageSignature => "SkycoinCheckMessageSignature"
  | skycoinSignMessage => "SkycoinSignMessage"
  | responseSkycoinSignMessage => "ResponseSkycoinSignMessage"
  | generateMnemonic => "GenerateMnemonic"
  | transactionSign => "TransactionSign"
  | responseTransactionSign => "ResponseTransactionSign"

/-- All kinds, by ascending code. -/
def all : List Kind :=
  [initializeSession, ping, success, failure, changePin, wipeDevice, getEntropy, entropy,
    resetDevice, features, pinMatrixRequest, pinMatrixAck, cancel, applySettings,
    buttonRequest, buttonAck, backupDevice, passphraseRequest, passphraseAck, recoveryDevice,
    wordRequest, wordAck, getFeatures, setMnemonic, skycoinAddress, responseSkycoinAddress,
    skycoinCheckMessageSignature, skycoinSignMessage, responseSkycoinSignMessage,
    generateMnemonic, transactionSign, responseTransactionSign]

/-- The kind with a given code, if there is one. -/
def ofCode? (code : UInt16) : Option Kind :=
  all.find? fun kind => kind.code == code

/-- The kind with exactly the given name, if there is one. -/
def ofName? (name : String) : Option Kind :=
  all.find? fun kind => kind.name == name

theorem ofCode?_code (kind : Kind) : ofCode? kind.code = some kind := by
  cases kind <;> decide

end Kind

end WalletGateway.Message
