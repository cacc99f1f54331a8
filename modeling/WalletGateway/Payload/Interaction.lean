import WalletGateway.Payload.Basic

/-!
# Interaction

The payloads of messages by which the device asks for a press of its button, for the PIN, for the
passphrase or for a recovery word, and of the messages that answer them.
-/

namespace WalletGateway.Payload

open Protobuf

/-- The device waits for a press of its button. -/
structure ButtonRequest where
  code : Option Int32 := none
  data : Option String := none
  deriving DecidableEq, Inhabited

instance : Record ButtonRequest where
  name := "ButtonRequest"
  empty := {}
  fields :=
    [.optional 1 "code" .int32 (·.code) fun value record => { record with code := value },
      .optional 2 "data" .text (·.data) fun value record => { record with data := value }]

instance : Payload ButtonRequest where
  kind := .buttonRequest

/-- The host has taken note of a button request. -/
structure ButtonAck where
  deriving DecidableEq, Inhabited

instance : Record ButtonAck where
  name := "ButtonAck"
  empty := {}
  fields := []

instance : Payload ButtonAck where
  kind := .buttonAck

/-- The device waits for the PIN. -/
structure PinMatrixRequest where
  purpose : Option Int32 := none
  deriving DecidableEq, Inhabited

instance : Record PinMatrixRequest where
  name := "PinMatrixRequest"
  empty := {}
  fields :=
    [.optional 1 "r#type" .int32 (·.purpose) fun value record => { record with purpose := value }]

instance : Payload PinMatrixRequest where
  kind := .pinMatrixRequest

/-- The PIN, as positions on the scrambled matrix. -/
structure PinMatrixAck where
  pin : String := ""
  deriving DecidableEq, Inhabited

instance : Record PinMatrixAck where
  name := "PinMatrixAck"
  empty := {}
  fields :=
    [.required 1 "pin" .text (·.pin) fun value record => { record with pin := value }]

instance : Payload PinMatrixAck where
  kind := .pinMatrixAck

/-- The device waits for the passphrase. -/
structure PassphraseRequest where
  deriving DecidableEq, Inhabited

instance : Record PassphraseRequest where
  name := "PassphraseRequest"
  empty := {}
  fields := []

instance : Payload PassphraseRequest where
  kind := .passphraseRequest

/-- The passphrase. -/
structure PassphraseAck where
  passphrase : String := ""
  deriving DecidableEq, Inhabited

instance : Record PassphraseAck where
  name := "PassphraseAck"
  empty := {}
  fields :=
    [.required 1 "passphrase" .text (·.passphrase)
        fun value record => { record with passphrase := value }]

instance : Payload PassphraseAck where
  kind := .passphraseAck

/-- The device waits for a recovery word. -/
structure WordRequest where
  deriving DecidableEq, Inhabited

instance : Record WordRequest where
  name := "WordRequest"
  empty := {}
  fields := []

instance : Payload WordRequest where
  kind := .wordRequest

/-- A recovery word. -/
structure WordAck where
  word : String := ""
  deriving DecidableEq, Inhabited

instance : Record WordAck where
  name := "WordAck"
  empty := {}
  fields :=
    [.required 1 "word" .text (·.word) fun value record => { record with word := value }]

instance : Payload WordAck where
  kind := .wordAck

end WalletGateway.Payload
