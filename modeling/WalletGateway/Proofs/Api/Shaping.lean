import WalletGateway.Proofs.Access.Solitude
import WalletGateway.Proofs.Api.Orders
import WalletGateway.Proofs.Payload.Extent

/-!
# Orders reach the device as they were written

An order goes through its check, the request to the device, and the encoding of that.
`order_is_shaped_as_written` follows it all the way, for every kind of order: the device is asked
for the very values that the client has written down, or for nothing.

* `Order.IsCarriedBy` says of a message that it has the kind for the order, and that its payload is
  read as the values of the order.
* `Order.Asks.isCarriedBy` says it of the message that is sent.
-/

namespace WalletGateway.Api

open Http (Request)
open Payload (IsCarried)

/-! ## What the device is told -/

namespace Order

/-- The kind of the message for an order. -/
def kind : Order → Message.Kind
  | addresses _ => .skycoinAddress
  | settings _ => .applySettings
  | signature _ => .skycoinCheckMessageSignature
  | newSeed _ => .generateMnemonic
  | recovery _ => .recoveryDevice
  | seed _ => .setMnemonic
  | pinCode _ => .changePin
  | message _ => .skycoinSignMessage
  | pin _ => .pinMatrixAck
  | passphrase _ => .passphraseAck
  | word _ => .wordAck

/-- The payload of a message is read as the values of an order, each in its field. -/
def IsReadFrom (order : Order) (sent : Message) : Prop :=
  match order with
  | addresses body => ∃ count start : UInt32,
      (count.toNat : Int) = body.count ∧ (start.toNat : Int) = body.start ∧
      sent.decode Payload.SkycoinAddress = .ok
        { addressCount := count
          startIndex := some start
          confirmAddress := some body.confirm }
  | settings body =>
    sent.decode Payload.ApplySettings = .ok
      { label := body.settings.label
        language := body.settings.language
        usePassphrase := body.settings.usePassphrase }
  | signature body =>
    sent.decode Payload.SkycoinCheckMessageSignature = .ok
      { message := body.message
        signature := body.signature
        address := body.address }
  | newSeed body =>
    sent.decode Payload.GenerateMnemonic = .ok
      { wordCount := some body.wordCount
        passphraseProtection := some body.usePassphrase }
  | recovery body =>
    sent.decode Payload.RecoveryDevice = .ok
      { wordCount := some body.wordCount
        passphraseProtection := some body.usePassphrase
        dryRun := some body.dryRun }
  | seed body => sent.decode Payload.SetMnemonic = .ok { mnemonic := body.mnemonic }
  | pinCode remove =>
    sent.decode Payload.ChangePin = .ok { remove := if remove then some true else none }
  | message body => ∃ index : UInt32, (index.toNat : Int) = body.index ∧
      sent.decode Payload.SkycoinSignMessage = .ok
        { addressIndex := index
          message := body.message }
  | pin body => sent.decode Payload.PinMatrixAck = .ok { pin := body.pin }
  | passphrase body => sent.decode Payload.PassphraseAck = .ok { passphrase := body.passphrase }
  | word body => sent.decode Payload.WordAck = .ok { word := body.word }

/-- The message is one for the order, and carries its values. -/
structure IsCarriedBy (order : Order) (sent : Message) : Prop where
  kind : sent.kind? = some order.kind
  values : order.IsReadFrom sent

end Order

/-! ## The message -/

/-- The message that asks for an order carries it.  The cases go through the fields of the payload
in their order. -/
theorem Order.Asks.isCarriedBy {order : Order} {asked : DeviceRequest} (h : order.Asks asked)
    (hextent : order.extent < Endpoint.maxBody) : order.IsCarriedBy asked.message := by
  cases order with
  | addresses body =>
    obtain ⟨count, start, hcount, hstart, rfl⟩ := h
    obtain ⟨hkind, hdecode⟩ := IsCarried.skycoinAddress.carries
      { addressCount := count
        startIndex := some start
        confirmAddress := some body.confirm } 0
      (.cons .word32 <| .cons .optionalFlag <| .cons .optionalWord32 .nil) (by decide)
    exact ⟨hkind, count, start, hcount, hstart, hdecode⟩
  | settings body =>
    obtain rfl := h
    simp only [extent] at hextent
    have hlabel : ∀ label, body.settings.label = some label →
        textSize label ≤ Endpoint.maxBody := by
      intro label hlabel
      simp only [hlabel, Option.elim] at hextent
      omega
    have hlanguage : ∀ language, body.settings.language = some language →
        textSize language ≤ Endpoint.maxBody := by
      intro language hlanguage
      simp only [hlanguage, Option.elim] at hextent
      omega
    obtain ⟨hkind, hdecode⟩ := IsCarried.applySettings.carries
      { label := body.settings.label
        language := body.settings.language
        usePassphrase := body.settings.usePassphrase } Endpoint.maxBody
      (.cons (.optionalText hlanguage) <| .cons (.optionalText hlabel) <|
        .cons .optionalFlag .nil) (by decide)
    exact ⟨hkind, hdecode⟩
  | signature body =>
    obtain rfl := h
    simp only [extent] at hextent
    have haddress : textSize body.address ≤ Endpoint.maxBody := by omega
    have hmessage : textSize body.message ≤ Endpoint.maxBody := by omega
    have hsignature : textSize body.signature ≤ Endpoint.maxBody := by omega
    obtain ⟨hkind, hdecode⟩ := IsCarried.skycoinCheckMessageSignature.carries
      { message := body.message
        signature := body.signature
        address := body.address } Endpoint.maxBody
      (.cons (.text haddress) <| .cons (.text hmessage) <| .cons (.text hsignature) .nil)
      (by decide)
    exact ⟨hkind, hdecode⟩
  | newSeed body =>
    obtain rfl := h
    obtain ⟨hkind, hdecode⟩ := IsCarried.generateMnemonic.carries
      { wordCount := some body.wordCount
        passphraseProtection := some body.usePassphrase } 0
      (.cons .optionalWord32 <| .cons .optionalFlag .nil) (by decide)
    exact ⟨hkind, hdecode⟩
  | recovery body =>
    obtain rfl := h
    obtain ⟨hkind, hdecode⟩ := IsCarried.recoveryDevice.carries
      { wordCount := some body.wordCount
        passphraseProtection := some body.usePassphrase
        dryRun := some body.dryRun } 0
      (.cons .optionalWord32 <| .cons .optionalFlag <| .cons .optionalFlag .nil) (by decide)
    exact ⟨hkind, hdecode⟩
  | seed body =>
    obtain rfl := h
    have hmnemonic : textSize body.mnemonic ≤ Endpoint.maxBody := Nat.le_of_lt hextent
    obtain ⟨hkind, hdecode⟩ := IsCarried.setMnemonic.carries
      { mnemonic := body.mnemonic } Endpoint.maxBody (.cons (.text hmnemonic) .nil) (by decide)
    exact ⟨hkind, hdecode⟩
  | pinCode remove =>
    obtain rfl := h
    obtain ⟨hkind, hdecode⟩ := IsCarried.changePin.carries
      { remove := if remove then some true else none } 0 (.cons .optionalFlag .nil) (by decide)
    exact ⟨hkind, hdecode⟩
  | message body =>
    obtain ⟨index, hindex, rfl⟩ := h
    have hmessage : textSize body.message ≤ Endpoint.maxBody := Nat.le_of_lt hextent
    obtain ⟨hkind, hdecode⟩ := IsCarried.skycoinSignMessage.carries
      { addressIndex := index
        message := body.message } Endpoint.maxBody
      (.cons .word32 <| .cons (.text hmessage) .nil) (by decide)
    exact ⟨hkind, index, hindex, hdecode⟩
  | pin body =>
    obtain rfl := h
    have hpin : textSize body.pin ≤ Endpoint.maxBody := Nat.le_of_lt hextent
    obtain ⟨hkind, hdecode⟩ := IsCarried.pinMatrixAck.carries
      { pin := body.pin } Endpoint.maxBody (.cons (.text hpin) .nil) (by decide)
    exact ⟨hkind, hdecode⟩
  | passphrase body =>
    obtain rfl := h
    have hpassphrase : textSize body.passphrase ≤ Endpoint.maxBody := Nat.le_of_lt hextent
    obtain ⟨hkind, hdecode⟩ := IsCarried.passphraseAck.carries
      { passphrase := body.passphrase } Endpoint.maxBody (.cons (.text hpassphrase) .nil)
      (by decide)
    exact ⟨hkind, hdecode⟩
  | word body =>
    obtain rfl := h
    have hword : textSize body.word ≤ Endpoint.maxBody := Nat.le_of_lt hextent
    obtain ⟨hkind, hdecode⟩ := IsCarried.wordAck.carries
      { word := body.word } Endpoint.maxBody (.cons (.text hword) .nil) (by decide)
    exact ⟨hkind, hdecode⟩

/-! ## The whole way -/

/-- At an idle device, an order that can be read is accepted exactly if its rules hold.  Then the
next message that the device receives is one for the order, with the values that were written, each
in its place; otherwise the client is told that the request is malformed or asks for what is not
allowed, and no device receives anything. -/
theorem order_is_shaped_as_written {service : Service} {device : DeviceId} {now : Instant}
    {nonce : List UInt8} {request : Request} {order : Order}
    (hidle : (service.access device).IsIdle)
    (hgate : Gate.check service.config service.secret now request = .ok ())
    (hpath : request.target.path = device.root ++ order.endpoint.path)
    (hmethod : request.method = .post) (hwritten : order.IsWrittenIn request) :
    let circumstances : Circumstances := ⟨service.config, service.secret, now, nonce⟩
    let next := (service.step (.request now nonce request)).1
    ((∃ asked, handle circumstances request = .operate device order.endpoint asked) ↔
        order.IsValid) ∧
      (order.IsValid → ∃ message later,
        (next.access device).device.sent
            = later ++ message :: (service.access device).device.sent ∧
          order.IsCarriedBy message) ∧
      (¬ order.IsValid → (∀ other, next.access other = service.access other) ∧
        ∃ dressing response,
          next.exchanges[service.exchanges.length]? = some ⟨dressing, .answered response⟩ ∧
            (response.status = .badRequest ∨ response.status = .unprocessable)) := by
  intro circumstances next
  have hhandle : handle circumstances request = .ofAsked device order.endpoint order.check := by
    have hposted : request.method = order.endpoint.method := by
      rw [hmethod]
      cases order <;> rfl
    rw [← Order.request_eq hwritten]
    exact handle_of_gate hgate hpath hposted
  refine ⟨?_, fun hvalid => ?_, fun hrefused => ?_⟩
  · rw [Order.isValid_iff, hhandle]
    cases order.check with
    | error error => simp [Handling.ofAsked]
    | ok asked => exact iff_of_true ⟨asked, rfl⟩ ⟨asked, rfl⟩
  · obtain ⟨asked, hcheck⟩ := Order.isValid_iff.1 hvalid
    have hasks := (Order.check_eq_ok_iff.1 hcheck).2
    rw [hcheck] at hhandle
    obtain ⟨later, hlater⟩ := hidle.start_sent order.endpoint.isSerialized asked.message
    refine ⟨asked.message, later, ?_, hasks.isCarriedBy hwritten.extent_lt⟩
    rw [← hlater]
    exact congrArg (·.device.sent) (Service.step_of_operate hhandle)
  · cases hcheck : order.check with
    | ok asked => exact absurd (Order.isValid_iff.2 ⟨asked, hcheck⟩) hrefused
    | error error =>
      rw [hcheck] at hhandle
      obtain ⟨haccess, hexchange⟩ := Service.step_of_respond hhandle
      exact ⟨haccess, _, _, hexchange, order.check_complains error hcheck⟩

/-- A greeting with its signature. -/
def greeting : SignatureBody where
  message := "hello"
  signature := "a1b2"
  address := "2EU3JbveHdkxW6z5tdhbbB2kRAWvXC2pLzw"

/-- The request to the emulator to check the signature. -/
def greetingRequest : Request where
  method := .post
  target := { path := "/api/v1/emulator/checkMessageSignature" }
  headers := [("content-type", "application/json")]
  body := Text.utf8 <|
    "\x7b\"message\":\"hello\",\"signature\":\"a1b2\","
      ++ "\"address\":\"2EU3JbveHdkxW6z5tdhbbB2kRAWvXC2pLzw\"\x7d"

deriving instance DecidableEq for SignatureBody

/-- The signature is sent to the emulator for a check. -/
theorem greeting_is_checked :
    let service : Service := { config := { checksHeaders := false } }
    let next := (service.step (.request ⟨0⟩ [] greetingRequest)).1
    (service.access .emulator).IsIdle ∧
      Gate.check service.config service.secret ⟨0⟩ greetingRequest = .ok () ∧
      greetingRequest.target.path
        = DeviceId.emulator.root ++ (Order.signature greeting).endpoint.path ∧
      greetingRequest.method = .post ∧ (Order.signature greeting).IsWrittenIn greetingRequest ∧
      ∃ message later,
        (next.access .emulator).device.sent
            = later ++ message :: (service.access .emulator).device.sent ∧
          (Order.signature greeting).IsCarriedBy message := by
  intro service next
  have hidle : (service.access .emulator).IsIdle := ⟨by simp [service, Service.access], rfl, rfl⟩
  have hgate : Gate.check service.config service.secret ⟨0⟩ greetingRequest = .ok () := by decide
  have hpath : greetingRequest.target.path
      = DeviceId.emulator.root ++ (Order.signature greeting).endpoint.path := rfl
  have hwritten : (Order.signature greeting).IsWrittenIn greetingRequest :=
    ⟨by decide +kernel, by decide +kernel, by decide +kernel⟩
  have hvalid : (Order.signature greeting).IsValid :=
    ⟨by decide, by decide, by decide, by decide +kernel⟩
  exact ⟨hidle, hgate, hpath, rfl, hwritten,
    (order_is_shaped_as_written hidle hgate hpath rfl hwritten).2.1 hvalid⟩

end WalletGateway.Api
