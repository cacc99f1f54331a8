import WalletGateway.Proofs.Access.Solitude
import WalletGateway.Proofs.Api.Bodies
import WalletGateway.Proofs.Json.Extent
import WalletGateway.Proofs.Payload.RoundTrip
import WalletGateway.Proofs.Wallet.Amount

/-!
# Signing of transactions

A request to sign a transaction goes through the check of its body, the message to the device, and
the encoding of that.  `transaction_is_signed_as_asked` follows it all the way: the device is asked
for the very payments that the client has written down, or for nothing.

* `IsSignable` is what is accepted, and `IsSentAs` compares what was written with what is sent.
* `TransactionBody.check_eq_ok_iff` is the check.
* The numbers of inputs and outputs and the lengths of texts are bounded because the body is:
  `Says.transaction_bounded`.
-/

namespace WalletGateway.Api

open Http (Request)

/-! ## What is accepted, and what is sent -/

/-- An output with a valid address, an amount and a number of hours. -/
structure OutputBody.IsPayable (body : OutputBody) : Prop where
  address : Wallet.checkAddress body.address = .ok ()
  coins : ∃ droplets, Wallet.parseDroplets body.coins = .ok droplets
  hours : ∃ hours, hours < UInt64.size ∧ Wallet.DenotesHours body.hours hours

/-- A transaction with inputs and outputs, all of them valid. -/
structure TransactionBody.IsSignable (body : TransactionBody) : Prop where
  someInput : body.inputs ≠ []
  someOutput : body.outputs ≠ []
  hashes : ∀ input ∈ body.inputs, input.hash ≠ ""
  payable : ∀ output ∈ body.outputs, output.IsPayable

/-- The input as the device is told of it. -/
def InputBody.sent (body : InputBody) : Payload.SkycoinTransactionInput :=
  { hash := body.hash, index := body.index }

/-- The device is told of an output: where it goes, its coins in millionths, and its hours. -/
structure OutputBody.IsSentAs (body : OutputBody) (output : Payload.SkycoinTransactionOutput) :
    Prop where
  address : output.address = body.address
  addressIndex : output.addressIndex = body.addressIndex
  coins : ∃ coins, Wallet.DenotesCoins body.coins coins ∧
    (output.coins.toNat : ℚ) = coins * 10 ^ Wallet.decimalPlaces
  hours : Wallet.DenotesHours body.hours output.hours.toNat

/-- The device is told of a transaction: all inputs and all outputs, in their order, and how many
there are. -/
structure TransactionBody.IsSentAs (body : TransactionBody) (payload : Payload.TransactionSign) :
    Prop where
  inputCount : payload.inputCount.toNat = body.inputs.length
  outputCount : payload.outputCount.toNat = body.outputs.length
  inputs : payload.inputs = body.inputs.map InputBody.sent
  outputs : List.Forall₂ OutputBody.IsSentAs body.outputs payload.outputs

/-! ## The check -/

theorem InputBody.check_complains (body : InputBody) : Complains body.check := by
  unfold check
  refine (Complains.need _ _).bind fun _ => ?_
  exact .pure _

theorem OutputBody.check_complains (body : OutputBody) : Complains body.check := by
  unfold check
  refine (Complains.need _ _).bind fun _ => ?_
  refine (Complains.need _ _).bind fun _ => ?_
  refine (Complains.need _ _).bind fun _ => ?_
  refine (Complains.needAddress _).bind fun _ => ?_
  refine (Complains.mapError (fun _ => Or.inr rfl) _).bind fun _ => ?_
  refine (Complains.mapError (fun _ => Or.inr rfl) _).bind fun _ => ?_
  exact .pure _

theorem TransactionBody.check_complains (body : TransactionBody) : Complains body.check := by
  unfold check
  refine (Complains.need _ _).bind fun _ => ?_
  refine (Complains.need _ _).bind fun _ => ?_
  refine (Complains.mapM InputBody.check_complains _).bind fun _ => ?_
  refine (Complains.mapM OutputBody.check_complains _).bind fun _ => ?_
  exact .pure _

theorem InputBody.mapM_check_eq_ok_iff {bodies : List InputBody}
    {inputs : List Payload.SkycoinTransactionInput} :
    bodies.mapM InputBody.check = .ok inputs ↔
      (∀ body ∈ bodies, body.hash ≠ "") ∧ inputs = bodies.map InputBody.sent := by
  rw [mapM_eq_ok_iff]
  induction bodies generalizing inputs with
  | nil => simp
  | cons body bodies ih =>
    rw [List.forall₂_cons_left_iff, List.forall_mem_cons, List.map_cons]
    constructor
    · rintro ⟨first, later, hfirst, hlater, rfl⟩
      obtain ⟨hhash, rfl⟩ := InputBody.check_eq_ok_iff.1 hfirst
      obtain ⟨hhashes, rfl⟩ := ih.1 hlater
      exact ⟨⟨hhash, hhashes⟩, rfl⟩
    · rintro ⟨⟨hhash, hhashes⟩, rfl⟩
      exact ⟨_, _, InputBody.check_eq_ok_iff.2 ⟨hhash, rfl⟩, ih.2 ⟨hhashes, rfl⟩, rfl⟩

namespace OutputBody

variable {body : OutputBody} {output : Payload.SkycoinTransactionOutput}

/-- An output is let through with a valid address, and is sent as it was written. -/
theorem check_eq_ok_iff :
    body.check = .ok output ↔
      Wallet.checkAddress body.address = .ok () ∧ body.IsSentAs output := by
  simp only [check, bind_eq_ok_iff, need_eq_ok_iff, needAddress_eq_ok_iff, mapError_eq_ok_iff,
    Wallet.parseDroplets_eq_ok_iff, Wallet.parseHours_eq_ok_iff, Bool.not_eq_true',
    String.isEmpty_eq_false_iff]
  constructor
  · rintro ⟨-, -, -, -, -, -, -, haddress, coins, hcoins, hours, hhours, houtput⟩
    obtain rfl := Except.ok.inj houtput
    exact ⟨haddress, rfl, rfl, hcoins, hhours⟩
  · rintro ⟨haddress, hsent⟩
    obtain ⟨coins, hcoins, -⟩ := hsent.coins
    refine ⟨(), address_ne_empty haddress, (), hcoins.ne_empty, (), hsent.hours.ne_empty, (),
      haddress, _, hsent.coins, _, hsent.hours, ?_⟩
    rw [← hsent.address, ← hsent.addressIndex]
    rfl

theorem isPayable_iff : body.IsPayable ↔ ∃ output, body.check = .ok output := by
  constructor
  · rintro ⟨haddress, ⟨droplets, hdroplets⟩, hours, hfits, hhours⟩
    refine ⟨⟨body.address, body.addressIndex, droplets, UInt64.ofNat hours⟩, ?_⟩
    refine check_eq_ok_iff.2 ⟨haddress, rfl, rfl, Wallet.parseDroplets_eq_ok_iff.1 hdroplets, ?_⟩
    rwa [UInt64.toNat_ofNat_of_lt' hfits]
  · rintro ⟨output, houtput⟩
    obtain ⟨haddress, hsent⟩ := check_eq_ok_iff.1 houtput
    exact ⟨haddress, ⟨_, Wallet.parseDroplets_eq_ok_iff.2 hsent.coins⟩, _, output.hours.toNat_lt,
      hsent.hours⟩

end OutputBody

namespace TransactionBody

variable {body : TransactionBody} {asked : DeviceRequest}

theorem check_eq_ok_iff :
    body.check = .ok asked ↔
      body.inputs ≠ [] ∧ body.outputs ≠ [] ∧ (∀ input ∈ body.inputs, input.hash ≠ "") ∧
        ∃ outputs, body.outputs.mapM OutputBody.check = .ok outputs ∧
          asked = .signTransaction (body.inputs.map InputBody.sent) outputs := by
  simp only [check, bind_eq_ok_iff, need_eq_ok_iff, InputBody.mapM_check_eq_ok_iff,
    Bool.not_eq_true', List.isEmpty_eq_false_iff]
  constructor
  · rintro ⟨-, hinputs, -, houtputs, -, ⟨hhashes, rfl⟩, outputs, hall, hasked⟩
    exact ⟨hinputs, houtputs, hhashes, outputs, hall, (Except.ok.inj hasked).symm⟩
  · rintro ⟨hinputs, houtputs, hhashes, outputs, hall, rfl⟩
    exact ⟨(), hinputs, (), houtputs, _, ⟨hhashes, rfl⟩, outputs, hall, rfl⟩

theorem isSignable_iff : body.IsSignable ↔ ∃ asked, body.check = .ok asked := by
  constructor
  · rintro ⟨hinputs, houtputs, hhashes, hpayable⟩
    obtain ⟨outputs, hall⟩ := exists_mapM_eq_ok_iff.2 fun output hmem =>
      OutputBody.isPayable_iff.1 (hpayable output hmem)
    exact ⟨_, check_eq_ok_iff.2 ⟨hinputs, houtputs, hhashes, outputs, hall, rfl⟩⟩
  · rintro ⟨asked, hasked⟩
    obtain ⟨hinputs, houtputs, hhashes, outputs, hall, -⟩ := check_eq_ok_iff.1 hasked
    exact ⟨hinputs, houtputs, hhashes, fun output hmem =>
      OutputBody.isPayable_iff.2 (exists_mapM_eq_ok_iff.1 ⟨outputs, hall⟩ output hmem)⟩

end TransactionBody

/-! ## How large a transaction can be -/

/-- The texts of a transaction that the device is told, and one for each input and output. -/
def TransactionBody.extent (body : TransactionBody) : Nat :=
  (body.inputs.map fun input => (Text.utf8 input.hash).length + 1).sum
    + (body.outputs.map fun output => (Text.utf8 output.address).length + 1).sum

theorem InputBody.reader_covers :
    InputBody.reader.Covers fun body => (Text.utf8 body.hash).length + 1 := by
  refine Json.Reader.record_covers _ rfl ?_
  intro member hmember
  simp only [List.mem_cons, List.not_mem_nil, or_false] at hmember
  rcases hmember with rfl | rfl
  · exact Json.Member.of_covers Json.Reader.text_covers _ fun _ _ => Nat.le_add_left _ _
  · exact Json.Member.of_covers (Json.Reader.covers_one _) _ fun _ _ => Nat.le_add_right _ _

theorem OutputBody.reader_covers :
    OutputBody.reader.Covers fun body => (Text.utf8 body.address).length + 1 := by
  refine Json.Reader.record_covers _ rfl ?_
  intro member hmember
  simp only [List.mem_cons, List.not_mem_nil, or_false] at hmember
  rcases hmember with rfl | rfl | rfl | rfl
  · exact Json.Member.of_covers Json.Reader.text_covers _ fun _ _ => Nat.le_add_left _ _
  all_goals
    exact Json.Member.of_covers (Json.Reader.covers_one _) _ fun _ _ => Nat.le_add_right _ _

theorem TransactionBody.reader_covers :
    TransactionBody.reader.Covers fun body => body.extent + 1 := by
  refine Json.Reader.record_covers _ rfl ?_
  intro member hmember
  simp only [List.mem_cons, List.not_mem_nil, or_false] at hmember
  rcases hmember with rfl | rfl
  · refine Json.Member.of_covers (Json.Reader.list_covers InputBody.reader_covers) _ ?_
    intro inputs body
    simp only [extent]
    omega
  · refine Json.Member.of_covers (Json.Reader.list_covers OutputBody.reader_covers) _ ?_
    intro outputs body
    simp only [extent]
    omega

/-- A list has at most as many items as they have size together, if none is empty, and each item is
at most as large. -/
theorem le_sum_map {α : Type} (size : α → Nat) (items : List α) :
    items.length ≤ (items.map fun item => size item + 1).sum ∧
      ∀ item ∈ items, size item ≤ (items.map fun item => size item + 1).sum := by
  induction items with
  | nil => simp
  | cons item items ih =>
    simp only [List.length_cons, List.map_cons, List.sum_cons, List.forall_mem_cons]
    refine ⟨by omega, by omega, fun other hother => ?_⟩
    have := ih.2 other hother
    omega

/-- The parts of a transaction whose body was read are not larger than a body may be. -/
structure TransactionBody.IsBounded (body : TransactionBody) : Prop where
  inputs : body.inputs.length ≤ Endpoint.maxBody
  outputs : body.outputs.length ≤ Endpoint.maxBody
  hashes : ∀ input ∈ body.inputs, (Text.utf8 input.hash).length ≤ Endpoint.maxBody
  addresses : ∀ output ∈ body.outputs, (Text.utf8 output.address).length ≤ Endpoint.maxBody

theorem Says.transaction_isBounded {request : Request} {body : TransactionBody}
    (h : Says TransactionBody.reader request body) : body.IsBounded := by
  have hextent := Json.decode_covers TransactionBody.reader_covers h.decoded
  have hshort := h.short
  obtain ⟨hinputs, hhashes⟩ :=
    le_sum_map (fun input : InputBody => (Text.utf8 input.hash).length) body.inputs
  obtain ⟨houtputs, haddresses⟩ :=
    le_sum_map (fun output : OutputBody => (Text.utf8 output.address).length) body.outputs
  simp only [TransactionBody.extent] at hextent
  refine ⟨by omega, by omega, fun input hmem => ?_, fun output hmem => ?_⟩
  · have := hhashes input hmem
    omega
  · have := haddresses output hmem
    omega

/-! ## The message -/

theorem OutputBody.map_address_of_isSentAs {bodies : List OutputBody}
    {outputs : List Payload.SkycoinTransactionOutput}
    (h : List.Forall₂ OutputBody.IsSentAs bodies outputs) :
    outputs.map (·.address) = bodies.map (·.address) := by
  rw [eq_comm, ← List.forall₂_eq_eq_eq, List.forall₂_map_left_iff, List.forall₂_map_right_iff]
  exact h.imp fun _ _ hsent => hsent.address.symm

/-- What is sent for an accepted transaction is what was written. -/
theorem TransactionBody.IsBounded.isSentAs {body : TransactionBody} (h : body.IsBounded)
    {asked : DeviceRequest} (hcheck : body.check = .ok asked) :
    asked.message.kind? = some .transactionSign ∧
      ∃ payload, asked.message.decode Payload.TransactionSign = .ok payload ∧
        body.IsSentAs payload := by
  obtain ⟨-, -, -, outputs, hall, rfl⟩ := TransactionBody.check_eq_ok_iff.1 hcheck
  have hsent : List.Forall₂ OutputBody.IsSentAs body.outputs outputs :=
    (mapM_eq_ok_iff.1 hall).imp fun _ _ houtput => (OutputBody.check_eq_ok_iff.1 houtput).2
  have hlength : outputs.length = body.outputs.length := hsent.length_eq.symm
  let payload : Payload.TransactionSign :=
    { inputCount := UInt32.ofNat (body.inputs.map InputBody.sent).length
      inputs := body.inputs.map InputBody.sent
      outputCount := UInt32.ofNat outputs.length
      outputs }
  have hinputs : (body.inputs.map InputBody.sent).length ≤ Endpoint.maxBody := by
    rw [List.length_map]
    exact h.inputs
  have houtputs : outputs.length ≤ Endpoint.maxBody := hlength ▸ h.outputs
  have hhashes : ∀ input ∈ payload.inputs,
      (Text.utf8 input.hash).length ≤ Endpoint.maxBody := by
    intro input hmem
    obtain ⟨written, hwritten, rfl⟩ := List.mem_map.1 hmem
    exact h.hashes written hwritten
  have haddresses : ∀ output ∈ payload.outputs,
      (Text.utf8 output.address).length ≤ Endpoint.maxBody := by
    intro output hmem
    have haddress : output.address ∈ body.outputs.map (·.address) :=
      OutputBody.map_address_of_isSentAs hsent ▸ List.mem_map_of_mem hmem
    obtain ⟨written, hwritten, hsame⟩ := List.mem_map.1 haddress
    exact hsame ▸ h.addresses written hwritten
  have hencode : (Protobuf.Record.encode payload).length < UInt64.size := by
    have hlong := Payload.TransactionSign.length_encode_le (by decide) hhashes haddresses
    have hmany : (payload.inputs.length + payload.outputs.length) * (Endpoint.maxBody + 100)
        ≤ (Endpoint.maxBody + Endpoint.maxBody) * (Endpoint.maxBody + 100) :=
      Nat.mul_le_mul_right _ (Nat.add_le_add hinputs houtputs)
    exact Nat.lt_of_le_of_lt (Nat.le_trans hlong (Nat.add_le_add_right hmany 40)) (by decide)
  refine ⟨Message.Kind.ofCode?_code .transactionSign, payload,
    Payload.TransactionSign.isFaithful.decode_encode (by decide) hencode, ?_, ?_, rfl, hsent⟩
  · rw [← List.length_map InputBody.sent]
    exact UInt32.toNat_ofNat_of_lt' (Nat.lt_of_le_of_lt hinputs (by decide))
  · rw [← hlength]
    exact UInt32.toNat_ofNat_of_lt' (Nat.lt_of_le_of_lt houtputs (by decide))

/-! ## The whole way -/

/-- At an idle device, a transaction that can be read is accepted exactly if it is valid.  Then the
next message that the device receives asks it to sign this very transaction; otherwise the client is
told that the request is malformed or asks for what is not allowed, and no device receives
anything. -/
theorem transaction_is_signed_as_asked {service : Service} {device : DeviceId} {now : Instant}
    {nonce : List UInt8} {request : Request} {body : TransactionBody}
    (hidle : (service.access device).IsIdle)
    (hgate : Gate.check service.config service.secret now request = .ok ())
    (hpath : request.target.path = device.root ++ Endpoint.transactionSign.path)
    (hmethod : request.method = .post) (hbody : Says TransactionBody.reader request body) :
    let circumstances : Circumstances := ⟨service.config, service.secret, now, nonce⟩
    let next := (service.step (.request now nonce request)).1
    ((∃ asked, handle circumstances request = .operate device .transactionSign asked) ↔
        body.IsSignable) ∧
      (body.IsSignable → ∃ message payload later,
        (next.access device).device.sent
            = later ++ message :: (service.access device).device.sent ∧
          message.kind? = some .transactionSign ∧
          message.decode Payload.TransactionSign = .ok payload ∧ body.IsSentAs payload) ∧
      (¬ body.IsSignable → (∀ other, next.access other = service.access other) ∧
        ∃ dressing response,
          next.exchanges[service.exchanges.length]? = some ⟨dressing, .answered response⟩ ∧
            (response.status = .badRequest ∨ response.status = .unprocessable)) := by
  intro circumstances next
  have hrequest : Endpoint.transactionSign.request request = body.check :=
    hbody.bodyRequest_eq TransactionBody.check
  have hhandle : handle circumstances request = .ofAsked device .transactionSign body.check := by
    rw [← hrequest]
    exact handle_of_gate hgate hpath hmethod
  refine ⟨?_, fun hsignable => ?_, fun hrefused => ?_⟩
  · rw [TransactionBody.isSignable_iff, hhandle]
    cases body.check with
    | error error => simp [Handling.ofAsked]
    | ok asked => exact iff_of_true ⟨asked, rfl⟩ ⟨asked, rfl⟩
  · obtain ⟨asked, hasked⟩ := TransactionBody.isSignable_iff.1 hsignable
    rw [hasked] at hhandle
    obtain ⟨hkind, payload, hdecode, hsent⟩ := hbody.transaction_isBounded.isSentAs hasked
    obtain ⟨later, hlater⟩ := hidle.start_sent true asked.message
    refine ⟨asked.message, payload, later, ?_, hkind, hdecode, hsent⟩
    rw [← hlater]
    exact congrArg (·.device.sent) (Service.step_of_operate hhandle)
  · cases hcheck : body.check with
    | ok asked => exact absurd (TransactionBody.isSignable_iff.2 ⟨asked, hcheck⟩) hrefused
    | error error =>
      rw [hcheck] at hhandle
      obtain ⟨haccess, hexchange⟩ := Service.step_of_respond hhandle
      exact ⟨haccess, _, _, hexchange, body.check_complains error hcheck⟩

deriving instance DecidableEq for InputBody, OutputBody, TransactionBody

/-- A payment of two and a half coins. -/
def payment : TransactionBody where
  inputs := [{ hash := "a1b2", index := some 0 }]
  outputs :=
    [{ address := "2EU3JbveHdkxW6z5tdhbbB2kRAWvXC2pLzw", coins := "2.5", hours := "17" }]

/-- The request to sign it. -/
def paymentRequest : Request where
  method := .post
  target := { path := "/api/v1/transactionSign" }
  headers := [("content-type", "application/json")]
  body := Text.utf8 <|
    "\x7b\"transaction_inputs\":[\x7b\"hash\":\"a1b2\",\"index\":0\x7d],"
      ++ "\"transaction_outputs\":[\x7b\"address\":\"2EU3JbveHdkxW6z5tdhbbB2kRAWvXC2pLzw\","
      ++ "\"coins\":\"2.5\",\"hours\":\"17\"\x7d]\x7d"

theorem payment_isSignable : payment.IsSignable where
  someInput := by simp [payment]
  someOutput := by simp [payment]
  hashes := by simp [payment]
  payable := by
    intro output hmem
    obtain rfl := List.mem_singleton.1 hmem
    exact ⟨by decide +kernel, ⟨2500000, by decide⟩, 17, by decide,
      Wallet.parseHours_eq_ok_iff.1 (show Wallet.parseHours "17" = .ok 17 by decide)⟩

theorem payment_is_signed :
    let service : Service := { config := { checksHeaders := false } }
    let next := (service.step (.request ⟨0⟩ [] paymentRequest)).1
    (service.access .usb).IsIdle ∧
      Gate.check service.config service.secret ⟨0⟩ paymentRequest = .ok () ∧
      paymentRequest.target.path = DeviceId.usb.root ++ Endpoint.transactionSign.path ∧
      paymentRequest.method = .post ∧ Says TransactionBody.reader paymentRequest payment ∧
      ∃ message payload later,
        (next.access .usb).device.sent
            = later ++ message :: (service.access .usb).device.sent ∧
          message.kind? = some .transactionSign ∧
          message.decode Payload.TransactionSign = .ok payload ∧ payment.IsSentAs payload := by
  intro service next
  have hidle : (service.access .usb).IsIdle := ⟨by simp [service, Service.access], rfl, rfl⟩
  have hgate : Gate.check service.config service.secret ⟨0⟩ paymentRequest = .ok () := by decide
  have hsays : Says TransactionBody.reader paymentRequest payment :=
    ⟨by decide +kernel, by decide +kernel, by decide +kernel⟩
  exact ⟨hidle, hgate, rfl, rfl, hsays,
    (transaction_is_signed_as_asked hidle hgate rfl rfl hsays).2.1 payment_isSignable⟩

end WalletGateway.Api
