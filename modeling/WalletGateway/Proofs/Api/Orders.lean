import WalletGateway.Proofs.Api.Bodies
import WalletGateway.Proofs.Json.Extent

/-!
# Orders

An order is what a client asks of a device, with the values that the client has written down: one
kind for each endpoint that takes values, but for the signing of transactions.

* `Order.IsWrittenIn` says in which requests an order is written, and `Order.IsValid` by which rules
  it is accepted.
* `Order.request_eq` leads from the request to the check of the order, `Order.isValid_iff` says that
  the check is the rules, and `Order.check_complains` what is said of a refused one.
* `Order.IsWrittenIn.isBounded`: no text of an order is longer than a body may be.
-/

namespace WalletGateway

/-! ## Words of a text -/

namespace Text

/-- The words of a text: what is left between its blanks. -/
def words (text : String) : List (List Char) :=
  (text.toList.splitOnP isBlank).filter fun word => !word.isEmpty

/-- Words are counted where they begin: one that is under way has been counted already. -/
theorem countWords_eq (count : Nat) (inWord : Bool) (text : List Char) :
    countWords count inWord text
      = count + ((if inWord then (text.splitOnP isBlank).tail else text.splitOnP isBlank).filter
          fun word => !word.isEmpty).length := by
  induction text generalizing count inWord with
  | nil => cases inWord <;> simp [countWords]
  | cons c rest ih =>
    obtain ⟨first, others, hsplit⟩ := List.exists_cons_of_ne_nil (List.splitOnP_ne_nil isBlank rest)
    unfold countWords
    by_cases hblank : isBlank c = true
    · cases inWord <;> simp [ih, List.splitOnP_cons_eq_if_modifyHead, hblank]
    · cases inWord <;> simp [ih, List.splitOnP_cons_eq_if_modifyHead, hblank, hsplit]
      omega

theorem wordCount_eq (text : String) : wordCount text = (words text).length := by
  simp [wordCount, words, countWords_eq]

end Text

namespace Api

open Http (Request)

/-! ## What is ordered -/

/-- What a client asks of a device, as it is written in the request. -/
inductive Order where
  | addresses (body : AddressesBody)
  | settings (body : SettingsBody)
  | signature (body : SignatureBody)
  | newSeed (body : NewSeedBody)
  | recovery (body : RecoveryBody)
  | seed (body : SeedBody)
  | pinCode (remove : Bool)
  | message (body : MessageBody)
  | pin (body : PinBody)
  | passphrase (body : PassphraseBody)
  | word (body : WordBody)

namespace Order

/-- Where an order is placed. -/
def endpoint : Order → Endpoint
  | addresses _ => .generateAddresses
  | settings _ => .applySettings
  | signature _ => .checkMessageSignature
  | newSeed _ => .generateMnemonic
  | recovery _ => .recovery
  | seed _ => .setMnemonic
  | pinCode _ => .setPinCode
  | message _ => .signMessage
  | pin _ => .pinMatrix
  | passphrase _ => .passphrase
  | word _ => .word

/-- The request says the order: in its body, or for the PIN code in its query, where a removal is
asked for once. -/
def IsWrittenIn (order : Order) (request : Request) : Prop :=
  match order with
  | addresses body => Says AddressesBody.reader request body
  | settings body => Says SettingsBody.reader request body
  | signature body => Says SignatureBody.reader request body
  | newSeed body => Says NewSeedBody.reader request body
  | recovery body => Says RecoveryBody.reader request body
  | seed body => Says SeedBody.reader request body
  | pinCode remove =>
    remove = true ↔ (request.target.form.filter fun field => field.1 = Text.utf8 "remove_pin")
      = [(Text.utf8 "remove_pin", Text.utf8 "true")]
  | message body => Says MessageBody.reader request body
  | pin body => Says PinBody.reader request body
  | passphrase body => Says PassphraseBody.reader request body
  | word body => Says WordBody.reader request body

/-- The rules for an order. -/
def IsValid : Order → Prop
  | addresses body =>
    1 ≤ body.count ∧ body.count < UInt32.size ∧ 0 ≤ body.start ∧ body.start < UInt32.size
  | settings body =>
    body.settings.label ≠ none ∨ body.settings.language ≠ none ∨ body.settings.usePassphrase ≠ none
  | signature body =>
    body.message ≠ "" ∧ body.signature ≠ "" ∧ body.address ≠ "" ∧
      Wallet.checkAddress body.address = .ok ()
  | newSeed body => body.wordCount.toNat = 12 ∨ body.wordCount.toNat = 24
  | recovery body => body.wordCount.toNat = 12 ∨ body.wordCount.toNat = 24
  | seed body => (Text.words body.mnemonic).length = 12 ∨ (Text.words body.mnemonic).length = 24
  | pinCode _ => True
  | message body => body.message ≠ "" ∧ 0 ≤ body.index ∧ body.index < UInt32.size
  | pin body => body.pin ≠ ""
  | passphrase _ => True
  | word body => body.word ≠ ""

/-- What the device is asked for, with the values of the order in their places. -/
def Asks (order : Order) (asked : DeviceRequest) : Prop :=
  match order with
  | addresses body => ∃ count start : UInt32, (count.toNat : Int) = body.count ∧
      (start.toNat : Int) = body.start ∧ asked = .deriveAddresses count start body.confirm
  | settings body => asked = .applySettings body.settings
  | signature body => asked = .checkSignature body.message body.signature body.address
  | newSeed body => asked = .generateMnemonic body.wordCount body.usePassphrase
  | recovery body => asked = .recover body.wordCount body.usePassphrase body.dryRun
  | seed body => asked = .setMnemonic body.mnemonic
  | pinCode remove => asked = .changePin remove
  | message body => ∃ index : UInt32, (index.toNat : Int) = body.index ∧
      asked = .signMessage index body.message
  | pin body => asked = .enterPin body.pin
  | passphrase body => asked = .enterPassphrase body.passphrase
  | word body => asked = .enterWord body.word

/-- The check of an order. -/
def check : Order → Except ApiError DeviceRequest
  | addresses body => body.check
  | settings body => body.check
  | signature body => body.check
  | newSeed body => body.check
  | recovery body => body.check
  | seed body => body.check
  | pinCode remove => .ok (.changePin remove)
  | message body => body.check
  | pin body => body.check
  | passphrase body => body.check
  | word body => body.check

end Order

/-! ## From the request to the check -/

theorem Endpoint.removesPin_iff {request : Request} :
    Endpoint.removesPin request = true ↔
      (request.target.form.filter fun field => field.1 = Text.utf8 "remove_pin")
        = [(Text.utf8 "remove_pin", Text.utf8 "true")] := by
  unfold Endpoint.removesPin
  split
  · rename_i name value hfields
    have hname : name = Text.utf8 "remove_pin" := by
      have hmem : (name, value) ∈
          request.target.form.filter fun field => field.1 = Text.utf8 "remove_pin" := by
        simp [hfields]
      simpa using (List.mem_filter.1 hmem).2
    simp [hfields, hname]
  · rename_i hmany
    refine iff_of_false (by simp) ?_
    intro hone
    exact hmany _ _ hone

theorem Order.request_eq {order : Order} {request : Request} (h : order.IsWrittenIn request) :
    order.endpoint.request request = order.check := by
  cases order with
  | pinCode remove =>
    have hremoves : Endpoint.removesPin request = remove := by
      rw [Bool.eq_iff_iff, Endpoint.removesPin_iff]
      exact h.symm
    show Except.ok (DeviceRequest.changePin (Endpoint.removesPin request)) = _
    rw [hremoves]
    rfl
  | addresses body | settings body | signature body | newSeed body | recovery body | seed body
  | message body | pin body | passphrase body | word body => exact h.bodyRequest_eq _

/-! ## The checks are the rules -/

theorem fit_eq_ok_iff {γ : Type} {value : Option γ} {message : String} {result : γ} :
    fit value message = .ok result ↔ value = some result := by
  cases value <;> simp [fit]

/-- A number of 32 bits is taken as it is. -/
theorem word32?_eq_some_iff {value : Int} {word : UInt32} :
    word32? value = some word ↔ (word.toNat : Int) = value := by
  unfold word32?
  split
  · rename_i hfits
    obtain ⟨hpositive, hsmall⟩ := hfits
    rw [Option.some_inj, ← UInt32.toNat_inj, UInt32.toNat_ofNat_of_lt' hsmall]
    omega
  · rename_i hlarge
    refine iff_of_false (by simp) ?_
    have hword := word.toNat_lt
    simp only [UInt32.size] at hlarge
    omega

theorem exists_word32_iff {value : Int} :
    (∃ word : UInt32, (word.toNat : Int) = value) ↔ 0 ≤ value ∧ value < UInt32.size := by
  constructor
  · rintro ⟨word, rfl⟩
    exact ⟨Int.natCast_nonneg _, Int.ofNat_lt.2 word.toNat_lt⟩
  · intro hfits
    refine ⟨UInt32.ofNat value.toNat, ?_⟩
    rw [UInt32.toNat_ofNat_of_lt' (by omega)]
    omega

theorem needWordCount_eq_ok_iff {wordCount : UInt32} {done : Unit} :
    needWordCount wordCount = .ok done ↔ wordCount.toNat = 12 ∨ wordCount.toNat = 24 := by
  simp [needWordCount, fit_eq_ok_iff, wordCounts, or_iff_not_imp_left]

/-- A check that gives nothing lets the same request through, or none. -/
theorem check_then_eq_ok_iff {result : Except ApiError Unit} {asked wanted : DeviceRequest} :
    (do result; return wanted : Except ApiError DeviceRequest) = .ok asked ↔
      result = .ok () ∧ asked = wanted := by
  cases result with
  | error error => simp [bind, Except.bind]
  | ok => simp [bind, Except.bind, pure, Except.pure, eq_comm]

theorem AddressesBody.check_eq_ok_iff {body : AddressesBody} {asked : DeviceRequest} :
    body.check = .ok asked ↔ body.count ≠ 0 ∧ ∃ count start : UInt32,
      (count.toNat : Int) = body.count ∧ (start.toNat : Int) = body.start ∧
      asked = .deriveAddresses count start body.confirm := by
  simp only [check, bind_eq_ok_iff, fit_eq_ok_iff, word32?_eq_some_iff]
  constructor
  · rintro ⟨_, hsome, count, hcount, start, hstart, hasked⟩
    refine ⟨?_, count, start, hcount, hstart, (Except.ok.inj hasked).symm⟩
    intro hzero
    simp [hzero] at hsome
  · rintro ⟨hsome, count, start, hcount, hstart, rfl⟩
    exact ⟨(), by simp [hsome], count, hcount, start, hstart, rfl⟩

theorem SettingsBody.check_eq_ok_iff {body : SettingsBody} {asked : DeviceRequest} :
    body.check = .ok asked ↔
      (body.settings.label ≠ none ∨ body.settings.language ≠ none ∨
        body.settings.usePassphrase ≠ none) ∧ asked = .applySettings body.settings := by
  have hnone : body.settings ≠ {} ↔ body.settings.label ≠ none ∨ body.settings.language ≠ none ∨
      body.settings.usePassphrase ≠ none := by
    obtain ⟨label, language, usePassphrase⟩ := body.settings
    simp only [ne_eq, Settings.mk.injEq]
    tauto
  rw [check, check_then_eq_ok_iff, need_eq_ok_iff, bne_iff_ne, hnone]

theorem SignatureBody.check_eq_ok_iff {body : SignatureBody} {asked : DeviceRequest} :
    body.check = .ok asked ↔
      (body.message ≠ "" ∧ body.signature ≠ "" ∧ body.address ≠ "" ∧
        Wallet.checkAddress body.address = .ok ()) ∧
      asked = .checkSignature body.message body.signature body.address := by
  simp only [check, bind_eq_ok_iff, need_eq_ok_iff, needAddress_eq_ok_iff, Bool.not_eq_true',
    String.isEmpty_eq_false_iff]
  constructor
  · rintro ⟨_, haddress, _, hmessage, _, hsignature, _, hvalid, hasked⟩
    exact ⟨⟨hmessage, hsignature, haddress, hvalid⟩, (Except.ok.inj hasked).symm⟩
  · rintro ⟨⟨hmessage, hsignature, haddress, hvalid⟩, rfl⟩
    exact ⟨(), haddress, (), hmessage, (), hsignature, (), hvalid, rfl⟩

theorem SeedBody.check_eq_ok_iff {body : SeedBody} {asked : DeviceRequest} :
    body.check = .ok asked ↔
      ((Text.words body.mnemonic).length = 12 ∨ (Text.words body.mnemonic).length = 24) ∧
      asked = .setMnemonic body.mnemonic := by
  simp only [check, bind_eq_ok_iff, need_eq_ok_iff, fit_eq_ok_iff, Text.wordCount_eq]
  constructor
  · rintro ⟨_, -, _, hwords, hasked⟩
    refine ⟨?_, (Except.ok.inj hasked).symm⟩
    simpa [wordCounts, or_iff_not_imp_left] using hwords
  · rintro ⟨hwords, rfl⟩
    refine ⟨(), ?_, (), ?_, rfl⟩
    · rcases hwords with hwords | hwords <;> simp [hwords]
    · rcases hwords with hwords | hwords <;> simp [hwords, wordCounts]

theorem MessageBody.check_eq_ok_iff {body : MessageBody} {asked : DeviceRequest} :
    body.check = .ok asked ↔ body.message ≠ "" ∧
      ∃ index : UInt32, (index.toNat : Int) = body.index ∧
        asked = .signMessage index body.message := by
  simp only [check, bind_eq_ok_iff, need_eq_ok_iff, fit_eq_ok_iff, word32?_eq_some_iff,
    Bool.not_eq_true', String.isEmpty_eq_false_iff]
  constructor
  · rintro ⟨-, hmessage, index, hindex, hasked⟩
    exact ⟨hmessage, index, hindex, (Except.ok.inj hasked).symm⟩
  · rintro ⟨hmessage, index, hindex, rfl⟩
    exact ⟨(), hmessage, index, hindex, rfl⟩

theorem need_text_eq_ok_iff {text message : String} {done : Unit} :
    need (!text.isEmpty) message = .ok done ↔ text ≠ "" := by
  rw [need_eq_ok_iff, Bool.not_eq_true', String.isEmpty_eq_false_iff]

/-- An order passes its check if the rules hold, and then the device is asked for it. -/
theorem Order.check_eq_ok_iff {order : Order} {asked : DeviceRequest} :
    order.check = .ok asked ↔ order.IsValid ∧ order.Asks asked := by
  cases order with
  | addresses body =>
    rw [check, AddressesBody.check_eq_ok_iff]
    constructor
    · rintro ⟨hsome, count, start, hcount, hstart, hasked⟩
      have hcounts := exists_word32_iff.1 ⟨count, hcount⟩
      have hstarts := exists_word32_iff.1 ⟨start, hstart⟩
      refine ⟨⟨?_, hcounts.2, hstarts⟩, count, start, hcount, hstart, hasked⟩
      omega
    · rintro ⟨⟨hsome, -⟩, hasked⟩
      exact ⟨by omega, hasked⟩
  | message body =>
    rw [check, MessageBody.check_eq_ok_iff]
    constructor
    · rintro ⟨hmessage, index, hindex, hasked⟩
      exact ⟨⟨hmessage, exists_word32_iff.1 ⟨index, hindex⟩⟩, index, hindex, hasked⟩
    · rintro ⟨⟨hmessage, -⟩, hasked⟩
      exact ⟨hmessage, hasked⟩
  | settings body => exact SettingsBody.check_eq_ok_iff
  | signature body => exact SignatureBody.check_eq_ok_iff
  | seed body => exact SeedBody.check_eq_ok_iff
  | newSeed body =>
    rw [check, NewSeedBody.check, check_then_eq_ok_iff, needWordCount_eq_ok_iff]
    rfl
  | recovery body =>
    rw [check, RecoveryBody.check, check_then_eq_ok_iff, needWordCount_eq_ok_iff]
    rfl
  | pin body =>
    rw [check, PinBody.check, check_then_eq_ok_iff, need_text_eq_ok_iff]
    rfl
  | word body =>
    rw [check, WordBody.check, check_then_eq_ok_iff, need_text_eq_ok_iff]
    rfl
  | pinCode remove => simp [check, IsValid, Asks, eq_comm]
  | passphrase body => simp [check, PassphraseBody.check, IsValid, Asks, eq_comm]

/-- Something is asked for every valid order. -/
theorem Order.IsValid.exists_asks {order : Order} (h : order.IsValid) :
    ∃ asked, order.Asks asked := by
  cases order with
  | addresses body =>
    obtain ⟨hsome, hcount, hstart⟩ := h
    obtain ⟨count, hcounts⟩ := exists_word32_iff.2 ⟨by omega, hcount⟩
    obtain ⟨start, hstarts⟩ := exists_word32_iff.2 hstart
    exact ⟨_, count, start, hcounts, hstarts, rfl⟩
  | message body =>
    obtain ⟨index, hindex⟩ := exists_word32_iff.2 h.2
    exact ⟨_, index, hindex, rfl⟩
  | settings | signature | newSeed | recovery | seed | pinCode | pin | passphrase | word =>
    exact ⟨_, rfl⟩

theorem Order.isValid_iff {order : Order} :
    order.IsValid ↔ ∃ asked, order.check = .ok asked := by
  constructor
  · intro hvalid
    obtain ⟨asked, hasks⟩ := hvalid.exists_asks
    exact ⟨asked, Order.check_eq_ok_iff.2 ⟨hvalid, hasks⟩⟩
  · rintro ⟨asked, hasked⟩
    exact (Order.check_eq_ok_iff.1 hasked).1

/-! ## Refused orders -/

theorem Complains.fit {γ : Type} (value : Option γ) (message : String) :
    Complains (Api.fit value message) := by
  intro error herror
  cases value with
  | some value => contradiction
  | none =>
    obtain rfl := Except.error.inj herror
    exact Or.inr rfl

theorem Complains.needWordCount (wordCount : UInt32) : Complains (Api.needWordCount wordCount) :=
  .fit _ _

theorem Order.check_complains (order : Order) : Complains order.check := by
  cases order with
  | addresses body =>
    exact (Complains.fit _ _).bind fun _ => (Complains.fit _ _).bind fun _ =>
      (Complains.fit _ _).bind fun _ => .pure _
  | settings body => exact (Complains.need _ _).bind fun _ => .pure _
  | signature body =>
    exact (Complains.need _ _).bind fun _ => (Complains.need _ _).bind fun _ =>
      (Complains.need _ _).bind fun _ => (Complains.needAddress _).bind fun _ => .pure _
  | newSeed body => exact (Complains.needWordCount _).bind fun _ => .pure _
  | recovery body => exact (Complains.needWordCount _).bind fun _ => .pure _
  | seed body =>
    exact (Complains.need _ _).bind fun _ => (Complains.fit _ _).bind fun _ => .pure _
  | message body =>
    exact (Complains.need _ _).bind fun _ => (Complains.fit _ _).bind fun _ => .pure _
  | pin body => exact (Complains.need _ _).bind fun _ => .pure _
  | word body => exact (Complains.need _ _).bind fun _ => .pure _
  | pinCode remove => exact .pure _
  | passphrase body => exact .pure _

/-! ## How long an order can be -/

/-- The length of a text, in bytes. -/
def textSize (text : String) : Nat :=
  (Text.utf8 text).length

/-- How long the texts of an order are together. -/
def Order.extent : Order → Nat
  | addresses _ | newSeed _ | recovery _ | pinCode _ => 0
  | settings body => body.settings.label.elim 0 textSize + body.settings.language.elim 0 textSize
  | signature body => textSize body.message + textSize body.signature + textSize body.address
  | seed body => textSize body.mnemonic
  | message body => textSize body.message
  | pin body => textSize body.pin
  | passphrase body => textSize body.passphrase
  | word body => textSize body.word

/-- A member that is a text adds its length at most. -/
theorem text_member_covers {α : Type} {size : α → Nat} (name : String) {set : String → α → α}
    (hset : ∀ value record, size (set value record) ≤ size record + textSize value) :
    (Json.Member.of name .text set).Covers size :=
  Json.Member.of_covers Json.Reader.text_covers name hset

theorem SettingsBody.reader_covers : SettingsBody.reader.Covers fun body =>
    body.settings.label.elim 0 textSize + body.settings.language.elim 0 textSize + 1 := by
  have htext : (Json.Reader.optional .text).Covers fun value => value.elim 0 textSize :=
    Json.Reader.optional_covers Json.Reader.text_covers
  have hflag := Json.Reader.covers_one (Json.Reader.optional .flag)
  refine Json.Reader.record_covers _ rfl (List.forall_mem_cons.2 ⟨?_, List.forall_mem_cons.2
    ⟨?_, List.forall_mem_singleton.2 ?_⟩⟩)
  · exact Json.Member.of_covers htext _ fun _ _ => by simp only; omega
  · exact Json.Member.of_covers htext _ fun _ _ => by simp only; omega
  · exact Json.Member.of_covers hflag _ fun _ _ => Nat.le_add_right _ _

theorem SignatureBody.reader_covers : SignatureBody.reader.Covers fun body =>
    textSize body.message + textSize body.signature + textSize body.address + 1 := by
  refine Json.Reader.record_covers _ rfl (List.forall_mem_cons.2 ⟨?_, List.forall_mem_cons.2
    ⟨?_, List.forall_mem_singleton.2 ?_⟩⟩)
  all_goals exact text_member_covers _ fun _ _ => by simp only; omega

theorem MessageBody.reader_covers :
    MessageBody.reader.Covers fun body => textSize body.message + 1 := by
  refine Json.Reader.record_covers _ rfl (List.forall_mem_cons.2
    ⟨?_, List.forall_mem_singleton.2 ?_⟩)
  · exact Json.Member.of_covers (Json.Reader.covers_one _) _ fun _ _ => Nat.le_add_right _ _
  · exact text_member_covers _ fun _ _ => Nat.le_add_left _ _

/-- A record with one text is as long as that. -/
theorem text_record_covers {α : Type} {size : α → Nat} {initial : α} (name member : String)
    {set : String → α → α} (hinitial : size initial = 0)
    (hset : ∀ value record, size (set value record) = textSize value) :
    (Json.Reader.record name initial [.of member .text set]).Covers fun record =>
      size record + 1 := by
  refine Json.Reader.record_covers _ hinitial (List.forall_mem_singleton.2 ?_)
  exact text_member_covers _ fun value record => by rw [hset]; exact Nat.le_add_left _ _

theorem Says.size_lt {β : Type} {reader : Json.Reader β} {request : Request} {body : β}
    {size : β → Nat} (h : Says reader request body)
    (hcovers : reader.Covers fun body => size body + 1) :
    size body < Endpoint.maxBody :=
  Nat.le_trans (Json.decode_covers hcovers h.decoded) h.short

/-- The texts of an order are not longer than a body may be. -/
theorem Order.IsWrittenIn.extent_lt {order : Order} {request : Request}
    (h : order.IsWrittenIn request) : order.extent < Endpoint.maxBody := by
  cases order with
  | addresses | newSeed | recovery | pinCode => exact (by decide : 0 < Endpoint.maxBody)
  | settings body => exact h.size_lt SettingsBody.reader_covers
  | signature body => exact h.size_lt SignatureBody.reader_covers
  | message body => exact h.size_lt MessageBody.reader_covers
  | seed body =>
    have hcovers : SeedBody.reader.Covers fun body => textSize body.mnemonic + 1 :=
      text_record_covers _ _ rfl fun _ _ => rfl
    exact h.size_lt hcovers
  | pin body =>
    have hcovers : PinBody.reader.Covers fun body => textSize body.pin + 1 :=
      text_record_covers _ _ rfl fun _ _ => rfl
    exact h.size_lt hcovers
  | passphrase body =>
    have hcovers : PassphraseBody.reader.Covers fun body => textSize body.passphrase + 1 :=
      text_record_covers _ _ rfl fun _ _ => rfl
    exact h.size_lt hcovers
  | word body =>
    have hcovers : WordBody.reader.Covers fun body => textSize body.word + 1 :=
      text_record_covers _ _ rfl fun _ _ => rfl
    exact h.size_lt hcovers

end Api

end WalletGateway
