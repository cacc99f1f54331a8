import WalletGateway.Proofs.Device.Turns

/-!
# What ends a conversation

`Answers` says by which item a conversation ends in which way, with the tables of the interactions
and of the payloads that are read.  `Message.verdict` agrees with it: `ends_iff_answers`.  A button
request is the one message that ends no conversation.
-/

namespace WalletGateway

open Message (Kind)

/-- The kind of the message with which the device asks for an input. -/
def Interaction.kind : Interaction → Kind
  | pinMatrix => .pinMatrixRequest
  | passphrase => .passphraseRequest
  | word => .wordRequest

namespace Conversation

/-- The payloads that end a conversation, with what they say.  An absent text is the empty one. -/
inductive Says : {α : Type} → [Payload α] → (α → Resolution) → Prop where
  | failure : Says fun payload : Payload.Failure => .refused (payload.message.getD "")
  | success : Says fun payload : Payload.Success => .complete (.text (payload.message.getD ""))
  | addresses : Says fun payload : Payload.ResponseSkycoinAddress =>
      .complete (.addresses payload.addresses)
  | signature : Says fun payload : Payload.ResponseSkycoinSignMessage =>
      .complete (.signature payload.signedMessage)
  | signatures : Says fun payload : Payload.ResponseTransactionSign =>
      .complete (.signatures payload.signatures)
  | features : Says fun payload : Payload.Features => .complete (.features payload)

/-- The kinds of messages that mean something to a conversation. -/
inductive Means : Kind → Prop where
  | button : Means .buttonRequest
  | interaction (interaction : Interaction) : Means interaction.kind
  | payload {α : Type} [Payload α] {resolution : α → Resolution} (htells : Says resolution) :
      Means (Payload.kind α)

/-- Which items end a conversation, and in which way. -/
inductive Answers : Reply → Except DeviceError Resolution → Prop where
  | error (error : DeviceError) : Answers (.error error) (.error error)
  /-- The device waits for input of the user. -/
  | interaction {message : Message} {interaction : Interaction}
      (hkind : message.kind? = some interaction.kind) :
      Answers (.ok message) (.ok (.interaction interaction))
  | payload {message : Message} {α : Type} [Payload α] {resolution : α → Resolution} {payload : α}
      (htells : Says resolution) (hkind : message.kind? = some (Payload.kind α))
      (hdecode : message.decode α = .ok payload) :
      Answers (.ok message) (.ok (resolution payload))
  /-- The payload cannot be read; the error names the kind of the message. -/
  | undecodable {message : Message} {α : Type} [Payload α] {resolution : α → Resolution}
      {fault : Protobuf.Fault} (htells : Says resolution)
      (hkind : message.kind? = some (Payload.kind α)) (hdecode : message.decode α = .error fault) :
      Answers (.ok message) (.error (.undecodable (Payload.kind α) fault))
  | unexpected {message : Message} {kind : Kind} (hkind : message.kind? = some kind)
      (hmeans : ¬ Means kind) : Answers (.ok message) (.error (.unexpectedMessage kind.name))
  | unknown {message : Message} (hkind : message.kind? = none) :
      Answers (.ok message)
        (.error (.unexpectedMessage ("Unknown(" ++ toString message.code.toNat ++ ")")))

theorem means_iff {kind : Kind} :
    Means kind ↔ kind ∈ [Kind.buttonRequest, .pinMatrixRequest, .passphraseRequest, .wordRequest,
      .failure, .success, .responseSkycoinAddress, .responseSkycoinSignMessage,
      .responseTransactionSign, .features] := by
  constructor
  · intro hmeans
    cases hmeans with
    | button => decide
    | interaction interaction => cases interaction <;> decide
    | payload htells => cases htells <;> decide
  · intro hmem
    simp only [List.mem_cons, List.not_mem_nil, or_false] at hmem
    rcases hmem with rfl | rfl | rfl | rfl | rfl | rfl | rfl | rfl | rfl | rfl
    · exact .button
    · exact .interaction .pinMatrix
    · exact .interaction .passphrase
    · exact .interaction .word
    · exact .payload .failure
    · exact .payload .success
    · exact .payload .addresses
    · exact .payload .signature
    · exact .payload .signatures
    · exact .payload .features

instance (kind : Kind) : Decidable (Means kind) :=
  decidable_of_iff _ means_iff.symm

section Verdict

variable {message : Message}

theorem verdict_of_interaction {interaction : Interaction}
    (hkind : message.kind? = some interaction.kind) :
    message.verdict = .resolved (.ok (.interaction interaction)) := by
  unfold Message.verdict
  rw [hkind]
  cases interaction <;> rfl

theorem verdict_of_payload {α : Type} [Payload α] {resolution : α → Resolution}
    (htells : Says resolution) (hkind : message.kind? = some (Payload.kind α)) :
    message.verdict = message.resolveWith α resolution := by
  unfold Message.verdict
  rw [hkind]
  cases htells <;> rfl

theorem verdict_of_unexpected {kind : Kind} (hkind : message.kind? = some kind)
    (hmeans : ¬ Means kind) :
    message.verdict = .resolved (.error (.unexpectedMessage kind.name)) := by
  have hname : message.kindName = kind.name := by simp [Message.kindName, hkind]
  unfold Message.verdict
  rw [hkind, hname]
  cases kind <;> first | rfl | exact absurd (by decide) hmeans

theorem verdict_of_unknown (hkind : message.kind? = none) :
    message.verdict = .resolved
      (.error (.unexpectedMessage ("Unknown(" ++ toString message.code.toNat ++ ")"))) := by
  unfold Message.verdict Message.kindName
  rw [hkind]

/-- What answers a conversation is the verdict on the item. -/
theorem Answers.verdict_eq {result : Except DeviceError Resolution}
    (h : Answers (.ok message) result) : message.verdict = .resolved result := by
  cases h with
  | interaction hkind => exact verdict_of_interaction hkind
  | payload htells hkind hdecode =>
    rw [verdict_of_payload htells hkind, Message.resolveWith, hdecode]
  | undecodable htells hkind hdecode =>
    rw [verdict_of_payload htells hkind, Message.resolveWith, hdecode]
  | unexpected hkind hmeans => exact verdict_of_unexpected hkind hmeans
  | unknown hkind => exact verdict_of_unknown hkind

/-- Every message that asks for no button answers a conversation. -/
theorem exists_answers (h : asksButton (.ok message) = false) :
    ∃ result, Answers (.ok message) result := by
  have hsaid : ∀ {α : Type} [Payload α] {resolution : α → Resolution}, Says resolution →
      message.kind? = some (Payload.kind α) → ∃ result, Answers (.ok message) result := by
    intro α _ resolution htells hkind
    cases hdecode : message.decode α with
    | ok payload => exact ⟨_, .payload htells hkind hdecode⟩
    | error fault => exact ⟨_, .undecodable htells hkind hdecode⟩
  cases hkind : message.kind? with
  | none => exact ⟨_, .unknown hkind⟩
  | some kind =>
    by_cases hmeans : Means kind
    · cases hmeans with
      | button => simp [asksButton, hkind] at h
      | interaction interaction => exact ⟨_, .interaction hkind⟩
      | payload htells => exact hsaid htells hkind
    · exact ⟨_, .unexpected hkind hmeans⟩

end Verdict

/-- A conversation ends by exactly the items that answer it. -/
theorem ends_iff_answers {item : Reply} {result : Except DeviceError Resolution} :
    Ends item result ↔ Answers item result := by
  constructor
  · intro hends
    cases item with
    | error error =>
      obtain rfl : result = .error error := hends
      exact .error error
    | ok message =>
      have hasks : asksButton (.ok message) = false := by
        rw [← Bool.not_eq_true, ← verdict_eq_acknowledge_iff, hends]
        simp
      obtain ⟨answer, hanswers⟩ := exists_answers hasks
      obtain rfl := Verdict.resolved.inj (hanswers.verdict_eq.symm.trans hends)
      exact hanswers
  · intro hanswers
    cases item with
    | error error =>
      cases hanswers
      rfl
    | ok message => exact hanswers.verdict_eq

/-- An item answers a conversation in one way at most. -/
theorem Answers.unique {item : Reply} {first second : Except DeviceError Resolution}
    (hfirst : Answers item first) (hsecond : Answers item second) : first = second := by
  cases item with
  | error error =>
    cases hfirst
    cases hsecond
    rfl
  | ok message =>
    exact Verdict.resolved.inj (hfirst.verdict_eq.symm.trans hsecond.verdict_eq)

/-- No button request answers a conversation. -/
theorem Answers.not_asksButton {item : Reply} {result : Except DeviceError Resolution}
    (h : Answers item result) : asksButton item = false := by
  cases item with
  | error error => rfl
  | ok message =>
    rw [← Bool.not_eq_true, ← verdict_eq_acknowledge_iff, h.verdict_eq]
    simp

end Conversation

end WalletGateway
