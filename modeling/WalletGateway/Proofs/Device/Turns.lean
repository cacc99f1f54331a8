import WalletGateway.Device.Conversation

/-!
# What a conversation takes and sends

A conversation takes the replies of its device up to the first that asks for no button, sends an
acknowledgement for each one before that, and ends with what that one says: `converse_spec`.
-/

namespace WalletGateway.Conversation

/-- Whether a reply asks for a button. -/
def asksButton : Reply → Bool
  | .ok message => message.kind? = some .buttonRequest
  | .error _ => false

/-- How many button requests come first. -/
def buttons (replies : List Reply) : Nat :=
  (replies.takeWhile asksButton).length

/-- The first reply that asks for no button. Where there is none, the device is not there. -/
def decisive (replies : List Reply) : Reply :=
  (replies[buttons replies]?).getD (.error .noDevice)

/-- What a reply says about the end of a conversation. -/
def Ends (reply : Reply) (result : Except DeviceError Resolution) : Prop :=
  match reply with
  | .error error => result = .error error
  | .ok message => message.verdict = .resolved result

/-- Sends a message and follows the replies. -/
def converse (message : Message) (replies : List Reply) : Outcome :=
  let outcome := follow (exchange replies).1 (exchange replies).2
  { outcome with sent := message :: outcome.sent }

/-- Button requests are what is acknowledged. -/
theorem verdict_eq_acknowledge_iff {message : Message} :
    message.verdict = .acknowledge ↔ asksButton (.ok message) = true := by
  unfold Message.verdict asksButton
  cases hkind : message.kind? with
  | none => simp [hkind]
  | some kind => cases kind <;> simp [hkind, Message.resolveWith]

theorem buttons_cons (reply : Reply) (replies : List Reply) :
    buttons (reply :: replies) = if asksButton reply then buttons replies + 1 else 0 := by
  cases h : asksButton reply <;> simp [buttons, h]

/-- After a button request the conversation goes on with an acknowledgement. -/
theorem follow_of_acknowledge {message : Message} (h : message.verdict = .acknowledge)
    (replies : List Reply) :
    follow (.ok message) replies = converse DeviceRequest.acknowledgeButton.message replies := by
  rw [follow, h]
  cases replies with
  | nil =>
    simp only [converse, exchange]
    rw [follow]
  | cons reply replies => rfl

theorem converse_of_acknowledge {heard : Message} (h : heard.verdict = .acknowledge)
    (message : Message) (replies : List Reply) :
    converse message (.ok heard :: replies)
      = { converse DeviceRequest.acknowledgeButton.message replies with
          sent := message :: (converse DeviceRequest.acknowledgeButton.message replies).sent } := by
  rw [← follow_of_acknowledge h]
  rfl

theorem follow_of_resolved {message : Message} {result : Except DeviceError Resolution}
    (h : message.verdict = .resolved result) (replies : List Reply) :
    follow (.ok message) replies = ⟨[], replies, result⟩ := by
  rw [follow, h]

/-- A conversation takes a reply for its message and one for each leading button request, which it
acknowledges, and ends with what the last of them says. -/
theorem converse_spec (message : Message) (replies : List Reply) :
    (converse message replies).sent
        = message :: List.replicate (buttons replies) DeviceRequest.acknowledgeButton.message ∧
      (converse message replies).unused = replies.drop (buttons replies + 1) ∧
      Ends (decisive replies) (converse message replies).result := by
  induction replies generalizing message with
  | nil =>
    simp only [converse, exchange, follow]
    exact ⟨rfl, rfl, rfl⟩
  | cons reply replies ih =>
    cases reply with
    | error error =>
      simp only [converse, exchange, follow]
      exact ⟨rfl, rfl, rfl⟩
    | ok heard =>
      cases hverdict : heard.verdict with
      | acknowledge =>
        have hasks := verdict_eq_acknowledge_iff.1 hverdict
        obtain ⟨hsent, hunused, hresult⟩ := ih DeviceRequest.acknowledgeButton.message
        have hbuttons : buttons (.ok heard :: replies) = buttons replies + 1 := by
          simp [buttons_cons, hasks]
        rw [converse_of_acknowledge hverdict]
        refine ⟨?_, ?_, ?_⟩
        · rw [hbuttons, hsent, List.replicate_succ]
        · rw [hbuttons, hunused, List.drop_succ_cons]
        · simpa [decisive, hbuttons] using hresult
      | resolved result =>
        have hasks : asksButton (.ok heard) = false := by
          rw [← Bool.not_eq_true, ← verdict_eq_acknowledge_iff, hverdict]
          simp
        have hbuttons : buttons (.ok heard :: replies) = 0 := by
          simp [buttons_cons, hasks]
        simp only [converse, exchange, follow_of_resolved hverdict]
        refine ⟨by simp [hbuttons], by simp [hbuttons], ?_⟩
        simpa [decisive, hbuttons, Ends] using hverdict

end WalletGateway.Conversation
