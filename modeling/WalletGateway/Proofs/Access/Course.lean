import WalletGateway.Proofs.Access.Conduct
import WalletGateway.Proofs.Access.Tenancy
import WalletGateway.Proofs.Device.Answers

/-!
# The course of a conversation

A conversation acknowledges the button requests that come first, one after the other, and ends with
the item behind them.  `follow` does so with a list of replies.  Where other operations go on at the
same device, the drive of an operation is the same conversation in steps: `Course` is its invariant,
and relates what has passed between the drive and the device (`turns`) to how far the drive has
come.

`buttons_are_acknowledged_in_turn` says both.
-/

namespace WalletGateway.Access

open Conversation

/-! ## What passes between a drive and the device -/

/-- A message of a drive, or what the drive hears. -/
inductive Turn where
  | sent (message : Message)
  | heard (reply : Reply)

/-- What passes between the drive of an operation and the device in a step.  The answer to a Cancel
request is not for the drive. -/
def Step.turn? (index : Nat) (step : Step) : Option Turn :=
  match step.event, step.effect with
  | .signal other .send, some (.call message) =>
    if other = index then some (.sent message) else none
  | .signal other (.answer reply), _ =>
    if other = index ∧ (step.before.operations[index]?).any (·.drive matches .awaiting) then
      some (.heard reply)
    else none
  | _, _ => none

/-- All that has passed between the drive of an operation and the device, in order. -/
def turns (index : Nat) (steps : List Step) : List Turn :=
  steps.filterMap (Step.turn? index)

/-- The message that a drive sends after the replies. -/
def nextMessage (request : Message) (heard : List Reply) : Message :=
  if heard.isEmpty then request else DeviceRequest.acknowledgeButton.message

/-- A message before each of the replies. -/
def alternation (message : Message) : List Reply → List Turn
  | [] => []
  | reply :: replies =>
    .sent message :: .heard reply :: alternation DeviceRequest.acknowledgeButton.message replies

theorem alternation_concat (message : Message) (heard : List Reply) (reply : Reply) :
    alternation message (heard ++ [reply])
      = alternation message heard ++ [.sent (nextMessage message heard), .heard reply] := by
  induction heard generalizing message with
  | nil => rfl
  | cons first heard ih =>
    have hnext : nextMessage DeviceRequest.acknowledgeButton.message heard
        = nextMessage message (first :: heard) := by
      simp [nextMessage]
    rw [List.cons_append, alternation, ih, hnext]
    rfl

/-! ## One drive -/

/-- How far the conversation of a request has come, by what has passed with the device: a message
and a reply in turn, and after each button request one acknowledgement. -/
inductive Course (request : Message) : List Turn → Drive → Prop where
  | idle : Course request [] .idle
  | ready {heard : List Reply} (hasks : ∀ reply ∈ heard, asksButton reply = true) :
      Course request (alternation request heard) (.ready (nextMessage request heard))
  | awaiting {heard : List Reply} (hasks : ∀ reply ∈ heard, asksButton reply = true) :
      Course request (alternation request heard ++ [.sent (nextMessage request heard)]) .awaiting
  | resolved {heard : List Reply} {reply : Reply} {result : Except DeviceError Resolution}
      (hasks : ∀ reply ∈ heard, asksButton reply = true) (hanswers : Answers reply result) :
      Course request (alternation request (heard ++ [reply])) (.resolved result)

namespace Course

variable {request : Message} {log : List Turn}

/-- The request is the first message. -/
theorem opening (request : Message) : Course request [] (.ready request) := by
  have hnone : ∀ reply ∈ ([] : List Reply), asksButton reply = true := by simp
  exact .ready hnone

theorem send {message : Message} (h : Course request log (.ready message)) :
    Course request (log ++ [.sent message]) .awaiting := by
  cases h with
  | ready hasks => exact .awaiting hasks

theorem hear (h : Course request log .awaiting) (reply : Reply) :
    Course request (log ++ [.heard reply]) (Operation.Drive.after reply) := by
  cases h with
  | @awaiting heard hasks =>
    have hlog : alternation request heard ++ [.sent (nextMessage request heard)] ++ [.heard reply]
        = alternation request (heard ++ [reply]) := by
      rw [alternation_concat, List.append_assoc]
      rfl
    rw [hlog]
    cases reply with
    | error error => exact .resolved hasks (.error error)
    | ok message =>
      cases hverdict : message.verdict with
      | acknowledge =>
        have hnext : Operation.Drive.after (.ok message)
            = .ready (nextMessage request (heard ++ [.ok message])) := by
          simp [Operation.Drive.after, hverdict, nextMessage]
        rw [hnext]
        refine .ready fun reply hmem => ?_
        rcases List.mem_append.1 hmem with hold | hnew
        · exact hasks reply hold
        · obtain rfl := List.mem_singleton.1 hnew
          exact verdict_eq_acknowledge_iff.1 hverdict
      | resolved result =>
        have hafter : Operation.Drive.after (.ok message) = .resolved result := by
          simp [Operation.Drive.after, hverdict]
        rw [hafter]
        exact .resolved hasks (ends_iff_answers.1 hverdict)

end Course

/-! ## All drives -/

section Turns

variable {index : Nat} {steps : List Step} {step : Step}

theorem turns_snoc {turn : Turn} (h : step.turn? index = some turn) :
    turns index (steps ++ [step]) = turns index steps ++ [turn] := by
  simp [turns, h]

theorem turns_snoc_of_none (h : step.turn? index = none) :
    turns index (steps ++ [step]) = turns index steps := by
  simp [turns, h]

/-- The steps of others are no turns. -/
theorem Step.turn?_of_other (hevent : ∀ signal, step.event ≠ .signal index signal) :
    step.turn? index = none := by
  unfold turn?
  split
  · rename_i other message hsignal _
    simp [Step.ne_of_event hevent hsignal]
  · rename_i other reply hsignal
    simp [Step.ne_of_event hevent hsignal]
  · rfl

theorem turns_eq_nil (h : ∀ step ∈ steps, ∀ signal, step.event ≠ .signal index signal) :
    turns index steps = [] :=
  List.filterMap_eq_nil_iff.2 fun step hstep => Step.turn?_of_other (h step hstep)

end Turns

/-- Taking the slot opens the drive, where there is one. -/
theorem Operation.takeSlot_course {operation : Operation} {log : List Turn}
    (h : Course operation.request log operation.drive) (hidle : operation.drive = .idle)
    (slot : Slot) : Course operation.request log (operation.takeSlot slot).operation.drive := by
  rcases operation.takeSlot_drive slot with hsame | hopened
  · rw [hsame]
    exact h
  · rw [hidle] at h
    cases h
    rw [hopened]
    exact .opening operation.request

namespace Execution

variable {steps : List Step} {last : State} {index : Nat}

/-- The drive of every operation is a conversation of its request. -/
theorem course (h : Execution {} steps last) {operation : Operation}
    (hoperation : last.operations[index]? = some operation) :
    Course operation.request (turns index steps) operation.drive := by
  induction h generalizing operation with
  | refl => contradiction
  | @snoc steps step hsteps hlawful ih =>
    rcases hlawful.operation_cases hoperation with
      ⟨purpose, request, hevent, hindex, rfl⟩ | ⟨hold, hother⟩ |
      ⟨signal, old, reaction, hevent, hold, hreacts, heffect, -, rfl⟩
    · subst hindex
      rw [turns_eq_nil (hsteps.unsignalled_of_begin hevent)]
      unfold Operation.new
      split
      · exact .idle
      · exact .idle
      · exact .opening request
      · exact .opening request
    · rw [turns_snoc_of_none (Step.turn?_of_other hother)]
      exact ih hold
    · have hidle := (hsteps.isTidy hold).outside
      rw [hreacts.request_eq]
      cases hreacts with
      | send message hdrive =>
        have hturn : step.turn? index = some (.sent message) := by
          simp [Step.turn?, hevent, heffect]
        rw [turns_snoc hturn]
        exact (hdrive ▸ ih hold).send
      | hear reply _ hdrive =>
        have hturn : step.turn? index = some (.heard reply) := by
          simp [Step.turn?, hevent, hold, hdrive]
        rw [turns_snoc hturn]
        exact (hdrive ▸ ih hold).hear reply
      | takeFree hstage =>
        rw [turns_snoc_of_none (by simp [Step.turn?, hevent])]
        exact Operation.takeSlot_course (ih hold) (hidle (Or.inl hstage)) _
      | takeOver reply hstage =>
        have hdrive := hidle (Or.inr hstage)
        rw [turns_snoc_of_none (by simp [Step.turn?, hevent, hold, hdrive])]
        exact Operation.takeSlot_course (ih hold) hdrive _
      | fail error hstage =>
        rw [turns_snoc_of_none (by simp [Step.turn?, hevent, hold, hidle (Or.inr hstage)])]
        exact ih hold
      | preempt | settle | notice | tearDown | tearDownFailing | fire | giveUp | detach | release
      | dropGuard =>
        rw [turns_snoc_of_none (by simp [Step.turn?, hevent])]
        exact ih hold

end Execution

/-! ## Both -/

/-- What becomes of a conversation by its items, the first message and the replies. -/
structure Acknowledges (first : Message) (replies : List Reply)
    (outcome : Conversation.Outcome) : Prop where
  /-- An empty acknowledgement for each button request that comes first. -/
  sent : outcome.sent
    = List.replicate (buttons (.ok first :: replies)) ⟨Message.Kind.buttonAck.code, []⟩
  /-- A reply for each acknowledgement. -/
  unused : outcome.unused = replies.drop (buttons (.ok first :: replies))
  /-- The result is that of the first other item. -/
  result : ∀ result,
    outcome.result = result ↔ Answers (decisive (.ok first :: replies)) result
  /-- No button request gets out. -/
  decisive : asksButton (decisive (.ok first :: replies)) = false

/-- A conversation acknowledges the button requests that come first, and ends with the item behind
them.  In every execution the messages and the replies of a drive come in turn. -/
theorem buttons_are_acknowledged_in_turn :
    (∀ (first : Message) (replies : List Reply),
      Acknowledges first replies (follow (.ok first) replies)) ∧
    ∀ {steps : List Step} {last : State}, Execution {} steps last →
      ∀ (index : Nat) (operation : Operation), last.operations[index]? = some operation →
        Course operation.request (turns index steps) operation.drive := by
  refine ⟨fun first replies => ?_, fun h _ _ hoperation => h.course hoperation⟩
  -- A conversation with the first message as a reply sends one message more.
  obtain ⟨hsent, hunused, hends⟩ := converse_spec default (.ok first :: replies)
  have hanswers := ends_iff_answers.1 hends
  refine ⟨(List.cons.inj hsent).2, hunused, fun result => ?_, hanswers.not_asksButton⟩
  constructor
  · rintro rfl
    exact hanswers
  · exact fun hother => hanswers.unique hother

/-- A backup with two button requests, while somebody takes the slot over. -/
def promptedBackup : List Event :=
  [.begin (.supervised true) DeviceRequest.backup.message, .signal 0 .start, .signal 0 .send,
    .begin .acquire default, .signal 1 .start, .signal 0 (.answer (.ok ⟨26, []⟩)),
    .signal 1 (.answer (.ok ⟨3, []⟩)), .signal 0 .send, .signal 0 (.answer (.ok ⟨26, []⟩)),
    .signal 0 .send, .signal 0 (.answer (.ok ⟨2, []⟩))]

theorem prompted_backup_is_acknowledged_in_turn :
    Acknowledges ⟨26, []⟩ [.ok ⟨26, []⟩, .ok ⟨2, []⟩, .error .timeout]
        (follow (.ok ⟨26, []⟩) [.ok ⟨26, []⟩, .ok ⟨2, []⟩, .error .timeout]) ∧
      ∃ last operation, Execution {} (State.steps {} promptedBackup) last ∧
        last.operations[0]? = some operation ∧
        Course operation.request (turns 0 (State.steps {} promptedBackup)) operation.drive := by
  refine ⟨buttons_are_acknowledged_in_turn.1 _ _, ?_⟩
  obtain ⟨⟨last, trace⟩, hrun⟩ := Option.isSome_iff_exists.1
    (show (State.run {} promptedBackup).isSome by decide)
  have hthere : ∀ result ∈ State.run {} promptedBackup, 0 < result.1.operations.length := by decide
  have hexecution := Execution.of_run hrun
  have hoperation := List.getElem?_eq_getElem (hthere _ hrun)
  exact ⟨last, _, hexecution, hoperation,
    buttons_are_acknowledged_in_turn.2 hexecution 0 _ hoperation⟩

end WalletGateway.Access
