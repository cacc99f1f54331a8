import WalletGateway.Proofs.Access.Stillness
import WalletGateway.Proofs.Device.Turns

/-!
# An operation that is alone

When an operation starts at a device where everything is over, and the device answers all its calls
at once, settling brings the operation to its end.  What it sends and takes, and what it tells, is
the conversation of its message with the replies of the device: `Rehearsal.AtRest.start`.
-/

namespace WalletGateway.Access

open Conversation (Reply converse exchange)

/-- An operation that does nothing any more of its own. -/
structure Operation.IsOver (operation : Operation) : Prop where
  stage : operation.stage = .ended
  drive : ∀ message, operation.drive ≠ .ready message

namespace Rehearsal

/-- Everything is over, nobody holds the slot, and the device has nothing to say. -/
structure IsIdle (rehearsal : Rehearsal) : Prop where
  finished : ∀ operation ∈ rehearsal.state.operations, operation.IsOver
  free : rehearsal.state.slot.holder = none
  silent : rehearsal.due = none

/-- Everything is over, nobody holds the slot, and the device has the given replies left. -/
structure AtRest (rehearsal : Rehearsal) (replies : List Reply) : Prop where
  finished : ∀ operation ∈ rehearsal.state.operations, operation.IsOver
  free : rehearsal.state.slot.holder = none
  silent : rehearsal.due = none
  script : rehearsal.device.script = replies.map .reply

/-- An operation is under way, behind the given ones. -/
def alone (others : List Operation) (slot : Slot) (operation : Operation)
    (device : ScriptedDevice) (delivered : List (Nat × Outcome))
    (due : Option (Nat × Signal) := none) : Rehearsal :=
  { state := ⟨slot, others ++ [operation]⟩, device, due, delivered }

/-- The operation has come to its end by a conversation. -/
def concluded (others : List Operation) (slot : Slot) (operation : Operation)
    (device : ScriptedDevice) (delivered : List (Nat × Outcome)) (outcome : Conversation.Outcome) :
    Rehearsal :=
  alone others ((operation.guard.map slot.giveBack).getD slot)
    { operation with stage := .ended, drive := .resolved outcome.result, guard := none }
    { device with
      script := outcome.unused.map .reply
      sent := outcome.sent.reverse ++ device.sent }
    ((others.length, .result outcome.result) :: delivered)

/-! ## One step -/

theorem react_of_isOver {operation : Operation} (h : operation.IsOver) (slot : Slot)
    {signal : Signal} (hown : signal ∈ ownSignals) : operation.react slot signal = none := by
  obtain ⟨hstage, hdrive⟩ := h
  simp only [ownSignals, List.mem_cons, List.not_mem_nil, or_false] at hown
  rcases hown with rfl | rfl | rfl | rfl <;> simp [Operation.react, hstage]

section

variable {others : List Operation} {slot : Slot} {operation : Operation} {device : ScriptedDevice}
  {delivered : List (Nat × Outcome)} {due : Option (Nat × Signal)}

/-- What a signal does to the operation that is under way. -/
theorem signal?_alone (signal : Signal) :
    (alone others slot operation device delivered due).signal? others.length signal
      = (operation.react slot signal).map fun reaction =>
          let next := alone others reaction.slot reaction.operation device delivered due
          (reaction.effect.map (next.perform others.length)).getD next := by
  unfold signal? alone
  cases hreact : operation.react slot signal with
  | none => simp [State.step, hreact]
  | some reaction => simp [State.step, hreact, List.set_append_right]

/-- Where the others stand still, only the operation that is under way goes on of its own. -/
theorem ownStep?_of_isStill (hstill : ∀ operation ∈ others, operation.IsStill slot) :
    (alone others slot operation device delivered due).ownStep?
      = ownSignals.findSome?
          ((alone others slot operation device delivered due).signal? others.length) := by
  have hidle : (List.range others.length).findSome? (fun index => ownSignals.findSome? fun signal =>
      (alone others slot operation device delivered due).signal? index signal) = none := by
    rw [List.findSome?_eq_none_iff]
    intro index hindex
    rw [List.findSome?_eq_none_iff]
    intro signal hown
    have hlt := List.mem_range.1 hindex
    have hother : (others ++ [operation])[index]? = some others[index] := by
      rw [List.getElem?_append_left hlt, List.getElem?_eq_getElem hlt]
    have hreact := hstill _ (List.getElem_mem hlt) signal hown
    simp [signal?, alone, State.step, hother, hreact]
  have hlength : (alone others slot operation device delivered due).state.operations.length
      = others.length + 1 := by
    simp [alone]
  rw [ownStep?, hlength, List.range_succ, List.findSome?_append, hidle, Option.none_or]
  simp

/-- Where the others are over, only the operation that is under way goes on of its own. -/
theorem ownStep?_alone (hover : ∀ operation ∈ others, operation.IsOver) :
    (alone others slot operation device delivered due).ownStep?
      = ownSignals.findSome?
          ((alone others slot operation device delivered due).signal? others.length) :=
  ownStep?_of_isStill fun other hother _ hown => react_of_isOver (hover other hother) slot hown

/-- An operation that waits takes the free slot. -/
theorem settle_waiting (hover : ∀ operation ∈ others, operation.IsOver)
    (hstage : operation.stage = .waiting) {serialized : Bool}
    (hpurpose : operation.purpose = .supervised serialized) (hfree : slot.holder = none) :
    (alone others slot operation device delivered).settle
      = (alone others slot.take.2
          { operation with
            stage := .driving
            drive := .ready operation.request
            guard := some slot.take.1 } device delivered).settle := by
  apply settle_of_step?
  show ownStep? _ = _
  rw [ownStep?_alone hover]
  simp only [ownSignals, List.findSome?_cons, signal?_alone]
  simp [Operation.react, hstage, Slot.isFree, hfree, Operation.takeSlot, hpurpose]

/-- An operation that has a message sends it, and hears the reply. -/
theorem settle_ready (hover : ∀ operation ∈ others, operation.IsOver)
    (hstage : operation.stage = .driving) {message : Message}
    (hdrive : operation.drive = .ready message) {replies : List Reply}
    (hscript : device.script = replies.map .reply) :
    (alone others slot operation device delivered).settle
      = (alone others slot { operation with drive := Operation.Drive.after (exchange replies).1 }
          { device with
            script := (exchange replies).2.map .reply
            sent := message :: device.sent } delivered).settle := by
  -- Two steps: the message is sent, and then the device has its reply to say.
  let called : Rehearsal := alone others slot { operation with drive := .awaiting }
    { device with
      script := (exchange replies).2.map .reply
      sent := message :: device.sent } delivered
    (some (others.length, .answer (exchange replies).1))
  have hcall : (alone others slot operation device delivered).settle = called.settle := by
    apply settle_of_step?
    show ownStep? _ = _
    rw [ownStep?_alone hover]
    simp only [ownSignals, List.findSome?_cons, signal?_alone]
    cases replies with
    | nil =>
      simp [Operation.react, hstage, hdrive, perform, ScriptedDevice.call, hscript, called, alone,
        exchange]
    | cons reply replies =>
      simp [Operation.react, hstage, hdrive, perform, ScriptedDevice.call, hscript, called, alone,
        exchange]
  rw [hcall]
  apply settle_of_step?
  show some (((alone others slot _ _ delivered).signal? others.length _).getD _) = _
  rw [signal?_alone]
  simp [Operation.react, hstage, alone, called]

/-- An operation whose drive is over ends, and tells the outcome. -/
theorem settle_resolved (hover : ∀ operation ∈ others, operation.IsOver)
    (hstage : operation.stage = .driving) {result : Except DeviceError Resolution}
    (hdrive : operation.drive = .resolved result) (hattended : operation.attended = true) :
    (alone others slot operation device delivered).settle
      = alone others ((operation.guard.map slot.giveBack).getD slot)
          { operation with stage := .ended, guard := none } device
          ((others.length, .result result) :: delivered) := by
  rw [settle_of_step?]
  · apply settle_of_step?_eq_none
    show ownStep? _ = _
    rw [ownStep?_alone hover, List.findSome?_eq_none_iff]
    intro signal hown
    rw [signal?_alone, react_of_isOver ⟨rfl, by simp [hdrive]⟩ _ hown]
    rfl
  · show ownStep? _ = _
    rw [ownStep?_alone hover]
    simp only [ownSignals, List.findSome?_cons, signal?_alone]
    simp [Operation.react, hstage, hdrive, Operation.finish, hattended, perform, alone]

/-- Whatever the device answers, the message of the drive is the next that it receives. -/
theorem settle_ready_sent (hstill : ∀ operation ∈ others, operation.IsStill slot)
    (hstage : operation.stage = .driving) {message : Message}
    (hdrive : operation.drive = .ready message) :
    ∃ later, (alone others slot operation device delivered).settle.device.sent
      = later ++ message :: device.sent := by
  let sending : Rehearsal :=
    alone others slot { operation with drive := .awaiting } device delivered
  let called : Rehearsal := sending.perform others.length (.call message)
  have hcall : (alone others slot operation device delivered).settle = called.settle := by
    apply settle_of_step?
    show ownStep? _ = _
    rw [ownStep?_of_isStill hstill]
    simp only [ownSignals, List.findSome?_cons, signal?_alone]
    simp [Operation.react, hstage, hdrive, called, sending]
  have hdue : called.IsDueInner := by
    intro due hdue
    rcases perform_due sending others.length (.call message) hdue with hinner | hnone
    · exact hinner
    · exact absurd hnone (by simp [sending, alone])
  have hsent : called.device.sent = message :: device.sent :=
    perform_sent sending others.length (.call message)
  obtain ⟨steps, -, hevolves, -⟩ := evolves_settle hdue
  rw [hcall, hevolves.sent, hsent]
  exact ⟨_, rfl⟩

/-! ## The conversation -/

/-- A reply that resolves the drive ends the operation. -/
theorem settle_of_resolving (hover : ∀ operation ∈ others, operation.IsOver)
    (hstage : operation.stage = .driving) (hattended : operation.attended = true)
    {message : Message} (hdrive : operation.drive = .ready message) {replies : List Reply}
    (hscript : device.script = replies.map .reply) {result : Except DeviceError Resolution}
    (hafter : Operation.Drive.after (exchange replies).1 = .resolved result)
    (hconverse : converse message replies = ⟨[message], (exchange replies).2, result⟩) :
    (alone others slot operation device delivered).settle
      = concluded others slot operation device delivered (converse message replies) := by
  have hstage' : ({ operation with drive := .resolved result } : Operation).stage = .driving :=
    hstage
  rw [settle_ready hover hstage hdrive hscript, hafter,
    settle_resolved hover hstage' rfl hattended, hconverse]
  rfl

/-- An operation that has a message comes to its end, by the conversation of the message with the
replies. -/
theorem settle_driving (hover : ∀ operation ∈ others, operation.IsOver)
    (hstage : operation.stage = .driving) (hattended : operation.attended = true)
    {message : Message} (hdrive : operation.drive = .ready message) {replies : List Reply}
    (hscript : device.script = replies.map .reply) :
    (alone others slot operation device delivered).settle
      = concluded others slot operation device delivered (converse message replies) := by
  -- After a button request the operation has a message again, and one reply fewer is left.
  induction replies generalizing operation device message with
  | nil =>
    exact settle_of_resolving hover hstage hattended hdrive hscript rfl
      (by simp [converse, exchange, Conversation.follow])
  | cons reply replies ih =>
    cases reply with
    | error error =>
      exact settle_of_resolving hover hstage hattended hdrive hscript rfl
        (by simp [converse, exchange, Conversation.follow])
    | ok heard =>
      cases hverdict : heard.verdict with
      | resolved result =>
        have hafter : Operation.Drive.after (exchange (.ok heard :: replies)).1
            = .resolved result := by
          simp [Operation.Drive.after, exchange, hverdict]
        exact settle_of_resolving hover hstage hattended hdrive hscript hafter
          (by simp [converse, exchange, Conversation.follow_of_resolved hverdict])
      | acknowledge =>
        have hafter : Operation.Drive.after (exchange (.ok heard :: replies)).1
            = .ready DeviceRequest.acknowledgeButton.message := by
          simp [Operation.Drive.after, exchange, hverdict]
        let next : Operation :=
          { operation with drive := .ready DeviceRequest.acknowledgeButton.message }
        have hstage' : next.stage = .driving := hstage
        rw [settle_ready hover hstage hdrive hscript, hafter, ih hstage' hattended rfl rfl]
        simp [concluded, next, Conversation.converse_of_acknowledge hverdict]

/-- What is left of a conversation. -/
theorem atRest_concluded (hover : ∀ operation ∈ others, operation.IsOver)
    (hslot : ((operation.guard.map slot.giveBack).getD slot).holder = none)
    (outcome : Conversation.Outcome) :
    (concluded others slot operation device delivered outcome).AtRest outcome.unused where
  finished := by
    intro other hother
    rcases List.mem_append.1 hother with hold | hnew
    · exact hover other hold
    · obtain rfl := List.mem_singleton.1 hnew
      exact ⟨rfl, by simp⟩
  free := hslot
  silent := rfl
  script := rfl

end

/-- An operation that starts where everything is over comes to its end, by the conversation of its
message with the replies, and leaves everything over. -/
theorem AtRest.start {rest : Rehearsal} {replies : List Reply} (h : rest.AtRest replies)
    (serialized : Bool) (message : Message) :
    let outcome := converse message replies
    let last := rest.start (.supervised serialized) message
    last.AtRest outcome.unused ∧
      last.device.sent = outcome.sent.reverse ++ rest.device.sent ∧
      last.device.disconnects = rest.device.disconnects ∧
      last.delivered
        = (rest.state.operations.length, .result outcome.result) :: rest.delivered := by
  intro outcome last
  let begun := Operation.new (.supervised serialized) message
  -- Only the operation that has begun goes on, and only a serialized one takes the slot first.
  have hlast : last = (alone rest.state.operations rest.state.slot begun rest.device
      rest.delivered).settle := by
    show Rehearsal.settle _ = _
    rw [alone, ← h.silent]
  have hconcluded : ∃ slot operation,
      ((operation.guard.map slot.giveBack).getD slot).holder = none ∧
      last = concluded rest.state.operations slot operation rest.device rest.delivered outcome := by
    cases serialized with
    | false =>
      exact ⟨rest.state.slot, begun, h.free,
        hlast.trans (settle_driving h.finished rfl rfl rfl h.script)⟩
    | true =>
      rw [hlast, settle_waiting h.finished rfl rfl h.free]
      refine ⟨_, _, ?_, settle_driving h.finished rfl rfl rfl h.script⟩
      simp [Slot.take, Slot.giveBack]
  obtain ⟨slot, operation, hslot, hlast⟩ := hconcluded
  rw [hlast]
  exact ⟨atRest_concluded h.finished hslot outcome, rfl, rfl, rfl⟩

/-- Where everything is over, the message of an operation that starts is the next that the device
receives. -/
theorem IsIdle.start_sent {rest : Rehearsal} (h : rest.IsIdle) (serialized : Bool)
    (message : Message) :
    ∃ later, (rest.start (.supervised serialized) message).device.sent
      = later ++ message :: rest.device.sent := by
  have hstart : rest.start (.supervised serialized) message
      = (alone rest.state.operations rest.state.slot
          (.new (.supervised serialized) message) rest.device rest.delivered).settle := by
    show Rehearsal.settle _ = _
    rw [alone, ← h.silent]
  have hstill : ∀ slot, ∀ other ∈ rest.state.operations, other.IsStill slot :=
    fun slot other hother _ hown => react_of_isOver (h.finished other hother) slot hown
  rw [hstart]
  cases serialized with
  | false => exact settle_ready_sent (hstill _) rfl rfl
  | true =>
    rw [settle_waiting h.finished rfl rfl h.free]
    exact settle_ready_sent (hstill _) rfl rfl

end Rehearsal

end WalletGateway.Access
