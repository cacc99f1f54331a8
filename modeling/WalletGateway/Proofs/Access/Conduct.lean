import WalletGateway.Proofs.Access.Deed
import WalletGateway.Proofs.Access.Exclusion

/-!
# The conduct of an operation

An operation is there for its own request: it sends the message of that, and acknowledges button
requests.  Whatever else it does disturbs the others, namely to cancel what the device is doing, to
disconnect the device, and to take the slot from its holder.

* `Execution.of_call` says which messages an operation sends.
* `Execution.disturbs_iff` says when it disturbs the others: when it looks at the slot and finds it
  held, and when it notices that it has been given up.
-/

namespace WalletGateway.Access

/-- An operation does something in a step that is not among the calls of its own. -/
def Step.Disturbs (step : Step) (index : Nat) (own : List Message) : Prop :=
  (∃ message, step.deed? = some (index, .call message) ∧ message ∉ own) ∨
    step.deed? = some (index, .disconnect) ∨
    step.taker? = some index ∧ step.before.slot.holder ≠ none

/-- An operation begins in a step, and gets its number there. -/
def Step.Begins (step : Step) (index : Nat) (purpose : Purpose) (request : Message) : Prop :=
  step.event = .begin purpose request ∧ step.before.operations.length = index

/-! ## What an operation is for -/

@[simp] theorem Operation.new_request (purpose : Purpose) (request : Message) :
    (Operation.new purpose request).request = request := by
  unfold new
  split <;> rfl

@[simp] theorem Operation.takeSlot_request (operation : Operation) (slot : Slot) :
    (operation.takeSlot slot).operation.request = operation.request := by
  unfold takeSlot
  cases operation.purpose <;> rfl

/-- No transition changes the message of an operation. -/
theorem Reacts.request_eq {operation : Operation} {slot : Slot} {signal : Signal}
    {reaction : Reaction} (h : Reacts operation slot signal reaction) :
    reaction.operation.request = operation.request := by
  cases h <;> simp

/-- An operation that begins is there, as a new one. -/
theorem Step.IsLawful.new_of_begins {step : Step} (h : step.IsLawful) {index : Nat}
    {purpose : Purpose} {request : Message} (hbegins : step.Begins index purpose request) :
    step.after.operations[index]? = some (.new purpose request) := by
  obtain ⟨hevent, hlength⟩ := hbegins
  rcases h.cases with ⟨_, _, hbegin, -, hafter⟩ | ⟨_, _, _, _, hsignal, -⟩
  · obtain ⟨rfl, rfl⟩ := Event.begin.inj (hevent.symm.trans hbegin)
    rw [hafter, ← hlength]
    simp
  · rw [hevent] at hsignal
    contradiction

namespace Execution

variable {steps : List Step} {start last : State} {index : Nat}

theorem length_le (h : Execution start steps last) :
    start.operations.length ≤ last.operations.length := by
  induction h with
  | refl => exact Nat.le_refl _
  | snoc _ hlawful ih => exact Nat.le_trans ih hlawful.length_le

/-- An operation keeps its purpose and its message. -/
theorem keeps (h : Execution start steps last) {operation later : Operation}
    (hoperation : start.operations[index]? = some operation)
    (hlater : last.operations[index]? = some later) :
    later.purpose = operation.purpose ∧ later.request = operation.request := by
  induction h generalizing later with
  | refl =>
    obtain rfl := Option.some.inj (hoperation.symm.trans hlater)
    exact ⟨rfl, rfl⟩
  | snoc hsteps hlawful ih =>
    rcases hlawful.operation_cases hlater with
      ⟨purpose, request, -, hindex, -⟩ | ⟨hold, -⟩ |
      ⟨signal, old, reaction, -, hold, hreacts, -, -, rfl⟩
    · have hlt := (List.getElem?_eq_some_iff.1 hoperation).1
      have := hsteps.length_le
      omega
    · exact ih hold
    · rw [hreacts.purpose_eq, hreacts.request_eq]
      exact ih hold

/-- Whenever an operation is signalled, it is there for what it was begun for. -/
theorem of_signal {front back : List Step} {step : Step}
    (h : Execution {} (front ++ step :: back) last) {purpose : Purpose} {request : Message}
    (hbegun : ∃ begin ∈ front ++ step :: back, begin.Begins index purpose request)
    {signal : Signal} (hevent : step.event = .signal index signal) {operation : Operation}
    (hoperation : step.before.operations[index]? = some operation) :
    operation.purpose = purpose ∧ operation.request = request := by
  obtain ⟨hfront, hlawful, hback⟩ := h.of_append_cons
  obtain ⟨opening, hopening, hbegins, hlength⟩ := hbegun
  have hlt := hlawful.lt_of_signal hevent
  rcases List.mem_append.1 hopening with hmem | hmem
  · obtain ⟨first, second, rfl⟩ := List.append_of_mem hmem
    obtain ⟨-, hbeginning, hrest⟩ := hfront.of_append_cons
    have hnew := hbeginning.new_of_begins ⟨hbegins, hlength⟩
    simpa using hrest.keeps hnew hoperation
  · exfalso
    rcases List.mem_cons.1 hmem with rfl | hlate
    · rw [hbegins] at hevent
      contradiction
    · -- The operation would be begun when it is there already.
      obtain ⟨first, second, rfl⟩ := List.append_of_mem hlate
      have := hback.of_append_cons.1.length_le
      have := hlawful.length_le
      omega

end Execution

/-! ## What an operation does -/

namespace Step

variable {step : Step} {index : Nat}

theorem deed?_of_canceller? (h : step.canceller? = some index) :
    step.deed? = some (index, .call DeviceRequest.cancel.message) := by
  unfold canceller? at h
  split at h
  · rename_i other message hevent heffect
    split at h
    · rename_i hmessage
      obtain rfl := Option.some.inj h
      simp [deed?, hevent, heffect, hmessage]
    · contradiction
  · contradiction

/-- A step that signals an operation is one of its transitions. -/
theorem IsLawful.reacts_of_signal (h : step.IsLawful) {signal : Signal}
    (hevent : step.event = .signal index signal) :
    ∃ operation reaction, Reacts operation step.before.slot signal reaction ∧
      step.deed? = reaction.effect.map (index, ·) := by
  rcases h.cases with
    ⟨_, _, hbegin, -⟩ | ⟨other, sent, operation, reaction, hsignal, -, hreacts, heffect, -⟩
  · rw [hevent] at hbegin
    contradiction
  · obtain ⟨rfl, rfl⟩ := Event.signal.inj (hevent.symm.trans hsignal)
    exact ⟨operation, reaction, hreacts, by simp [deed?, hevent, heffect]⟩

/-- An operation that looks at the slot while it is held sends a Cancel request. -/
theorem IsLawful.cancels_of_held (h : step.IsLawful)
    (hevent : step.event = .signal index .start) (hheld : step.before.slot.holder ≠ none) :
    step.deed? = some (index, .call DeviceRequest.cancel.message) := by
  obtain ⟨operation, reaction, hreacts, hdeed⟩ := h.reacts_of_signal hevent
  cases hreacts with
  | takeFree _ hfree => exact absurd hfree hheld
  | preempt => exact hdeed

/-- An operation that notices that it has been given up disconnects the device. -/
theorem IsLawful.disconnects_of_notice (h : step.IsLawful)
    (hevent : step.event = .signal index .notice) : step.deed? = some (index, .disconnect) := by
  obtain ⟨operation, reaction, hreacts, hdeed⟩ := h.reacts_of_signal hevent
  cases hreacts with
  | notice => exact hdeed

end Step

/-- What is known of an operation: its drive has no other messages than its own, and it has been
given up only if somebody has done so. -/
structure Conduct (index : Nat) (steps : List Step) (operation : Operation) : Prop where
  ready : ∀ message, operation.drive = .ready message →
    message = operation.request ∨ message = DeviceRequest.acknowledgeButton.message
  fired : operation.fired = true →
    ∃ step ∈ steps, step.event = .signal index .abandon ∨ step.event = .signal index .fire

/-- A step that gives the drive no message, and fires nothing, changes nothing. -/
theorem Conduct.snoc {index : Nat} {steps : List Step} {old new : Operation}
    (h : Conduct index steps old) (step : Step) (hrequest : new.request = old.request)
    (hdrive : new.drive = old.drive ∨ ∀ message, new.drive ≠ .ready message)
    (hfired : new.fired = old.fired) : Conduct index (steps ++ [step]) new := by
  constructor
  · intro message hready
    rw [hrequest]
    rcases hdrive with hsame | hnone
    · exact h.ready message (hsame ▸ hready)
    · exact absurd hready (hnone message)
  · intro hnow
    obtain ⟨earlier, hearlier, hevent⟩ := h.fired (hfired ▸ hnow)
    exact ⟨earlier, List.mem_append_left _ hearlier, hevent⟩

theorem Operation.takeSlot_drive (operation : Operation) (slot : Slot) :
    (operation.takeSlot slot).operation.drive = operation.drive ∨
      (operation.takeSlot slot).operation.drive = .ready operation.request := by
  unfold takeSlot
  cases operation.purpose with
  | acquire => exact Or.inl rfl
  | supervised | run => exact Or.inr rfl

@[simp] theorem Operation.takeSlot_fired (operation : Operation) (slot : Slot) :
    (operation.takeSlot slot).operation.fired = operation.fired := by
  unfold takeSlot
  cases operation.purpose <;> rfl

/-- The only message that follows a reply is an acknowledgement. -/
theorem Operation.Drive.eq_acknowledgement {reply : Except DeviceError Message} {message : Message}
    (h : Drive.after reply = .ready message) :
    message = DeviceRequest.acknowledgeButton.message := by
  unfold Drive.after at h
  split at h
  · contradiction
  · split at h
    · exact (Drive.ready.inj h).symm
    · contradiction

namespace Execution

variable {steps : List Step} {last : State} {index : Nat} {purpose : Purpose} {request : Message}

theorem conduct (h : Execution {} steps last) {operation : Operation}
    (hoperation : last.operations[index]? = some operation) : Conduct index steps operation := by
  refine h.operation_induction (Conduct index) ?_ ?_ ?_ hoperation
  · intro steps step purpose request _ _ _ _
    constructor
    · intro message hready
      unfold Operation.new at hready ⊢
      split at hready
      · contradiction
      · contradiction
      · exact Or.inl (Drive.ready.inj hready).symm
      · exact Or.inl (Drive.ready.inj hready).symm
    · intro hfired
      unfold Operation.new at hfired
      split at hfired <;> contradiction
  · intro steps step operation _ _ _ ih
    exact ih.snoc step rfl (Or.inl rfl) rfl
  · intro steps step signal operation reaction _ _ hevent hreacts _ _ ih
    have hkept : Conduct index (steps ++ [step]) operation := ih.snoc step rfl (Or.inl rfl) rfl
    cases hreacts with
    | takeFree | takeOver =>
      refine ⟨fun message hready => ?_, fun hfired => hkept.fired (by simpa using hfired)⟩
      rw [Operation.takeSlot_request]
      rcases operation.takeSlot_drive step.before.slot with hsame | hnew
      · exact ih.ready message (hsame ▸ hready)
      · rw [hnew] at hready
        exact Or.inl (Drive.ready.inj hready).symm
    | hear reply =>
      exact ⟨fun message hready => Or.inr (Operation.Drive.eq_acknowledgement hready),
        hkept.fired⟩
    | send => exact ih.snoc step rfl (Or.inr (by simp)) rfl
    | fire => exact ⟨ih.ready, fun _ => ⟨step, by simp, Or.inr hevent⟩⟩
    | giveUp => exact ⟨ih.ready, fun _ => ⟨step, by simp, Or.inl hevent⟩⟩
    | preempt | fail | settle | notice | tearDown | tearDownFailing | detach | release
    | dropGuard =>
      exact ih.snoc step rfl (Or.inl rfl) rfl

/-- A call of an operation is a Cancel request, because it finds the slot held, or is the message
that it is there for, or an acknowledgement. -/
theorem of_call (h : Execution {} steps last)
    (hbegun : ∃ begin ∈ steps, begin.Begins index purpose request) {step : Step}
    (hstep : step ∈ steps) {message : Message} (hcall : step.deed? = some (index, .call message)) :
    step.event = .signal index .start ∧ step.before.slot.holder ≠ none ∧
        message = DeviceRequest.cancel.message ∨
      message ∈ [request, DeviceRequest.acknowledgeButton.message] := by
  obtain ⟨front, back, rfl⟩ := List.append_of_mem hstep
  obtain ⟨hfront, hlawful, -⟩ := h.of_append_cons
  obtain ⟨signal, operation, reaction, hevent, hoperation, hreacts, heffect⟩ :=
    hlawful.of_deed hcall
  rcases hreacts.of_call heffect with ⟨rfl, hheld, hmessage⟩ | ⟨rfl, hready⟩
  · exact Or.inl ⟨hevent, hheld, hmessage⟩
  · obtain ⟨-, rfl⟩ := h.of_signal hbegun hevent hoperation
    refine Or.inr ?_
    simpa using (hfront.conduct hoperation).ready message hready

/-- Before an operation notices that it has been given up, somebody has done so. -/
theorem given_up_of_notice (h : Execution {} steps last) {step : Step} (hstep : step ∈ steps)
    (hevent : step.event = .signal index .notice) :
    ∃ earlier ∈ steps,
      earlier.event = .signal index .abandon ∨ earlier.event = .signal index .fire := by
  obtain ⟨front, back, rfl⟩ := List.append_of_mem hstep
  obtain ⟨hfront, hlawful, -⟩ := h.of_append_cons
  obtain ⟨signal, operation, reaction, hsignal, hoperation, hreacts, heffect⟩ :=
    hlawful.of_deed (hlawful.disconnects_of_notice hevent)
  obtain ⟨-, hfired⟩ := hreacts.of_disconnect heffect
  obtain ⟨earlier, hearlier, hgiven⟩ := (hfront.conduct hoperation).fired hfired
  exact ⟨earlier, List.mem_append_left _ hearlier, hgiven⟩

/-- An operation that takes the slot from its holder has found it held before. -/
theorem found_held_of_taker (h : Execution {} steps last) {step : Step} (hstep : step ∈ steps)
    (htake : step.taker? = some index) (hheld : step.before.slot.holder ≠ none) :
    ∃ earlier ∈ steps,
      earlier.event = .signal index .start ∧ earlier.before.slot.holder ≠ none := by
  obtain ⟨front, back, rfl⟩ := List.append_of_mem hstep
  obtain ⟨hfront, hlawful, -⟩ := h.of_append_cons
  obtain ⟨-, signal, operation, -, hoperation, -, hwas⟩ := hlawful.of_taker? htake
  obtain ⟨hstage, -⟩ := hwas.resolve_left fun hfree => hheld hfree.2
  obtain ⟨before, cancel, after, honce⟩ := (hfront.cancelRecord hoperation).preempting hstage
  have hevent := Step.event_of_canceller? honce.sent
  obtain ⟨-, hcancelled, -⟩ := (honce.split ▸ hfront).of_append_cons
  refine ⟨cancel, by simp [honce.split], hevent, ?_⟩
  -- The effect of the step is a call, and on a free slot there would be none.
  obtain ⟨signal, operation, reaction, hsignal, -, hreacts, heffect⟩ :=
    hcancelled.of_deed (Step.deed?_of_canceller? honce.sent)
  rcases hreacts.of_call heffect with ⟨-, hwas, -⟩ | ⟨rfl, -⟩
  · exact hwas
  · simp [hevent] at hsignal

/-- An operation disturbs the others exactly when it finds the slot held, or notices that it has
been given up. -/
theorem disturbs_iff (h : Execution {} steps last)
    (hbegun : ∃ begin ∈ steps, begin.Begins index purpose request)
    (hrequest : request ≠ DeviceRequest.cancel.message) :
    (∃ step ∈ steps, step.Disturbs index [request, DeviceRequest.acknowledgeButton.message]) ↔
      (∃ step ∈ steps, step.event = .signal index .start ∧ step.before.slot.holder ≠ none) ∨
        ∃ step ∈ steps, step.event = .signal index .notice := by
  have hlawful : ∀ step ∈ steps, step.IsLawful := by
    intro step hstep
    obtain ⟨front, back, rfl⟩ := List.append_of_mem hstep
    exact h.of_append_cons.2.1
  constructor
  · rintro ⟨step, hstep, ⟨message, hcall, hforeign⟩ | hdisconnect | ⟨htake, hheld⟩⟩
    · rcases h.of_call hbegun hstep hcall with ⟨hevent, hheld, -⟩ | hown
      · exact Or.inl ⟨step, hstep, hevent, hheld⟩
      · exact absurd hown hforeign
    · obtain ⟨signal, operation, reaction, hevent, -, hreacts, heffect⟩ :=
        (hlawful step hstep).of_deed hdisconnect
      obtain ⟨rfl, -⟩ := hreacts.of_disconnect heffect
      exact Or.inr ⟨step, hstep, hevent⟩
    · exact Or.inl (h.found_held_of_taker hstep htake hheld)
  · rintro (⟨step, hstep, hevent, hheld⟩ | ⟨step, hstep, hevent⟩)
    · refine ⟨step, hstep, Or.inl ⟨_, (hlawful step hstep).cancels_of_held hevent hheld, ?_⟩⟩
      have hack : DeviceRequest.cancel.message ≠ DeviceRequest.acknowledgeButton.message := by
        decide
      simp [hack, hrequest.symm]
    · exact ⟨step, hstep, Or.inr (Or.inl ((hlawful step hstep).disconnects_of_notice hevent))⟩

end Execution

end WalletGateway.Access
