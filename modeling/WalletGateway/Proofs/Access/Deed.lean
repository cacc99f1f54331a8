import WalletGateway.Proofs.Access.Execution

/-!
# What operations do to the world

A step of an execution may have an effect: a call of the device, its disconnection, or the outcome
that a caller is told.  `deeds` lists them, each with the operation that does it.

`Step.IsLawful.of_deed` leads from a deed back to the transition behind it, and the lemmas on
`Reacts` say when an operation calls the device, and when it disconnects it.
-/

namespace WalletGateway.Access

/-- Whether a signal comes from the device or from the operation itself, and not from the caller. -/
def Signal.isInner : Signal → Bool
  | start | answer _ | send | settle | notice | disconnected _ => true
  | fire | abandon | release | dropGuard => false

/-- What is sent to the device. -/
def Effect.sent? : Effect → Option Message
  | call message => some message
  | _ => none

/-- What the caller is told. -/
def Effect.told? : Effect → Option Outcome
  | deliver outcome => some outcome
  | _ => none

/-- What an operation does to the world in a step, and which operation it is. -/
def Step.deed? (step : Step) : Option (Nat × Effect) :=
  match step.event with
  | .begin .. => none
  | .signal index _ => step.effect.map (index, ·)

/-- All that operations do to the world, in order. -/
def deeds (steps : List Step) : List (Nat × Effect) :=
  steps.filterMap Step.deed?

/-- The messages that operations send, in order. -/
def sent (steps : List Step) : List Message :=
  (deeds steps).filterMap fun deed => deed.2.sent?

/-- How often the device is disconnected. -/
def disconnects (steps : List Step) : Nat :=
  (deeds steps).countP fun deed => deed.2 matches .disconnect

/-- What callers are told, the latest first. -/
def told (steps : List Step) : List (Nat × Outcome) :=
  ((deeds steps).filterMap fun deed => deed.2.told?.map (deed.1, ·)).reverse

@[simp] theorem deeds_nil : deeds [] = [] := rfl

@[simp] theorem deeds_append (first second : List Step) :
    deeds (first ++ second) = deeds first ++ deeds second :=
  List.filterMap_append

@[simp] theorem deeds_cons (step : Step) (steps : List Step) :
    deeds (step :: steps) = step.deed?.toList ++ deeds steps := by
  cases h : step.deed? <;> simp [deeds, h]

@[simp] theorem sent_nil : sent [] = [] := rfl

@[simp] theorem sent_append (first second : List Step) :
    sent (first ++ second) = sent first ++ sent second := by
  simp [sent]

@[simp] theorem disconnects_nil : disconnects [] = 0 := rfl

@[simp] theorem disconnects_append (first second : List Step) :
    disconnects (first ++ second) = disconnects first + disconnects second := by
  simp [disconnects]

@[simp] theorem told_nil : told [] = [] := rfl

@[simp] theorem told_append (first second : List Step) :
    told (first ++ second) = told second ++ told first := by
  simp [told]

/-- Behind every deed there is a transition of the operation that does it. -/
theorem Step.IsLawful.of_deed {step : Step} (h : step.IsLawful) {index : Nat} {effect : Effect}
    (hdeed : step.deed? = some (index, effect)) :
    ∃ signal operation reaction, step.event = .signal index signal ∧
      step.before.operations[index]? = some operation ∧
      Reacts operation step.before.slot signal reaction ∧ reaction.effect = some effect := by
  unfold Step.deed? at hdeed
  rcases h.cases with
    ⟨purpose, request, hevent, -⟩ |
    ⟨other, signal, operation, reaction, hevent, hold, hreacts, heffect, -⟩
  · simp [hevent] at hdeed
  · simp only [hevent, heffect, Option.map_eq_some_iff, Prod.mk.injEq] at hdeed
    obtain ⟨found, hfound, rfl, rfl⟩ := hdeed
    exact ⟨signal, operation, reaction, hevent, hold, hreacts, hfound⟩

/-- Only operations that there are do something. -/
theorem Execution.lt_of_deed {start last : State} {steps : List Step}
    (h : Execution start steps last) {index : Nat} {effect : Effect}
    (hdeed : (index, effect) ∈ deeds steps) : index < last.operations.length := by
  induction h with
  | refl => simp at hdeed
  | snoc _ hlawful ih =>
    have hle := hlawful.length_le
    rw [deeds_append, List.mem_append] at hdeed
    rcases hdeed with hold | hnew
    · have := ih hold
      omega
    · obtain ⟨signal, operation, reaction, -, hoperation, -⟩ :=
        hlawful.of_deed (by simpa using hnew)
      have := (List.getElem?_eq_some_iff.1 hoperation).1
      omega

theorem Operation.takeSlot_effect (operation : Operation) (slot : Slot) {effect : Effect}
    (h : (operation.takeSlot slot).effect = some effect) : effect = .deliver .acquired := by
  revert h
  unfold takeSlot
  cases operation.purpose <;> cases operation.attended <;> simp [eq_comm]

theorem Operation.finish_effect (operation : Operation) (slot : Slot) (outcome : Outcome)
    {effect : Effect} (h : (operation.finish slot outcome).effect = some effect) :
    effect = .deliver outcome := by
  revert h
  unfold finish
  cases operation.attended <;> simp [eq_comm]

/-- A call is a Cancel request to the holder of the slot, or the message of the drive. -/
theorem Reacts.of_call {operation : Operation} {slot : Slot} {signal : Signal}
    {reaction : Reaction} (h : Reacts operation slot signal reaction) {message : Message}
    (hcall : reaction.effect = some (.call message)) :
    signal = .start ∧ slot.holder ≠ none ∧ message = DeviceRequest.cancel.message ∨
      signal = .send ∧ operation.drive = .ready message := by
  cases h with
  | preempt hstage hheld =>
    obtain rfl : DeviceRequest.cancel.message = message := by simpa using hcall
    exact Or.inl ⟨rfl, hheld, rfl⟩
  | send other hdrive =>
    obtain rfl : other = message := by simpa using hcall
    exact Or.inr ⟨rfl, hdrive⟩
  | takeFree | takeOver => exact absurd (operation.takeSlot_effect slot hcall) (by simp)
  | fail | settle | tearDown | tearDownFailing =>
    exact absurd (operation.finish_effect slot _ hcall) (by simp)
  | notice => simp at hcall
  | hear | fire | giveUp | detach | release | dropGuard => contradiction

/-- Only an operation that has been given up disconnects the device. -/
theorem Reacts.of_disconnect {operation : Operation} {slot : Slot} {signal : Signal}
    {reaction : Reaction} (h : Reacts operation slot signal reaction)
    (hdisconnect : reaction.effect = some .disconnect) :
    signal = .notice ∧ operation.fired = true := by
  cases h with
  | notice hfired => exact ⟨rfl, hfired⟩
  | takeFree | takeOver => exact absurd (operation.takeSlot_effect slot hdisconnect) (by simp)
  | fail | settle | tearDown | tearDownFailing =>
    exact absurd (operation.finish_effect slot _ hdisconnect) (by simp)
  | preempt | send => simp at hdisconnect
  | hear | fire | giveUp | detach | release | dropGuard => contradiction

end WalletGateway.Access
