import WalletGateway.Access.Operation

/-!
# What an operation can do

`Operation.react` says what a signal does to an operation.  `Reacts` lists the same transitions as a
relation, one constructor for each of them, with the condition under which it happens; `reacts` says
that there are no others.  A proof about all operations goes through the constructors and does not
open `react`.

For the proofs about the slot, `Reacts.slot_cases` says what can happen to the slot and to the guard
of the operation, and `Reacts.of_slot_eq_take` who takes the slot.
-/

namespace WalletGateway.Access

/-! ## Two ways in which an operation goes on -/

namespace Operation

@[simp] theorem takeSlot_slot (operation : Operation) (slot : Slot) :
    (operation.takeSlot slot).slot = slot.take.2 := by
  unfold takeSlot
  cases operation.purpose <;> rfl

@[simp] theorem takeSlot_guard (operation : Operation) (slot : Slot) :
    (operation.takeSlot slot).operation.guard = some slot.take.1 := by
  unfold takeSlot
  cases operation.purpose <;> rfl

@[simp] theorem takeSlot_purpose (operation : Operation) (slot : Slot) :
    (operation.takeSlot slot).operation.purpose = operation.purpose := by
  unfold takeSlot
  cases operation.purpose <;> rfl

theorem takeSlot_stage (operation : Operation) (slot : Slot) :
    (operation.takeSlot slot).operation.stage
      = if operation.purpose = .acquire then .ended else .driving := by
  unfold takeSlot
  cases operation.purpose <;> rfl

@[simp] theorem finish_operation (operation : Operation) (slot : Slot) (outcome : Outcome) :
    (operation.finish slot outcome).operation = { operation with stage := .ended, guard := none } :=
  rfl

theorem finish_slot (operation : Operation) (slot : Slot) (outcome : Outcome) :
    (operation.finish slot outcome).slot = (operation.guard.map slot.giveBack).getD slot :=
  rfl

end Operation

/-! ## The transitions -/

/-- The transitions of an operation, with their conditions. -/
inductive Reacts (operation : Operation) (slot : Slot) : Signal → Reaction → Prop where
  /-- The slot is free and is taken at once. -/
  | takeFree (hstage : operation.stage = .waiting) (hfree : slot.holder = none) :
      Reacts operation slot .start (operation.takeSlot slot)
  /-- The slot is held, and the holder's device is asked to give up. -/
  | preempt (hstage : operation.stage = .waiting) (hheld : slot.holder ≠ none) :
      Reacts operation slot .start
        ⟨slot, { operation with stage := .preempting }, some (.call DeviceRequest.cancel.message)⟩
  /-- The Cancel request is answered, and the slot is taken whoever holds it. -/
  | takeOver (reply : Message) (hstage : operation.stage = .preempting) :
      Reacts operation slot (.answer (.ok reply)) (operation.takeSlot slot)
  /-- The Cancel request fails. -/
  | fail (error : DeviceError) (hstage : operation.stage = .preempting) :
      Reacts operation slot (.answer (.error error))
        (operation.finish slot (.result (.error error)))
  /-- The drive hears the device. -/
  | hear (reply : Except DeviceError Message) (hstage : operation.stage ≠ .preempting)
      (hdrive : operation.drive = .awaiting) :
      Reacts operation slot (.answer reply)
        ⟨slot, { operation with drive := Operation.Drive.after reply }, none⟩
  /-- The drive sends its message. -/
  | send (message : Message) (hdrive : operation.drive = .ready message) :
      Reacts operation slot .send
        ⟨slot, { operation with drive := .awaiting }, some (.call message)⟩
  /-- The drive is over, and with it the operation. -/
  | settle (result : Except DeviceError Resolution) (hstage : operation.stage = .driving)
      (hdrive : operation.drive = .resolved result) :
      Reacts operation slot .settle (operation.finish slot (.result result))
  /-- The operation notes that it has been given up. -/
  | notice (hfired : operation.fired = true)
      (hstage : operation.stage ∈ [Stage.waiting, .preempting, .driving]) :
      Reacts operation slot .notice
        ⟨slot, { operation with stage := .disconnecting }, some .disconnect⟩
  /-- The device is disconnected, and the operation is torn down. -/
  | tearDown (hstage : operation.stage = .disconnecting) :
      Reacts operation slot (.disconnected (.ok ()))
        (operation.finish slot (.result (.error .clientClosed)))
  /-- The device cannot be disconnected, and the operation is torn down all the same. -/
  | tearDownFailing (error : DeviceError) (hstage : operation.stage = .disconnecting) :
      Reacts operation slot (.disconnected (.error error))
        (operation.finish slot (.result (.error error)))
  /-- The token fires. -/
  | fire (hpurpose : ∀ serialized, operation.purpose ≠ .supervised serialized) :
      Reacts operation slot .fire ⟨slot, { operation with fired := true }, none⟩
  /-- The caller goes away, and the operation is given up. -/
  | giveUp (serialized : Bool) (hpurpose : operation.purpose = .supervised serialized)
      (hattended : operation.attended = true) (hstage : operation.stage ≠ .ended) :
      Reacts operation slot .abandon
        ⟨slot, { operation with attended := false, fired := true }, none⟩
  /-- The caller goes away, and takes the supervision with it. -/
  | detach (hpurpose : ∀ serialized, operation.purpose ≠ .supervised serialized)
      (hattended : operation.attended = true) (hstage : operation.stage ≠ .ended) :
      Reacts operation slot .abandon
        ⟨slot, { operation with attended := false, stage := .ended }, none⟩
  /-- The guard is released and kept. -/
  | release (guard : Guard) (hpurpose : operation.purpose = .acquire)
      (hguard : operation.guard = some guard) :
      Reacts operation slot .release
        ⟨slot.giveBack guard,
          { operation with guard := some { guard with released := true } }, none⟩
  /-- The guard is dropped. -/
  | dropGuard (guard : Guard) (hpurpose : operation.purpose = .acquire)
      (hguard : operation.guard = some guard) :
      Reacts operation slot .dropGuard
        ⟨slot.giveBack guard, { operation with guard := none }, none⟩

/-- There are no other transitions. -/
theorem reacts {operation : Operation} {slot : Slot} {signal : Signal} {reaction : Reaction}
    (h : operation.react slot signal = some reaction) : Reacts operation slot signal reaction := by
  cases signal with
  | start =>
    simp only [Operation.react] at h
    split at h
    · contradiction
    · rename_i hstage
      simp only [ne_eq, Decidable.not_not] at hstage
      split at h <;> obtain rfl := Option.some.inj h
      · rename_i hfree
        exact .takeFree hstage (by simpa [Slot.isFree] using hfree)
      · rename_i hheld
        exact .preempt hstage (by simpa [Slot.isFree] using hheld)
  | answer reply =>
    simp only [Operation.react] at h
    split at h
    · rename_i hstage
      cases reply <;> obtain rfl := Option.some.inj h
      · exact .fail _ hstage
      · exact .takeOver _ hstage
    · rename_i hstage
      split at h
      · rename_i hdrive
        obtain rfl := Option.some.inj h
        exact .hear reply hstage hdrive
      · contradiction
  | send =>
    simp only [Operation.react] at h
    split at h
    · rename_i message hdrive
      obtain rfl := Option.some.inj h
      exact .send message hdrive
    · contradiction
  | settle =>
    simp only [Operation.react] at h
    split at h
    · rename_i result hstage hdrive
      obtain rfl := Option.some.inj h
      exact .settle result hstage hdrive
    · contradiction
  | fire =>
    simp only [Operation.react] at h
    split at h
    · contradiction
    · rename_i hpurpose
      obtain rfl := Option.some.inj h
      exact .fire hpurpose
  | notice =>
    simp only [Operation.react] at h
    split at h
    · rename_i hgiven
      obtain rfl := Option.some.inj h
      exact .notice hgiven.1 hgiven.2
    · contradiction
  | disconnected result =>
    simp only [Operation.react] at h
    split at h
    · contradiction
    · rename_i hstage
      simp only [ne_eq, Decidable.not_not] at hstage
      cases result <;> obtain rfl := Option.some.inj h
      · exact .tearDownFailing _ hstage
      · exact .tearDown hstage
  | abandon =>
    simp only [Operation.react] at h
    split at h
    · contradiction
    · rename_i hgoing
      simp only [Bool.not_eq_true', not_or, Bool.not_eq_false] at hgoing
      split at h <;> obtain rfl := Option.some.inj h
      · rename_i serialized hpurpose
        exact .giveUp serialized hpurpose hgoing.1 hgoing.2
      · rename_i hpurpose
        exact .detach hpurpose hgoing.1 hgoing.2
  | release =>
    simp only [Operation.react] at h
    split at h
    · rename_i guard hpurpose hguard
      obtain rfl := Option.some.inj h
      exact .release guard hpurpose hguard
    · contradiction
  | dropGuard =>
    simp only [Operation.react] at h
    split at h
    · rename_i guard hpurpose hguard
      obtain rfl := Option.some.inj h
      exact .dropGuard guard hpurpose hguard
    · contradiction

/-! ## The slot -/

theorem Slot.take_next_ne (slot : Slot) : slot.take.2.next ≠ slot.next := by
  intro h
  have hnext := congrArg UInt64.toNat h
  have hlt := slot.next.toNat_lt
  simp only [Slot.take, UInt64.toNat_add, UInt64.toNat_one] at hnext
  omega

theorem Slot.giveBack_next (slot : Slot) (guard : Guard) :
    (slot.giveBack guard).next = slot.next := by
  unfold Slot.giveBack
  split <;> rfl

theorem Slot.giveBack_holder (slot : Slot) (guard : Guard) :
    (slot.giveBack guard).holder = slot.holder ∨
      (slot.giveBack guard).holder = none ∧ guard.released = false ∧
        slot.holder = some guard.id := by
  unfold Slot.giveBack
  split
  · rename_i h
    simp only [Bool.and_eq_true, Bool.not_eq_true', beq_iff_eq] at h
    exact Or.inr ⟨rfl, h⟩
  · exact Or.inl rfl

/-- The three things that can happen to the slot and to the guard of the operation: nothing, the
slot is taken with a new guard, or the guard is given back. -/
theorem Reacts.slot_cases {operation : Operation} {slot : Slot} {signal : Signal}
    {reaction : Reaction} (h : Reacts operation slot signal reaction) :
    reaction.slot = slot ∧ reaction.operation.guard = operation.guard ∨
      reaction.slot = slot.take.2 ∧ reaction.operation.guard = some slot.take.1 ∨
      ∃ guard, operation.guard = some guard ∧ reaction.slot = slot.giveBack guard ∧
        (reaction.operation.guard = none ∨
          reaction.operation.guard = some { guard with released := true }) := by
  have hfinish : ∀ outcome, (operation.finish slot outcome).slot = slot ∧ operation.guard = none ∨
      ∃ guard, operation.guard = some guard ∧
        (operation.finish slot outcome).slot = slot.giveBack guard := by
    intro outcome
    cases hguard : operation.guard with
    | none => exact Or.inl ⟨by simp [Operation.finish_slot, hguard], rfl⟩
    | some guard => exact Or.inr ⟨guard, rfl, by simp [Operation.finish_slot, hguard]⟩
  cases h with
  | takeFree | takeOver => exact Or.inr (Or.inl ⟨by simp, by simp⟩)
  | preempt | hear | send | notice | fire | giveUp | detach => exact Or.inl ⟨rfl, rfl⟩
  | fail | settle | tearDown | tearDownFailing =>
    rcases hfinish _ with ⟨hslot, hguard⟩ | ⟨guard, hguard, hslot⟩
    · exact Or.inl ⟨hslot, hguard.symm⟩
    · exact Or.inr (Or.inr ⟨guard, hguard, hslot, Or.inl rfl⟩)
  | release guard _ hguard => exact Or.inr (Or.inr ⟨guard, hguard, rfl, Or.inr rfl⟩)
  | dropGuard guard _ hguard => exact Or.inr (Or.inr ⟨guard, hguard, rfl, Or.inl rfl⟩)

/-- The slot is taken only by an operation that finds it free, or whose Cancel request is
answered. -/
theorem Reacts.of_slot_eq_take {operation : Operation} {slot : Slot} {signal : Signal}
    {reaction : Reaction} (h : Reacts operation slot signal reaction)
    (htake : reaction.slot = slot.take.2) :
    reaction = operation.takeSlot slot ∧
      (operation.stage = .waiting ∧ slot.holder = none ∨
        operation.stage = .preempting ∧ ∃ reply, signal = .answer (.ok reply)) := by
  have hkeep : reaction.slot.next ≠ slot.next := by
    rw [htake]
    exact slot.take_next_ne
  have hback : ∀ guard, reaction.slot ≠ slot.giveBack guard := fun guard hslot =>
    hkeep (hslot ▸ slot.giveBack_next guard)
  have hfinish : ∀ outcome, reaction ≠ operation.finish slot outcome := by
    rintro outcome rfl
    cases hguard : operation.guard with
    | none => exact hkeep (by simp [Operation.finish_slot, hguard])
    | some guard => exact hback guard (by simp [Operation.finish_slot, hguard])
  cases h with
  | takeFree hstage hfree => exact ⟨rfl, Or.inl ⟨hstage, hfree⟩⟩
  | takeOver reply hstage => exact ⟨rfl, Or.inr ⟨hstage, reply, rfl⟩⟩
  | preempt | hear | send | notice | fire | giveUp | detach => exact absurd rfl hkeep
  | fail | settle | tearDown | tearDownFailing => exact absurd rfl (hfinish _)
  | release guard | dropGuard guard => exact absurd rfl (hback guard)

end WalletGateway.Access
