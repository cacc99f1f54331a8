import WalletGateway.Proofs.Access.Settling

/-!
# Still states

A state is still when no operation can go on of its own: all of them wait for the device, for their
callers, or for nothing any more.  It is quiescent when no disconnection is under way either.

Settling ends in a still state (`Rehearsal.settle_isStill`).
-/

namespace WalletGateway.Access

/-- The operation cannot go on of its own. -/
def Operation.IsStill (operation : Operation) (slot : Slot) : Prop :=
  ∀ signal ∈ Rehearsal.ownSignals, operation.react slot signal = none

/-- No operation can go on of its own. -/
def State.IsStill (state : State) : Prop :=
  ∀ operation ∈ state.operations, operation.IsStill state.slot

/-- No operation can go on of its own, and none disconnects the device. -/
structure State.IsQuiescent (state : State) : Prop where
  still : state.IsStill
  connected : ∀ operation ∈ state.operations, operation.stage ≠ .disconnecting

instance (operation : Operation) (slot : Slot) : Decidable (operation.IsStill slot) :=
  decidable_of_iff (Rehearsal.ownSignals.all fun signal => (operation.react slot signal).isNone)
    (by simp [Operation.IsStill])

instance (state : State) : Decidable state.IsStill :=
  inferInstanceAs (Decidable (∀ operation ∈ state.operations, operation.IsStill state.slot))

namespace Operation.IsStill

variable {operation : Operation} {slot : Slot}

/-- It has looked at the slot. -/
theorem stage_ne_waiting (h : operation.IsStill slot) : operation.stage ≠ .waiting := by
  intro hstage
  have hreact := h .start (by simp [Rehearsal.ownSignals])
  simp only [react, hstage, ne_eq, not_true_eq_false, if_false] at hreact
  split at hreact <;> contradiction

/-- Every message has been sent. -/
theorem drive_ne_ready (h : operation.IsStill slot) (message : Message) :
    operation.drive ≠ .ready message := by
  intro hdrive
  have hreact := h .send (by simp [Rehearsal.ownSignals])
  simp [react, hdrive] at hreact

/-- Where the drive is over, the operation has ended. -/
theorem drive_ne_resolved (h : operation.IsStill slot) (hstage : operation.stage = .driving)
    (result : Except DeviceError Resolution) : operation.drive ≠ .resolved result := by
  intro hdrive
  have hreact := h .settle (by simp [Rehearsal.ownSignals])
  simp [react, hstage, hdrive] at hreact

/-- An operation that has been given up has noticed it. -/
theorem stage_of_fired (h : operation.IsStill slot) (hfired : operation.fired = true) :
    operation.stage = .disconnecting ∨ operation.stage = .ended := by
  have hreact := h .notice (by simp [Rehearsal.ownSignals])
  cases hstage : operation.stage <;> simp [react, hfired, hstage] at hreact ⊢

end Operation.IsStill

namespace Rehearsal

/-- A rehearsal that waits is still. -/
theorem isStill_of_step?_eq_none {rehearsal : Rehearsal} (h : rehearsal.step? = none) :
    rehearsal.state.IsStill := by
  intro operation hmem signal hown
  obtain ⟨index, hlt, hindex⟩ := List.getElem_of_mem hmem
  have hfound : rehearsal.state.operations[index]? = some operation := by
    rw [List.getElem?_eq_getElem hlt, hindex]
  have hsteps : rehearsal.ownStep? = none := by
    unfold step? at h
    split at h
    · contradiction
    · exact h
  have hsignal : rehearsal.signal? index signal = none :=
    List.findSome?_eq_none_iff.1
      (List.findSome?_eq_none_iff.1 hsteps index (List.mem_range.2 hlt)) signal hown
  have hstep := step_of_signal?_eq_none hsignal
  simp only [State.step, hfound] at hstep
  split at hstep
  · assumption
  · contradiction

/-- Settling ends in a still state. -/
theorem settle_isStill (rehearsal : Rehearsal) : rehearsal.settle.state.IsStill :=
  isStill_of_step?_eq_none rehearsal.step?_settle

end Rehearsal

end WalletGateway.Access
