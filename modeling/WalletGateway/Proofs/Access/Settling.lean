import WalletGateway.Access.Rehearsal
import WalletGateway.Proofs.Access.Deed

/-!
# Settling takes lawful steps

A rehearsal lets operations go on until all of them wait.  Each time it does what one step of an
execution says: `Rehearsal.Evolves` compares the two, with what is told, sent and disconnected on
the way, and `Rehearsal.settle_evolves` says that settling is such a course of steps.
-/

namespace WalletGateway.Access

/-- An operation goes on, of its own or because the device has answered. -/
def Step.IsInner (step : Step) : Prop :=
  ∃ index signal, step.event = .signal index signal ∧ signal.isInner = true

theorem Execution.of_nil {start last : State} (h : Execution start [] last) : last = start := by
  generalize hsteps : ([] : List Step) = steps at h
  cases h with
  | refl => rfl
  | snoc => simp at hsteps

theorem Execution.of_singleton {start last : State} {step : Step}
    (h : Execution start [step] last) :
    step.before = start ∧ step.IsLawful ∧ last = step.after := by
  have hsnoc : Execution start ([] ++ [step]) last := h
  obtain ⟨hbefore, hlawful, hlast⟩ := hsnoc.of_snoc
  exact ⟨hbefore.of_nil, hlawful, hlast⟩

namespace Rehearsal

/-- One rehearsal comes from another by some steps. -/
structure Evolves (first : Rehearsal) (steps : List Step) (last : Rehearsal) : Prop where
  execution : Execution first.state steps last.state
  delivered : last.delivered = told steps ++ first.delivered
  sent : last.device.sent = (sent steps).reverse ++ first.device.sent
  disconnects : last.device.disconnects = first.device.disconnects + disconnects steps

theorem Evolves.refl (rehearsal : Rehearsal) : rehearsal.Evolves [] rehearsal where
  execution := .refl
  delivered := rfl
  sent := rfl
  disconnects := rfl

theorem Evolves.trans {first middle last : Rehearsal} {steps later : List Step}
    (h : first.Evolves steps middle) (h' : middle.Evolves later last) :
    first.Evolves (steps ++ later) last where
  execution := h.execution.append h'.execution
  delivered := by simp [h'.delivered, h.delivered]
  sent := by simp [h'.sent, h.sent]
  disconnects := by simp [h'.disconnects, h.disconnects, Nat.add_assoc]

/-! ## One signal -/

section

variable (rehearsal : Rehearsal) (index : Nat) (effect : Effect)

@[simp] theorem perform_state : (rehearsal.perform index effect).state = rehearsal.state := by
  cases effect <;> rfl

theorem perform_delivered : (rehearsal.perform index effect).delivered
    = (effect.told?.map (index, ·)).toList ++ rehearsal.delivered := by
  cases effect <;> rfl

theorem perform_sent : (rehearsal.perform index effect).device.sent
    = effect.sent?.toList ++ rehearsal.device.sent := by
  cases effect with
  | call message =>
    simp only [perform, ScriptedDevice.call]
    split <;> rfl
  | disconnect => rfl
  | deliver => rfl

theorem perform_disconnects : (rehearsal.perform index effect).device.disconnects
    = rehearsal.device.disconnects + if effect matches .disconnect then 1 else 0 := by
  cases effect with
  | call message =>
    simp only [perform, ScriptedDevice.call]
    split <;> rfl
  | disconnect => rfl
  | deliver => rfl

/-- What a device says at once is an answer. -/
theorem perform_due {due : Nat × Signal} (hdue : (rehearsal.perform index effect).due = some due) :
    due.2.isInner = true ∨ rehearsal.due = some due := by
  cases effect with
  | call message =>
    simp only [perform, Option.map_eq_some_iff] at hdue
    obtain ⟨reply, -, rfl⟩ := hdue
    exact Or.inl rfl
  | disconnect =>
    obtain rfl := Option.some.inj hdue
    exact Or.inl rfl
  | deliver => exact Or.inr hdue

end

/-- What the device has to say at once is an answer. -/
def IsDueInner (rehearsal : Rehearsal) : Prop :=
  ∀ due, rehearsal.due = some due → due.2.isInner = true

/-- A signal that can occur is one step. -/
theorem evolves_signal? {rehearsal next : Rehearsal} {index : Nat} {signal : Signal}
    (h : rehearsal.signal? index signal = some next) :
    ∃ step : Step, step.event = .signal index signal ∧ rehearsal.Evolves [step] next ∧
      (rehearsal.IsDueInner → next.IsDueInner) := by
  simp only [signal?] at h
  split at h
  · contradiction
  · rename_i state effect hstep
    obtain rfl := Option.some.inj h
    refine ⟨⟨rehearsal.state, .signal index signal, effect, state⟩, rfl, ?_, ?_⟩
    · have hlawful : Step.IsLawful ⟨rehearsal.state, .signal index signal, effect, state⟩ := hstep
      have hone : Execution rehearsal.state ([] ++ [_]) state := .snoc .refl hlawful
      cases effect with
      | none => exact ⟨hone, rfl, rfl, rfl⟩
      | some effect =>
        refine ⟨by simpa using hone, ?_, ?_, ?_⟩
        · rw [Option.map_some, Option.getD_some, perform_delivered]
          cases effect <;> rfl
        · rw [Option.map_some, Option.getD_some, perform_sent]
          cases effect <;> rfl
        · rw [Option.map_some, Option.getD_some, perform_disconnects]
          cases effect <;> rfl
    · intro hdue due hnext
      cases effect with
      | none => exact hdue due hnext
      | some effect => exact (perform_due _ index effect hnext).elim id (hdue due)

theorem step_of_signal?_eq_none {rehearsal : Rehearsal} {index : Nat} {signal : Signal}
    (h : rehearsal.signal? index signal = none) :
    rehearsal.state.step (.signal index signal) = none := by
  simp only [signal?] at h
  split at h
  · assumption
  · contradiction

/-! ## Settling -/

theorem evolves_step? {rehearsal next : Rehearsal} (hdue : rehearsal.IsDueInner)
    (h : rehearsal.step? = some next) :
    ∃ steps : List Step, (∀ step ∈ steps, step.IsInner) ∧ rehearsal.Evolves steps next ∧
      next.IsDueInner := by
  simp only [step?] at h
  split at h
  · rename_i index signal hsays
    obtain rfl := Option.some.inj h
    -- Taking the answer from the device is not a step of its own.
    have hheard : rehearsal.Evolves [] { rehearsal with due := none } := ⟨.refl, rfl, rfl, rfl⟩
    cases hsignal : ({ rehearsal with due := none } : Rehearsal).signal? index signal with
    | none => exact ⟨[], by simp, hheard, by simp [IsDueInner]⟩
    | some next =>
      obtain ⟨step, hevent, hone, hnext⟩ := evolves_signal? hsignal
      refine ⟨[step], ?_, hheard.trans hone, hnext (by simp [IsDueInner])⟩
      intro other hother
      obtain rfl := List.mem_singleton.1 hother
      exact ⟨index, signal, hevent, hdue _ hsays⟩
  · obtain ⟨index, -, hindex⟩ := List.exists_of_findSome?_eq_some h
    obtain ⟨signal, hown, hsignal⟩ := List.exists_of_findSome?_eq_some hindex
    obtain ⟨step, hevent, hone, hnext⟩ := evolves_signal? hsignal
    refine ⟨[step], ?_, hone, hnext hdue⟩
    intro other hother
    obtain rfl := List.mem_singleton.1 hother
    refine ⟨index, signal, hevent, ?_⟩
    simp only [ownSignals, List.mem_cons, List.not_mem_nil, or_false] at hown
    rcases hown with rfl | rfl | rfl | rfl <;> rfl

theorem settle_of_step?_eq_none {rehearsal : Rehearsal} (h : rehearsal.step? = none) :
    rehearsal.settle = rehearsal := by
  rw [settle]
  split
  · rfl
  · rename_i next hnext
    rw [h] at hnext
    contradiction

theorem settle_of_step? {rehearsal next : Rehearsal} (h : rehearsal.step? = some next) :
    rehearsal.settle = next.settle := by
  rw [settle]
  split
  · rename_i hnone
    rw [h] at hnone
    contradiction
  · rename_i other hother
    rw [h] at hother
    rw [Option.some.inj hother]

/-- After settling everything waits. -/
theorem step?_settle (rehearsal : Rehearsal) : rehearsal.settle.step? = none := by
  induction rehearsal using settle.induct with
  | case1 rehearsal hnone =>
    rw [settle_of_step?_eq_none hnone]
    exact hnone
  | case2 rehearsal next hnext ih =>
    rw [settle_of_step? hnext]
    exact ih

theorem due_of_step?_eq_none {rehearsal : Rehearsal} (h : rehearsal.step? = none) :
    rehearsal.due = none := by
  by_contra hsays
  obtain ⟨due, hsome⟩ := Option.ne_none_iff_exists'.1 hsays
  simp [step?, hsome] at h

/-- Settling is a course of steps, after which the device has nothing more to say. -/
theorem evolves_settle {rehearsal : Rehearsal} (hdue : rehearsal.IsDueInner) :
    ∃ steps : List Step, (∀ step ∈ steps, step.IsInner) ∧
      rehearsal.Evolves steps rehearsal.settle ∧ rehearsal.settle.due = none := by
  have hquiet := due_of_step?_eq_none rehearsal.step?_settle
  induction rehearsal using settle.induct with
  | case1 rehearsal hnone =>
    rw [settle_of_step?_eq_none hnone] at hquiet ⊢
    exact ⟨[], by simp, .refl rehearsal, hquiet⟩
  | case2 rehearsal next hnext ih =>
    rw [settle_of_step? hnext] at hquiet ⊢
    obtain ⟨steps, hinner, hfirst, hdue'⟩ := evolves_step? hdue hnext
    obtain ⟨later, hinner', hsecond, -⟩ := ih hdue' hquiet
    refine ⟨steps ++ later, ?_, hfirst.trans hsecond, hquiet⟩
    intro step hstep
    exact (List.mem_append.1 hstep).elim (hinner step) (hinner' step)

end Rehearsal

end WalletGateway.Access
