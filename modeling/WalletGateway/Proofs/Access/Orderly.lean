import WalletGateway.Proofs.Access.Stillness

/-!
# Orderly executions

An execution is orderly when every event finds all operations still: what goes on of its own has
gone on before.  The end of a disconnection is no event, and the answer to a call is none if it comes
before the operations stand still.

Rehearsals go about it in this way: after each event they settle.  `Rehearsal.IsOrderly` is what is
kept by all that can happen to one.
-/

namespace WalletGateway.Access

/-- The operation has called the device since all operations last stood still. -/
inductive CallsLately (index : Nat) : List Step → Prop where
  | call (steps : List Step) (step : Step) (message : Message)
      (hdeed : step.deed? = some (index, .call message)) : CallsLately index (steps ++ [step])
  | wait (steps : List Step) (step : Step) (hlately : CallsLately index steps)
      (hbusy : ¬ step.before.IsStill) : CallsLately index (steps ++ [step])

theorem CallsLately.of_snoc {index : Nat} {steps : List Step} {step : Step}
    (h : CallsLately index (steps ++ [step])) :
    (∃ message, step.deed? = some (index, .call message)) ∨
      CallsLately index steps ∧ ¬ step.before.IsStill := by
  generalize hall : steps ++ [step] = all at h
  cases h with
  | call _ _ message hdeed =>
    obtain ⟨-, hlast⟩ := List.append_inj' hall rfl
    obtain rfl := List.singleton_inj.1 hlast
    exact Or.inl ⟨message, hdeed⟩
  | wait _ _ hlately hbusy =>
    obtain ⟨rfl, hlast⟩ := List.append_inj' hall rfl
    obtain rfl := List.singleton_inj.1 hlast
    exact Or.inr ⟨hlately, hbusy⟩

/-- Whether an operation goes on by the signal without an event: by a step of its own, or because
its disconnection has ended. -/
def Signal.isOwn : Signal → Bool
  | start | send | settle | notice | disconnected _ => true
  | _ => false

/-- An operation goes on in a step without an event.  The device may answer a new call at once. -/
def Step.GoesOn (step : Step) (earlier : List Step) : Prop :=
  ∃ index signal, step.event = .signal index signal ∧
    (signal.isOwn = true ∨ (∃ reply, signal = .answer reply) ∧ CallsLately index earlier)

/-- Every event finds all operations still: what goes on of its own has gone on before. -/
def IsOrderly (steps : List Step) : Prop :=
  ∀ front step back, steps = front ++ step :: back → step.before.IsStill ∨ step.GoesOn front

theorem IsOrderly.of_snoc {steps : List Step} {step : Step} (h : IsOrderly (steps ++ [step])) :
    IsOrderly steps ∧ (step.before.IsStill ∨ step.GoesOn steps) := by
  refine ⟨fun front other back hsteps => h front other (back ++ [step]) ?_, h steps step [] rfl⟩
  simp [hsteps]

/-- Whether an operation goes on by a step of its own. -/
def Event.isOwn : Event → Bool
  | .begin .. => false
  | .signal _ sent => sent.isOwn

theorem IsOrderly.of_isOwn {steps : List Step}
    (h : ∀ step ∈ steps, step.before.IsStill ∨ step.event.isOwn = true) : IsOrderly steps := by
  rintro front step back rfl
  refine (h step (by simp)).imp_right fun hown => ?_
  cases hevent : step.event with
  | «begin» purpose request => simp [hevent, Event.isOwn] at hown
  | signal index signal =>
    rw [hevent] at hown
    exact ⟨index, signal, hevent, Or.inl hown⟩

theorem IsOrderly.nil : IsOrderly [] := by
  intro front step back h
  simp at h

theorem IsOrderly.snoc {steps : List Step} {step : Step} (h : IsOrderly steps)
    (hturn : step.before.IsStill ∨ step.GoesOn steps) : IsOrderly (steps ++ [step]) := by
  intro front other back hall
  induction back using List.reverseRecOn with
  | nil =>
    obtain ⟨rfl, hlast⟩ := List.append_inj' hall rfl
    obtain rfl := List.singleton_inj.1 hlast
    exact hturn
  | append_singleton back last =>
    rw [← List.cons_append, ← List.append_assoc] at hall
    exact h front other back (List.append_inj' hall rfl).1

/-! ## Rehearsals -/

namespace Rehearsal

/-- The steps of a rehearsal so far, which are orderly.  What the device has to say at once ends a
disconnection, or answers a late call. -/
structure Recounts (rehearsal : Rehearsal) (steps : List Step) : Prop where
  execution : Execution {} steps rehearsal.state
  orderly : Access.IsOrderly steps
  disconnects : rehearsal.device.disconnects = Access.disconnects steps
  due : ∀ index signal, rehearsal.due = some (index, signal) →
    signal.isOwn = true ∨ (∃ reply, signal = .answer reply) ∧ CallsLately index steps

variable {rehearsal next : Rehearsal} {steps : List Step} {index : Nat} {signal : Signal}

/-- What the device has to say after a signal ends a disconnection, or answers the call. -/
theorem due_of_signal? (h : rehearsal.signal? index signal = some next) (hdue : rehearsal.due = none)
    {after : State} {effect : Option Effect}
    (hstep : rehearsal.state.step (.signal index signal) = some (after, effect)) {place : Nat}
    {sent : Signal} (hspeaks : next.due = some (place, sent)) :
    sent.isOwn = true ∨
      (∃ reply, sent = .answer reply) ∧ place = index ∧ ∃ message, effect = some (.call message) := by
  simp only [signal?, hstep] at h
  obtain rfl := Option.some.inj h
  cases effect with
  | none =>
    rw [Option.map_none, Option.getD_none, hdue] at hspeaks
    contradiction
  | some effect =>
    rw [Option.map_some, Option.getD_some] at hspeaks
    cases effect with
    | call message =>
      simp only [perform, Option.map_eq_some_iff, Prod.mk.injEq] at hspeaks
      obtain ⟨reply, -, rfl, rfl⟩ := hspeaks
      exact Or.inr ⟨⟨reply, rfl⟩, rfl, message, rfl⟩
    | disconnect =>
      obtain ⟨rfl, rfl⟩ := Prod.mk.inj (Option.some.inj hspeaks)
      exact Or.inl rfl
    | deliver outcome =>
      simp only [perform, hdue] at hspeaks
      contradiction

/-- A signal in its turn is one more step. -/
theorem Recounts.signal? (h : rehearsal.Recounts steps) (hdue : rehearsal.due = none)
    (hturn : rehearsal.state.IsStill ∨ signal.isOwn = true ∨
      (∃ reply, signal = .answer reply) ∧ CallsLately index steps)
    (hsignal : rehearsal.signal? index signal = some next) :
    ∃ step, next.Recounts (steps ++ [step]) := by
  obtain ⟨step, hevent, hevolves, -⟩ := evolves_signal? hsignal
  obtain ⟨hbefore, hlawful, hafter⟩ := hevolves.execution.of_singleton
  refine ⟨step, h.execution.append hevolves.execution, h.orderly.snoc ?_, ?_, ?_⟩
  · rw [hbefore]
    exact hturn.imp_right fun hgoes => ⟨index, signal, hevent, hgoes⟩
  · rw [hevolves.disconnects, h.disconnects, disconnects_append]
  · intro place sent hspeaks
    have hstep : rehearsal.state.step (.signal index signal) = some (step.after, step.effect) := by
      rw [← hbefore, ← hevent]
      exact hlawful
    refine (due_of_signal? hsignal hdue hstep hspeaks).imp_right ?_
    rintro ⟨hanswer, rfl, message, hcall⟩
    exact ⟨hanswer, .call steps step message (by simp [Step.deed?, hevent, hcall])⟩

theorem Recounts.step? (h : rehearsal.Recounts steps) (hnext : rehearsal.step? = some next) :
    ∃ later, next.Recounts (steps ++ later) := by
  simp only [Rehearsal.step?] at hnext
  split at hnext
  · rename_i index signal hspeaks
    obtain rfl := Option.some.inj hnext
    have hheard : ({ rehearsal with due := none } : Rehearsal).Recounts steps :=
      ⟨h.execution, h.orderly, h.disconnects, by simp⟩
    cases hsignal : ({ rehearsal with due := none } : Rehearsal).signal? index signal with
    | none => exact ⟨[], by simpa using hheard⟩
    | some next =>
      obtain ⟨step, hstep⟩ := hheard.signal? rfl (Or.inr (h.due index signal hspeaks)) hsignal
      exact ⟨[step], hstep⟩
  · rename_i hdue
    obtain ⟨index, -, hindex⟩ := List.exists_of_findSome?_eq_some hnext
    obtain ⟨signal, hown, hsignal⟩ := List.exists_of_findSome?_eq_some hindex
    have hgoes : signal.isOwn = true := by
      simp only [ownSignals, List.mem_cons, List.not_mem_nil, or_false] at hown
      rcases hown with rfl | rfl | rfl | rfl <;> rfl
    obtain ⟨step, hstep⟩ := h.signal? hdue (Or.inr (Or.inl hgoes)) hsignal
    exact ⟨[step], hstep⟩

/-- A rehearsal whose steps are orderly, and which has settled. -/
structure IsOrderly (rehearsal : Rehearsal) : Prop where
  recounts : ∃ steps, rehearsal.Recounts steps
  still : rehearsal.state.IsStill
  quiet : rehearsal.due = none

theorem Recounts.settle (h : rehearsal.Recounts steps) : rehearsal.settle.IsOrderly := by
  refine ⟨?_, settle_isStill rehearsal, due_of_step?_eq_none rehearsal.step?_settle⟩
  induction rehearsal using settle.induct generalizing steps with
  | case1 rehearsal hnone =>
    rw [settle_of_step?_eq_none hnone]
    exact ⟨steps, h⟩
  | case2 rehearsal next hnext ih =>
    obtain ⟨later, hlater⟩ := h.step? hnext
    rw [settle_of_step? hnext]
    exact ih hlater

namespace IsOrderly

/-- Nothing has happened. -/
theorem empty : ({} : Rehearsal).IsOrderly := by
  refine ⟨⟨[], .refl, .nil, rfl, by simp⟩, ?_, rfl⟩
  intro operation hmem
  simp at hmem

/-- What is said of the device does not matter, but for its disconnections. -/
theorem of_device (h : rehearsal.IsOrderly) (device : ScriptedDevice)
    (hdisconnects : device.disconnects = rehearsal.device.disconnects) :
    ({ rehearsal with device } : Rehearsal).IsOrderly := by
  obtain ⟨⟨steps, hsteps⟩, hstill, hquiet⟩ := h
  exact ⟨⟨steps, hsteps.execution, hsteps.orderly, hdisconnects.trans hsteps.disconnects,
    hsteps.due⟩, hstill, hquiet⟩

/-- A caller starts an operation. -/
theorem start (h : rehearsal.IsOrderly) (purpose : Purpose) (request : Message) :
    (rehearsal.start purpose request).IsOrderly := by
  obtain ⟨⟨steps, hsteps⟩, hstill, hquiet⟩ := h
  let step : Step :=
    { before := rehearsal.state
      event := .begin purpose request
      effect := none
      after := { rehearsal.state with
        operations := rehearsal.state.operations ++ [.new purpose request] } }
  have hrecounts : ({ rehearsal with state := step.after } : Rehearsal).Recounts
      (steps ++ [step]) := by
    refine ⟨hsteps.execution.snoc rfl, hsteps.orderly.snoc (Or.inl hstill), ?_, by simp [hquiet]⟩
    rw [disconnects_append]
    exact hsteps.disconnects
  exact hrecounts.settle

/-- Something happens to an operation. -/
theorem notify (h : rehearsal.IsOrderly) (index : Nat) (signal : Signal) :
    (rehearsal.notify index signal).IsOrderly := by
  obtain ⟨⟨steps, hsteps⟩, hstill, hquiet⟩ := h
  unfold Rehearsal.notify
  cases hsignal : rehearsal.signal? index signal with
  | none => exact hsteps.settle
  | some next =>
    obtain ⟨step, hstep⟩ := hsteps.signal? hquiet (Or.inl hstill) hsignal
    exact hstep.settle

/-- The device answers an open call. -/
theorem reply (h : rehearsal.IsOrderly) (position : Nat) (reply : Except DeviceError Message) :
    (rehearsal.reply position reply).1.IsOrderly := by
  unfold Rehearsal.reply
  split
  · exact h
  · rename_i owner _
    have hanswered := h.of_device
      { rehearsal.device with pending := rehearsal.device.pending.eraseIdx position } rfl
    split
    · exact hanswered.notify owner (.answer reply)
    · exact hanswered

/-- The device has more to say. -/
theorem extend (h : rehearsal.IsOrderly) (script : List ScriptEntry) :
    (rehearsal.extend script).IsOrderly :=
  h.of_device _ rfl

/-- From now on disconnecting fails, or does not. -/
theorem setFailing (h : rehearsal.IsOrderly) (failing : Bool) :
    (rehearsal.setFailing failing).IsOrderly :=
  h.of_device _ rfl

end IsOrderly

end Rehearsal

end WalletGateway.Access
