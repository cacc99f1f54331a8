import Mathlib.Data.List.Dedup
import WalletGateway.Proofs.Access.Orderly

/-!
# Operations that are given up

An operation is given up when its supervised caller goes away, or when its token fires, before it
has ended.  Then it disconnects the device.  `operations_given_up_disconnect_once` says that each
does so exactly once, that no other operation does, and what a caller hears who is still there.

That holds where every event is followed by all that goes on of its own: `IsOrderly`.  Without it an
operation could end between the firing of its token and the notice that it takes of it.

The invariant of one operation is `Standing`.  It relates the operation to what the steps so far say
of it (`account`).
-/

namespace WalletGateway.Access

/-! ## Giving up -/

/-- Whether a signal gives the operation up: its caller goes away under supervision, or its token
fires, and it has not ended. -/
def Operation.isGivenUpBy (operation : Operation) : Signal → Bool
  | .abandon => operation.stage != .ended && (operation.purpose matches .supervised _)
  | .fire => operation.stage != .ended
  | _ => false

/-- The operation that is given up in a step, if one is. -/
def Step.givenUp? (step : Step) : Option Nat :=
  match step.event with
  | .begin .. => none
  | .signal index signal =>
    if (step.before.operations[index]?).any (·.isGivenUpBy signal) then some index else none

/-- The operations that have been given up before they had ended. -/
def givenUp (steps : List Step) : List Nat :=
  (steps.filterMap Step.givenUp?).dedup

theorem mem_givenUp_snoc {steps : List Step} {step : Step} {index : Nat} :
    index ∈ givenUp (steps ++ [step]) ↔
      index ∈ givenUp steps ∨ step.givenUp? = some index := by
  simp [givenUp, List.mem_dedup]

/-- The operation that a deed disconnects the device for. -/
def disconnecter? : Nat × Effect → Option Nat
  | (index, .disconnect) => some index
  | (_, .call _) | (_, .deliver _) => none

/-- The operations that disconnected the device, in order. -/
def disconnecters (steps : List Step) : List Nat :=
  (deeds steps).filterMap disconnecter?

theorem disconnects_eq_length (steps : List Step) :
    disconnects steps = (disconnecters steps).length := by
  rw [disconnects, disconnecters, List.length_filterMap_eq_countP]
  congr 1
  funext deed
  obtain ⟨index, effect⟩ := deed
  cases effect <;> rfl

/-- How the disconnection has ended. -/
def Signal.closing? : Signal → Option (Except DeviceError Unit)
  | disconnected result => some result
  | _ => none

/-- How the disconnections ended that the operation asked for. -/
def closings (index : Nat) (steps : List Step) : List (Except DeviceError Unit) :=
  steps.filterMap fun step =>
    match step.event with
    | .signal other signal => if other = index then signal.closing? else none
    | .begin .. => none

/-- What the caller of the operation was told, in order. -/
def toldTo (index : Nat) (steps : List Step) : List Outcome :=
  (deeds steps).filterMap fun deed => if deed.1 = index then deed.2.told? else none

/-- What a caller is told after a disconnection. -/
def Outcome.ofClosing : Except DeviceError Unit → Outcome
  | .ok () => .result (.error .clientClosed)
  | .error error => .result (.error error)

/-! ## What the steps say of one operation -/

/-- What is said of an operation: whether it was given up, how often it disconnected the device, how
that ended, and what its caller was told. -/
structure Account where
  givenUp : Bool := false
  disconnects : Nat := 0
  closings : List (Except DeviceError Unit) := []
  told : List Outcome := []

/-- A step of the operation is added. -/
def Account.note (account : Account) (operation : Operation) (signal : Signal)
    (effect : Option Effect) : Account where
  givenUp := account.givenUp || operation.isGivenUpBy signal
  disconnects := account.disconnects + if effect matches some .disconnect then 1 else 0
  closings := account.closings ++ signal.closing?.toList
  told := account.told ++ (effect.bind Effect.told?).toList

/-- What the steps say of an operation. -/
def account (index : Nat) (steps : List Step) : Account where
  givenUp := decide (index ∈ givenUp steps)
  disconnects := (disconnecters steps).count index
  closings := closings index steps
  told := toldTo index steps

theorem account_snoc_of_signal {index : Nat} {steps : List Step} {step : Step} {signal : Signal}
    {operation : Operation} (hevent : step.event = .signal index signal)
    (hoperation : step.before.operations[index]? = some operation) :
    account index (steps ++ [step]) = (account index steps).note operation signal step.effect := by
  have hdeed : step.deed? = step.effect.map (index, ·) := by simp [Step.deed?, hevent]
  have hgiven : step.givenUp? = some index ↔ operation.isGivenUpBy signal = true := by
    simp [Step.givenUp?, hevent, hoperation]
  simp only [account, Account.note, Account.mk.injEq, mem_givenUp_snoc, hgiven,
    Bool.decide_or, Bool.decide_eq_true, true_and]
  refine ⟨?_, ?_, ?_⟩
  · rcases heffect : step.effect with _ | _ | _ | _ <;>
      simp [disconnecters, disconnecter?, List.filterMap_cons, hdeed, heffect]
  · cases hclosing : signal.closing? <;> simp [closings, hevent, hclosing]
  · rcases heffect : step.effect with _ | _ | _ | _ <;>
      simp [toldTo, Effect.told?, hdeed, heffect]

/-- The steps of others say nothing of the operation. -/
theorem account_snoc_of_other {index : Nat} {steps : List Step} {step : Step}
    (hevent : ∀ signal, step.event ≠ .signal index signal) :
    account index (steps ++ [step]) = account index steps := by
  cases hstep : step.event with
  | «begin» purpose request =>
    simp [account, givenUp, disconnecters, closings, toldTo, Step.givenUp?, Step.deed?, hstep]
  | signal other signal =>
    have hne : other ≠ index := Step.ne_of_event hevent hstep
    have hgiven : step.givenUp? ≠ some index := by
      simp only [Step.givenUp?, hstep]
      split <;> simp [hne]
    simp only [account, Account.mk.injEq, mem_givenUp_snoc, hgiven, or_false, true_and]
    have hdeed : step.deed? = step.effect.map (other, ·) := by simp [Step.deed?, hstep]
    refine ⟨?_, ?_, ?_⟩
    · rcases heffect : step.effect with _ | _ | _ | _ <;>
        simp [disconnecters, disconnecter?, List.filterMap_cons, hdeed, heffect, hne]
    · simp [closings, hstep, hne]
    · cases heffect : step.effect <;> simp [toldTo, hdeed, heffect, hne]

theorem account_eq_of_unknown {index : Nat} {steps : List Step}
    (h : ∀ step ∈ steps, ∀ signal, step.event ≠ .signal index signal) :
    account index steps = {} := by
  induction steps using List.reverseRecOn with
  | nil => rfl
  | append_singleton steps step ih =>
    rw [account_snoc_of_other (h step (by simp))]
    exact ih fun other hother => h other (List.mem_append_left _ hother)

/-! ## One operation -/

/-- How an operation stands, by what the steps say of it.  `lately` is whether it has called the
device lately. -/
inductive Standing : Account → Prop → Operation → Prop where
  /-- It is under way and has not been given up. -/
  | going {lately : Prop} {operation : Operation} (hfired : operation.fired = false)
      (hconnected : operation.stage ≠ .disconnecting) (hstage : operation.stage ≠ .ended) :
      Standing {} lately operation
  /-- It has ended without being given up. -/
  | ended {account : Account} {lately : Prop} {operation : Operation}
      (hkept : account.givenUp = false) (hdisconnects : account.disconnects = 0)
      (hstage : operation.stage = .ended) : Standing account lately operation
  /-- It has been given up, and can do nothing but notice that. -/
  | pending {lately : Prop} {operation : Operation} (hlately : ¬ lately)
      (hfired : operation.fired = true)
      (hstage : operation.stage = .preempting ∨ operation.stage = .driving)
      (hready : ∀ message, operation.drive ≠ .ready message)
      (hresolved : operation.stage = .driving → ∀ result, operation.drive ≠ .resolved result) :
      Standing { givenUp := true } lately operation
  /-- It has been given up and disconnects the device. -/
  | closing {lately : Prop} {operation : Operation} (hstage : operation.stage = .disconnecting) :
      Standing { givenUp := true, disconnects := 1 } lately operation
  /-- It has been given up and has disconnected the device. -/
  | closed {account : Account} {lately : Prop} {operation : Operation}
      (hgiven : account.givenUp = true) (hdisconnects : account.disconnects = 1)
      (hstage : operation.stage = .ended)
      (htold : operation.attended = true →
        ∃ result, account.closings = [result] ∧ account.told = [.ofClosing result]) :
      Standing account lately operation

namespace Standing

variable {operation : Operation} {slot : Slot} {signal : Signal} {reaction : Reaction}
  {lately lately' calm : Prop}

/-- The steps of others let the time pass. -/
theorem mono {account : Account} (h : Standing account lately operation)
    (hlately : lately' → lately) : Standing account lately' operation := by
  cases h with
  | going hfired hconnected hstage => exact .going hfired hconnected hstage
  | ended hkept hdisconnects hstage => exact .ended hkept hdisconnects hstage
  | pending hnot hfired hstage hready hresolved =>
    exact .pending (fun h => hnot (hlately h)) hfired hstage hready hresolved
  | closing hstage => exact .closing hstage
  | closed hgiven hdisconnects hstage htold => exact .closed hgiven hdisconnects hstage htold

/-- An operation that is under way takes the slot. -/
theorem going_takeSlot (operation : Operation) (slot : Slot) (signal : Signal)
    (hfired : operation.fired = false) (hsignal : operation.isGivenUpBy signal = false)
    (hclosing : signal.closing? = none) :
    Standing (Account.note {} operation signal (operation.takeSlot slot).effect) lately
      (operation.takeSlot slot).operation := by
  unfold Operation.takeSlot
  cases operation.purpose with
  | supervised serialized | run =>
    have hnote : Account.note {} operation signal none = {} := by
      simp [Account.note, hsignal, hclosing]
    rw [hnote]
    exact .going hfired (by simp) (by simp)
  | acquire =>
    refine .ended (by simp [Account.note, hsignal]) ?_ rfl
    cases operation.attended <;> simp [Account.note]

/-- An operation that is under way ends. -/
theorem going_finish (operation : Operation) (slot : Slot) (signal : Signal) (outcome : Outcome)
    (hsignal : operation.isGivenUpBy signal = false) :
    Standing (Account.note {} operation signal (operation.finish slot outcome).effect) lately
      (operation.finish slot outcome).operation := by
  refine .ended (by simp [Account.note, hsignal]) ?_ rfl
  unfold Operation.finish
  cases operation.attended <;> simp [Account.note]

/-- An operation that stands still is given up. -/
theorem going_givenUp {next : Operation} (hstill : operation.IsStill slot)
    (hconnected : operation.stage ≠ .disconnecting) (hstage : operation.stage ≠ .ended)
    (hgiven : operation.isGivenUpBy signal = true) (hclosing : signal.closing? = none)
    (hlately : ¬ lately) (hfired : next.fired = true) (hsame : next.stage = operation.stage)
    (hdrive : next.drive = operation.drive) :
    Standing (Account.note {} operation signal none) lately next := by
  have hnote : Account.note {} operation signal none = { givenUp := true } := by
    simp [Account.note, hgiven, hclosing]
  rw [hnote]
  refine .pending hlately hfired ?_ ?_ ?_
  · rw [hsame]
    cases h : operation.stage with
    | waiting => exact absurd h hstill.stage_ne_waiting
    | preempting => exact Or.inl rfl
    | driving => exact Or.inr rfl
    | disconnecting => exact absurd h hconnected
    | ended => exact absurd h hstage
  · rw [hdrive]
    exact hstill.drive_ne_ready
  · rw [hsame, hdrive]
    exact hstill.drive_ne_resolved

section Transitions

variable (hreacts : Reacts operation slot signal reaction) (hcalm : calm → operation.IsStill slot)
  (hturn : calm ∨ signal.isOwn = true ∨ (∃ reply, signal = .answer reply) ∧ lately)
  (hlately : lately' → (∃ message, reaction.effect = some (.call message)) ∨ lately ∧ ¬ calm)

include hreacts hcalm hturn hlately

theorem note_going (hfired : operation.fired = false) (hconnected : operation.stage ≠ .disconnecting)
    (hstage : operation.stage ≠ .ended) :
    Standing (Account.note {} operation signal reaction.effect) lately' reaction.operation := by
  cases hreacts with
  | takeFree | takeOver => exact going_takeSlot operation slot _ hfired rfl rfl
  | fail | settle => exact going_finish operation slot _ _ rfl
  | preempt => exact .going hfired (by simp) (by simp)
  | hear | send | release | dropGuard => exact .going hfired hconnected hstage
  | notice hnoticed => simp [hfired] at hnoticed
  | tearDown hwas | tearDownFailing _ hwas => exact absurd hwas hconnected
  | fire =>
    have hevent : calm := by simpa [Signal.isOwn] using hturn
    exact going_givenUp (hcalm hevent) hconnected hstage (by simp [Operation.isGivenUpBy, hstage])
      rfl (by simpa [hevent] using hlately) rfl rfl rfl
  | giveUp serialized hpurpose =>
    have hevent : calm := by simpa [Signal.isOwn] using hturn
    exact going_givenUp (hcalm hevent) hconnected hstage
      (by simp [Operation.isGivenUpBy, hstage, hpurpose]) rfl (by simpa [hevent] using hlately)
      rfl rfl rfl
  | detach hpurpose =>
    refine .ended ?_ rfl rfl
    cases h : operation.purpose with
    | supervised serialized => exact absurd h (hpurpose serialized)
    | run | acquire => simp [Account.note, Operation.isGivenUpBy, h]

theorem note_pending (hnot : ¬ lately) (hfired : operation.fired = true)
    (hstage : operation.stage = .preempting ∨ operation.stage = .driving)
    (hready : ∀ message, operation.drive ≠ .ready message)
    (hresolved : operation.stage = .driving → ∀ result, operation.drive ≠ .resolved result) :
    Standing (Account.note { givenUp := true } operation signal reaction.effect) lately'
      reaction.operation := by
  have hbusy : ¬ calm := by
    intro hevent
    rcases (hcalm hevent).stage_of_fired hfired with h | h <;> simp [h] at hstage
  have hown : signal.isOwn = true := by simpa [hbusy, hnot] using hturn
  cases hreacts with
  | notice => exact .closing rfl
  | takeFree hwas | preempt hwas | tearDown hwas | tearDownFailing _ hwas => simp [hwas] at hstage
  | send message hdrive => exact absurd hdrive (hready message)
  | settle result hwas hdrive => exact absurd hdrive (hresolved hwas result)
  | takeOver | fail | hear | fire | giveUp | detach | release | dropGuard => contradiction

end Transitions

theorem note_ended {account : Account} (hreacts : Reacts operation slot signal reaction)
    (hkept : account.givenUp = false) (hdisconnects : account.disconnects = 0)
    (hstage : operation.stage = .ended) :
    Standing (account.note operation signal reaction.effect) lately' reaction.operation := by
  cases hreacts with
  | hear | send | fire | release | dropGuard =>
    exact .ended (by simp [Account.note, Operation.isGivenUpBy, hkept, hstage])
      (by simp [Account.note, hdisconnects]) hstage
  | takeFree hwas | preempt hwas | takeOver _ hwas | fail _ hwas | settle _ hwas | tearDown hwas
  | tearDownFailing _ hwas => simp [hstage] at hwas
  | notice _ hwas => simp [hstage] at hwas
  | giveUp _ _ _ hwas | detach _ _ hwas => exact absurd hstage hwas

theorem note_closing (hreacts : Reacts operation slot signal reaction)
    (hstage : operation.stage = .disconnecting) :
    Standing (Account.note { givenUp := true, disconnects := 1 } operation signal reaction.effect)
      lately' reaction.operation := by
  cases hreacts with
  | hear | send | fire | giveUp | release | dropGuard => exact .closing hstage
  | tearDown | tearDownFailing =>
    refine .closed rfl ?_ rfl fun hattended => ?_
    · unfold Operation.finish
      cases operation.attended <;> rfl
    · exact ⟨_, rfl, by simp_all [Account.note, Operation.finish, Effect.told?, Outcome.ofClosing]⟩
  | detach => exact .closed rfl rfl rfl fun hattended => by simp at hattended
  | takeFree hwas | preempt hwas | takeOver _ hwas | fail _ hwas | settle _ hwas =>
    simp [hstage] at hwas
  | notice _ hwas => simp [hstage] at hwas

theorem note_closed {account : Account} (hreacts : Reacts operation slot signal reaction)
    (hgiven : account.givenUp = true) (hdisconnects : account.disconnects = 1)
    (hstage : operation.stage = .ended)
    (htold : operation.attended = true →
      ∃ result, account.closings = [result] ∧ account.told = [.ofClosing result]) :
    Standing (account.note operation signal reaction.effect) lately' reaction.operation := by
  cases hreacts with
  | hear | send | fire | release | dropGuard =>
    refine .closed (by simp [Account.note, hgiven]) (by simp [Account.note, hdisconnects]) hstage ?_
    simpa [Account.note, Signal.closing?, Effect.told?] using htold
  | takeFree hwas | preempt hwas | takeOver _ hwas | fail _ hwas | settle _ hwas | tearDown hwas
  | tearDownFailing _ hwas => simp [hstage] at hwas
  | notice _ hwas => simp [hstage] at hwas
  | giveUp _ _ _ hwas | detach _ _ hwas => exact absurd hstage hwas

/-- What a transition makes of the standing of its operation.  Where everything is calm the
operation stands still; otherwise the signal comes from the operation, or answers a late call. -/
theorem note {account : Account} (h : Standing account lately operation)
    (hreacts : Reacts operation slot signal reaction) (hcalm : calm → operation.IsStill slot)
    (hturn : calm ∨ signal.isOwn = true ∨ (∃ reply, signal = .answer reply) ∧ lately)
    (hlately : lately' → (∃ message, reaction.effect = some (.call message)) ∨ lately ∧ ¬ calm) :
    Standing (account.note operation signal reaction.effect) lately' reaction.operation := by
  cases h with
  | going hfired hconnected hstage =>
    exact note_going hreacts hcalm hturn hlately hfired hconnected hstage
  | ended hkept hdisconnects hstage => exact note_ended hreacts hkept hdisconnects hstage
  | pending hnot hfired hstage hready hresolved =>
    exact note_pending hreacts hcalm hturn hlately hnot hfired hstage hready hresolved
  | closing hstage => exact note_closing hreacts hstage
  | closed hgiven hdisconnects hstage htold =>
    exact note_closed hreacts hgiven hdisconnects hstage htold

/-- Where the operation stands still, it has disconnected the device if it was given up, and its
caller has been told of that. -/
theorem of_isStill {account : Account} (h : Standing account lately operation)
    (hstill : operation.IsStill slot) :
    account.disconnects = (if account.givenUp = true then 1 else 0) ∧
      (account.givenUp = true → operation.attended = true → operation.stage ≠ .disconnecting →
        ∃ result, account.closings = [result] ∧ account.told = [.ofClosing result]) := by
  cases h with
  | going => exact ⟨rfl, fun hgiven => absurd hgiven (by simp)⟩
  | ended hkept hdisconnects => simp [hkept, hdisconnects]
  | pending _ hfired hstage =>
    rcases hstill.stage_of_fired hfired with hnow | hnow <;> simp [hnow] at hstage
  | closing hstage => exact ⟨rfl, fun _ _ hconnected => absurd hstage hconnected⟩
  | closed hgiven hdisconnects _ htold =>
    exact ⟨by simp [hgiven, hdisconnects], fun _ hattended _ => htold hattended⟩

end Standing

/-! ## All operations -/

theorem Operation.new_standing (purpose : Purpose) (request : Message) (lately : Prop) :
    Standing {} lately (Operation.new purpose request) := by
  have hnew : (Operation.new purpose request).fired = false ∧
      ((Operation.new purpose request).stage = .waiting ∨
        (Operation.new purpose request).stage = .driving) := by
    unfold new
    split <;> simp
  refine .going hnew.1 ?_ ?_ <;> rcases hnew.2 with h | h <;> simp [h]

namespace Execution

variable {steps : List Step} {last : State} {index : Nat}

theorem standing (h : Execution {} steps last) (horderly : IsOrderly steps) {operation : Operation}
    (hoperation : last.operations[index]? = some operation) :
    Standing (account index steps) (CallsLately index steps) operation := by
  induction h generalizing operation with
  | refl => contradiction
  | @snoc steps step hsteps hlawful ih =>
    obtain ⟨hfront, hturn⟩ := horderly.of_snoc
    rcases hlawful.operation_cases hoperation with
      ⟨purpose, request, hevent, hindex, rfl⟩ | ⟨hold, hother⟩ |
      ⟨signal, old, reaction, hevent, hold, hreacts, heffect, -, rfl⟩
    · subst hindex
      rw [account_eq_of_unknown (hsteps.unsignalled_of_begin hevent)]
      exact Operation.new_standing purpose request _
    · rw [account_snoc_of_other hother]
      refine (ih hfront hold).mono fun hlately => ?_
      rcases hlately.of_snoc with ⟨message, hdeed⟩ | ⟨hearlier, -⟩
      · obtain ⟨signal, -, -, hsignal, -⟩ := hlawful.of_deed hdeed
        exact absurd hsignal (hother signal)
      · exact hearlier
    · rw [account_snoc_of_signal hevent hold, heffect]
      refine (ih hfront hold).note hreacts (fun hstill => hstill old (List.mem_of_getElem? hold))
        (hturn.imp_right ?_) fun hlately => ?_
      · rintro ⟨other, sent, hsent, hgoes⟩
        obtain ⟨rfl, rfl⟩ := Event.signal.inj (hevent.symm.trans hsent)
        exact hgoes
      · refine hlately.of_snoc.imp_left ?_
        rintro ⟨message, hdeed⟩
        exact ⟨message, by simpa [Step.deed?, hevent, heffect] using hdeed⟩

theorem lt_of_mem_givenUp (h : Execution {} steps last) (hgiven : index ∈ givenUp steps) :
    index < last.operations.length := by
  simp only [givenUp, List.mem_dedup, List.mem_filterMap] at hgiven
  obtain ⟨step, hstep, hindex⟩ := hgiven
  unfold Step.givenUp? at hindex
  split at hindex
  · contradiction
  · rename_i other signal hevent
    split at hindex
    · obtain rfl := Option.some.inj hindex
      exact h.lt_of_signal hstep hevent
    · contradiction

theorem lt_of_mem_disconnecters (h : Execution {} steps last)
    (hdisconnects : index ∈ disconnecters steps) : index < last.operations.length := by
  obtain ⟨⟨other, effect⟩, hdeed, hindex⟩ := List.mem_filterMap.1 hdisconnects
  unfold disconnecter? at hindex
  split at hindex
  · rename_i heq
    obtain ⟨rfl, -⟩ := Prod.mk.inj heq
    obtain rfl := Option.some.inj hindex
    exact h.lt_of_deed hdeed
  · contradiction
  · contradiction

/-- Where everything stands still, an operation has disconnected the device once if it was given
up, and never otherwise. -/
theorem count_disconnecters (h : Execution {} steps last) (horderly : IsOrderly steps)
    (hstill : last.IsStill) (index : Nat) :
    (disconnecters steps).count index = if index ∈ givenUp steps then 1 else 0 := by
  rcases Nat.lt_or_ge index last.operations.length with hlt | hge
  · have hoperation := List.getElem?_eq_getElem hlt
    have hstanding := h.standing horderly hoperation
    simpa [account] using (hstanding.of_isStill (hstill _ (List.mem_of_getElem? hoperation))).1
  · rw [if_neg fun hgiven => absurd (h.lt_of_mem_givenUp hgiven) (by omega)]
    refine List.count_eq_zero.2 fun hmem => ?_
    exact absurd (h.lt_of_mem_disconnecters hmem) (by omega)

theorem disconnects_eq (h : Execution {} steps last) (horderly : IsOrderly steps)
    (hstill : last.IsStill) : disconnects steps = (givenUp steps).length := by
  have hperm : (disconnecters steps).Perm (givenUp steps) := by
    refine List.perm_iff_count.2 fun index => ?_
    rw [h.count_disconnecters horderly hstill, givenUp, List.count_dedup]
    simp only [List.mem_dedup]
  rw [disconnects_eq_length, hperm.length_eq]

end Execution

/-- A device that is rehearsed is disconnected as often as operations are given up. -/
theorem Rehearsal.IsOrderly.disconnects_eq {rehearsal : Rehearsal} (h : rehearsal.IsOrderly) :
    ∃ steps, rehearsal.Recounts steps ∧
      rehearsal.device.disconnects = (givenUp steps).length := by
  obtain ⟨⟨steps, hsteps⟩, hstill, -⟩ := h
  refine ⟨steps, hsteps, ?_⟩
  rw [hsteps.disconnects, hsteps.execution.disconnects_eq hsteps.orderly hstill]

/-- Operations that are given up disconnect the device once, and no others do. -/
structure DisconnectsOnce (steps : List Step) (last : State) : Prop where
  /-- There are as many disconnections as operations that were given up before they had ended. -/
  disconnects_eq : disconnects steps = (givenUp steps).length
  /-- Each of these operations has disconnected the device once. -/
  count_disconnecters : ∀ index,
    (disconnecters steps).count index = if index ∈ givenUp steps then 1 else 0
  /-- When the disconnection has ended, a caller who is still there has been told once: that the
  client is gone, or why the disconnection failed. -/
  told_of_givenUp : ∀ index ∈ givenUp steps, ∀ operation,
    last.operations[index]? = some operation → operation.attended = true →
    operation.stage ≠ .disconnecting →
    ∃ result, closings index steps = [result] ∧ toldTo index steps = [.ofClosing result]

/-- In every execution whose events find all operations still, operations that are given up
disconnect the device once. -/
theorem operations_given_up_disconnect_once {steps : List Step} {last : State}
    (h : Execution {} steps last) (horderly : IsOrderly steps) (hstill : last.IsStill) :
    DisconnectsOnce steps last := by
  refine ⟨h.disconnects_eq horderly hstill, h.count_disconnecters horderly hstill, ?_⟩
  intro index hgiven operation hoperation hattended hconnected
  have hstanding := h.standing horderly hoperation
  exact (hstanding.of_isStill (hstill _ (List.mem_of_getElem? hoperation))).2
    (decide_eq_true hgiven) hattended hconnected

/-- While a request is under way the slot is acquired too, with a Cancel request; the token of that
fires.  Then the request is answered, and its caller is told. -/
def abandonedAcquisition : List Event :=
  [.begin (.supervised true) DeviceRequest.wipe.message, .signal 0 .start, .signal 0 .send,
    .begin .acquire DeviceRequest.reportFeatures.message, .signal 1 .start,
    .signal 1 .fire, .signal 1 .notice, .signal 1 (.disconnected (.ok ())),
    .signal 0 (.answer (.ok ⟨2, []⟩)), .signal 0 .settle, .signal 1 .fire]

theorem abandoned_acquisition_disconnects_once :
    ∃ last, Execution {} (State.steps {} abandonedAcquisition) last ∧
      IsOrderly (State.steps {} abandonedAcquisition) ∧ last.IsStill ∧
      DisconnectsOnce (State.steps {} abandonedAcquisition) last := by
  obtain ⟨⟨last, trace⟩, hrun⟩ := Option.isSome_iff_exists.1
    (show (State.run {} abandonedAcquisition).isSome by decide)
  have hexecution := Execution.of_run hrun
  have horderly : IsOrderly (State.steps {} abandonedAcquisition) := .of_isOwn (by decide)
  have hstill : ∀ result ∈ State.run {} abandonedAcquisition, result.1.IsStill := by decide
  exact ⟨last, hexecution, horderly, hstill _ hrun,
    operations_given_up_disconnect_once hexecution horderly (hstill _ hrun)⟩

end WalletGateway.Access
