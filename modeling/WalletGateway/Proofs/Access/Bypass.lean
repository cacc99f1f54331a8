import WalletGateway.Proofs.Access.Conduct
import WalletGateway.Proofs.Access.Orderly
import WalletGateway.Proofs.Access.Solitude
import WalletGateway.Proofs.Access.Tenancy
import WalletGateway.Proofs.Device.Answers

/-!
# Operations that bypass the slot

A supervised operation that is not serialized goes about its request at once.  It has no place at
the slot: it neither takes it nor gives it back, has no guard, and finds the guards of the others
as they are.

* `Operation.Goes` lists what such an operation can do, and `Reacts.goes` says that it can do
  nothing else.
* `Step.LeavesSlot` says of a step that the slot and the guards are the same after it;
  `Execution.leavesSlot` says it of every step of such an operation.
* `Bypasses` is the invariant of such an operation: which calls it has made, what has become of the
  replies, and what its caller has been told.
* `Rehearsal.IsOrderly.start_sent`: where everything has settled, its request is the next message
  that the device receives, whoever holds the slot.
-/

namespace WalletGateway.Access

open Conversation (Reply Answers asksButton)

/-! ## The slot and the guards -/

/-- An operation has a guard that is valid: it is not released, and the slot is held with it. -/
def State.HasValidGuard (state : State) (index : Nat) : Prop :=
  ∃ guard, state.guard? index = some guard ∧ guard.released = false ∧
    state.slot.holder = some guard.id

/-- The slot and all guards are the same after a step. -/
structure Step.LeavesSlot (step : Step) : Prop where
  slot : step.after.slot = step.before.slot
  guards : ∀ index, step.after.guard? index = step.before.guard? index

/-- The guards that were valid stay so, and no others become valid. -/
theorem Step.LeavesSlot.hasValidGuard_iff {step : Step} (h : step.LeavesSlot) (index : Nat) :
    step.after.HasValidGuard index ↔ step.before.HasValidGuard index := by
  rw [State.HasValidGuard, State.HasValidGuard, h.guards, h.slot]

/-- A step is one of an operation: the operation begins, or goes on. -/
def Step.IsOf (step : Step) (index : Nat) : Prop :=
  (∃ purpose request, step.Begins index purpose request) ∨
    ∃ signal, step.event = .signal index signal

/-- An operation that begins does not change the slot, and has no guard. -/
theorem Step.IsLawful.leavesSlot_of_begin {step : Step} (h : step.IsLawful) {purpose : Purpose}
    {request : Message} (hevent : step.event = .begin purpose request) : step.LeavesSlot := by
  rcases h.cases with ⟨purpose', request', -, hslot, hafter⟩ | ⟨_, _, _, _, hsignal, -⟩
  · refine ⟨hslot, fun index => ?_⟩
    rw [State.guard?, State.guard?, hafter]
    by_cases hlt : index < step.before.operations.length
    · rw [List.getElem?_append_left hlt]
    · have hge := Nat.not_lt.1 hlt
      rw [List.getElem?_append_right hge, List.getElem?_eq_none hge, List.getElem?_singleton]
      split
      · exact Operation.new_guard purpose' request'
      · rfl
  · rw [hevent] at hsignal
    contradiction

/-! ## What an operation beside the slot can do -/

/-- An operation that has nothing to do with the slot. -/
structure Operation.IsAside (operation : Operation) : Prop where
  purpose : operation.purpose = .supervised false
  inside : ¬ operation.IsOutside
  unguarded : operation.guard = none

/-- What a caller is told, if he is there. -/
def Operation.tells (operation : Operation) (outcome : Outcome) : Option Effect :=
  if operation.attended then some (.deliver outcome) else none

/-- The transitions of an operation beside the slot. -/
inductive Operation.Goes (operation : Operation) : Signal → Operation → Option Effect → Prop where
  | hear (reply : Reply) (hdrive : operation.drive = .awaiting) :
      Goes operation (.answer reply) { operation with drive := Operation.Drive.after reply } none
  | send (message : Message) (hdrive : operation.drive = .ready message) :
      Goes operation .send { operation with drive := .awaiting } (some (.call message))
  | settle (result : Except DeviceError Resolution) (hdrive : operation.drive = .resolved result)
      (hstage : operation.stage = .driving) :
      Goes operation .settle { operation with stage := .ended, guard := none }
        (operation.tells (.result result))
  | notice (hfired : operation.fired = true) :
      Goes operation .notice { operation with stage := .disconnecting } (some .disconnect)
  | tearDown (result : Except DeviceError Unit) (outcome : Outcome)
      (hstage : operation.stage = .disconnecting) :
      Goes operation (.disconnected result) { operation with stage := .ended, guard := none }
        (operation.tells outcome)
  | giveUp (hstage : operation.stage ≠ .ended) :
      Goes operation .abandon { operation with attended := false, fired := true } none

section Transitions

variable {operation : Operation} {slot : Slot} {signal : Signal} {reaction : Reaction}

/-- There are no other transitions, and none of them touches the slot. -/
theorem Reacts.goes (h : Reacts operation slot signal reaction) (haside : operation.IsAside) :
    operation.Goes signal reaction.operation reaction.effect ∧ reaction.slot = slot := by
  have hslot : ∀ outcome, (operation.finish slot outcome).slot = slot := by
    intro outcome
    rw [Operation.finish_slot, haside.unguarded]
    rfl
  cases h with
  | takeFree hstage | preempt hstage => exact absurd (Or.inl hstage) haside.inside
  | takeOver _ hstage | fail _ hstage => exact absurd (Or.inr hstage) haside.inside
  | hear reply _ hdrive => exact ⟨.hear reply hdrive, rfl⟩
  | send message hdrive => exact ⟨.send message hdrive, rfl⟩
  | settle result hstage hdrive => exact ⟨.settle result hdrive hstage, hslot _⟩
  | notice hfired => exact ⟨.notice hfired, rfl⟩
  | tearDown hstage => exact ⟨.tearDown _ _ hstage, hslot _⟩
  | tearDownFailing error hstage => exact ⟨.tearDown _ _ hstage, hslot _⟩
  | giveUp _ _ _ hstage => exact ⟨.giveUp hstage, rfl⟩
  | fire hpurpose | detach hpurpose => exact absurd haside.purpose (hpurpose false)
  | release _ hpurpose | dropGuard _ hpurpose =>
    rw [haside.purpose] at hpurpose
    contradiction

theorem Operation.Goes.isAside {next : Operation} {effect : Option Effect}
    (h : operation.Goes signal next effect) (haside : operation.IsAside) : next.IsAside := by
  cases h with
  | hear | send | giveUp => exact ⟨haside.purpose, haside.inside, haside.unguarded⟩
  | notice => exact ⟨haside.purpose, by simp [IsOutside], haside.unguarded⟩
  | settle | tearDown => exact ⟨haside.purpose, by simp [IsOutside], rfl⟩

theorem Operation.new_isAside (request : Message) :
    (Operation.new (.supervised false) request).IsAside :=
  ⟨rfl, by simp [new, IsOutside], rfl⟩

end Transitions

/-! ## What is said and heard -/

/-- The call that an operation makes in a step, if it makes one. -/
def Step.call? (index : Nat) (step : Step) : Option Message :=
  match step.deed? with
  | some (other, .call message) => if other = index then some message else none
  | _ => none

/-- The calls of an operation, in order. -/
def callsOf (index : Nat) (steps : List Step) : List Message :=
  steps.filterMap (Step.call? index)

/-- The reply that an operation gets in a step, if it gets one. -/
def Step.reply? (index : Nat) (step : Step) : Option Reply :=
  match step.event with
  | .signal other (.answer reply) => if other = index then some reply else none
  | _ => none

/-- The replies to the calls of an operation, in order. -/
def repliesTo (index : Nat) (steps : List Step) : List Reply :=
  steps.filterMap (Step.reply? index)

theorem repliesTo_append (index : Nat) (first second : List Step) :
    repliesTo index (first ++ second) = repliesTo index first ++ repliesTo index second :=
  List.filterMap_append

/-- What a drive has yet to send. -/
def Drive.unsent : Drive → List Message
  | .ready message => [message]
  | _ => []

section Said

variable {index : Nat} {steps : List Step} {step : Step} {signal : Signal} {outcome : Outcome}

theorem mem_told_snoc :
    (index, outcome) ∈ told (steps ++ [step]) ↔
      (index, outcome) ∈ told steps ∨ step.deed? = some (index, .deliver outcome) := by
  have hone : (index, outcome) ∈ told [step] ↔ step.deed? = some (index, .deliver outcome) := by
    rcases hdeed : step.deed? with _ | ⟨other, effect⟩
    · simp [told, deeds, hdeed]
    · cases effect <;> simp [told, deeds, hdeed, Effect.told?, eq_comm]
  rw [told_append, List.mem_append, hone, or_comm]

theorem Step.deed?_ne_of_event (hevent : ∀ signal, step.event ≠ .signal index signal)
    (effect : Effect) : step.deed? ≠ some (index, effect) := by
  intro hdeed
  unfold deed? at hdeed
  split at hdeed
  · contradiction
  · rename_i other signal hsignal
    obtain ⟨found, -, hfound⟩ := Option.map_eq_some_iff.1 hdeed
    obtain rfl := (Prod.mk.inj hfound).1
    exact hevent signal hsignal

theorem Step.call?_of_other (hevent : ∀ signal, step.event ≠ .signal index signal) :
    step.call? index = none := by
  unfold Step.call?
  split
  · rename_i other message hdeed
    rw [if_neg]
    rintro rfl
    exact Step.deed?_ne_of_event hevent _ hdeed
  · rfl

theorem Step.reply?_of_other (hevent : ∀ signal, step.event ≠ .signal index signal) :
    step.reply? index = none := by
  unfold Step.reply?
  split
  · rename_i other reply hsignal
    rw [if_neg]
    rintro rfl
    exact hevent _ hsignal
  · rfl

theorem callsOf_snoc_of_other (hevent : ∀ signal, step.event ≠ .signal index signal) :
    callsOf index (steps ++ [step]) = callsOf index steps := by
  simp [callsOf, Step.call?_of_other hevent]

theorem repliesTo_snoc_of_other (hevent : ∀ signal, step.event ≠ .signal index signal) :
    repliesTo index (steps ++ [step]) = repliesTo index steps := by
  simp [repliesTo, Step.reply?_of_other hevent]

theorem callsOf_snoc_of_own (hevent : step.event = .signal index signal) :
    callsOf index (steps ++ [step])
      = callsOf index steps ++ (step.effect.bind Effect.sent?).toList := by
  have hcall : step.call? index = step.effect.bind Effect.sent? := by
    rcases heffect : step.effect with _ | effect
    · simp [Step.call?, Step.deed?, hevent, heffect]
    · cases effect <;> simp [Step.call?, Step.deed?, hevent, heffect, Effect.sent?]
  cases heffect : step.effect.bind Effect.sent? <;> simp [callsOf, hcall, heffect]

theorem deed?_of_own (hevent : step.event = .signal index signal) {effect : Effect} :
    step.deed? = some (index, effect) ↔ step.effect = some effect := by
  cases heffect : step.effect <;> simp [Step.deed?, hevent, heffect]

theorem repliesTo_snoc_of_answer {reply : Reply}
    (hevent : step.event = .signal index (.answer reply)) :
    repliesTo index (steps ++ [step]) = repliesTo index steps ++ [reply] := by
  simp [repliesTo, Step.reply?, hevent]

theorem repliesTo_snoc_of_other_signal (hevent : step.event = .signal index signal)
    (hsignal : ∀ reply, signal ≠ .answer reply) :
    repliesTo index (steps ++ [step]) = repliesTo index steps := by
  have hnone : step.reply? index = none := by
    cases signal with
    | answer reply => exact absurd rfl (hsignal reply)
    | _ => simp [Step.reply?, hevent]
  simp [repliesTo, hnone]

end Said

/-! ## The course of an operation beside the slot -/

/-- A reply makes the drive acknowledge a button request, or is what the drive ends with. -/
theorem Operation.Drive.after_cases (reply : Reply) :
    (asksButton reply = true ∧
        Drive.after reply = .ready DeviceRequest.acknowledgeButton.message) ∨
      ∃ result, Answers reply result ∧ Drive.after reply = .resolved result := by
  cases reply with
  | error error => exact Or.inr ⟨.error error, .error error, rfl⟩
  | ok message =>
    cases hverdict : message.verdict with
    | acknowledge =>
      refine Or.inl ⟨Conversation.verdict_eq_acknowledge_iff.1 hverdict, ?_⟩
      simp [Drive.after, hverdict]
    | resolved result =>
      refine Or.inr ⟨result, Conversation.ends_iff_answers.1 hverdict, ?_⟩
      simp [Drive.after, hverdict]

/-- What an operation beside the slot has said to the device, and what it has heard. -/
structure Speaks (index : Nat) (steps : List Step) (operation : Operation) : Prop where
  /-- The calls are the request, and an acknowledgement for each button request.  The last of them
  may be still to come. -/
  calls : callsOf index steps ++ operation.drive.unsent
    = operation.request :: List.replicate ((repliesTo index steps).countP asksButton)
        DeviceRequest.acknowledgeButton.message
  /-- The drive ends with the first other reply. -/
  resolved : ∀ result, operation.drive = .resolved result ↔
    ∃ reply ∈ repliesTo index steps, Answers reply result

/-- What the caller of an operation beside the slot has done, and what he has been told. -/
structure Attends (index : Nat) (steps : List Step) (operation : Operation) : Prop where
  given : operation.fired = true → operation.attended = false
  closing : operation.stage = .disconnecting → operation.fired = true
  /-- He is told how the drive has ended, and nothing else. -/
  told : ∀ outcome, (index, outcome) ∈ told steps →
    ∃ result, outcome = .result result ∧ operation.drive = .resolved result
  ended : operation.stage = .ended → operation.attended = true →
    ∃ outcome, (index, outcome) ∈ Access.told steps
  left : operation.attended = false → ∃ step ∈ steps, step.event = .signal index .abandon

section Course

variable {index : Nat} {steps : List Step} {step : Step} {operation next : Operation}
  {signal : Signal}

namespace Speaks

/-- The drive does nothing. -/
theorem keeps (h : Speaks index steps operation)
    (hcalls : callsOf index (steps ++ [step]) = callsOf index steps)
    (hreplies : repliesTo index (steps ++ [step]) = repliesTo index steps)
    (hrequest : next.request = operation.request) (hdrive : next.drive = operation.drive) :
    Speaks index (steps ++ [step]) next := by
  constructor
  · rw [hcalls, hreplies, hrequest, hdrive]
    exact h.calls
  · rw [hreplies, hdrive]
    exact h.resolved

/-- A drive that waits has heard nothing but button requests. -/
theorem not_answers (h : Speaks index steps operation) (hdrive : operation.drive = .awaiting) :
    ∀ reply ∈ repliesTo index steps, ∀ result, ¬ Answers reply result := by
  intro reply hreply result hanswers
  have hover := (h.resolved result).2 ⟨reply, hreply, hanswers⟩
  rw [hdrive] at hover
  contradiction

theorem send (h : Speaks index steps operation) {message : Message}
    (hdrive : operation.drive = .ready message)
    (hcalls : callsOf index (steps ++ [step]) = callsOf index steps ++ [message])
    (hreplies : repliesTo index (steps ++ [step]) = repliesTo index steps) :
    Speaks index (steps ++ [step]) { operation with drive := .awaiting } := by
  obtain ⟨hsaid, hover⟩ := h
  rw [hdrive] at hsaid hover
  constructor
  · rw [hcalls, hreplies]
    simpa [Drive.unsent] using hsaid
  · intro result
    rw [hreplies]
    simpa using hover result

theorem hear (h : Speaks index steps operation) {reply : Reply}
    (hdrive : operation.drive = .awaiting)
    (hcalls : callsOf index (steps ++ [step]) = callsOf index steps)
    (hreplies : repliesTo index (steps ++ [step]) = repliesTo index steps ++ [reply]) :
    Speaks index (steps ++ [step])
      { operation with drive := Operation.Drive.after reply } := by
  have hsaid := h.calls
  have hnone := h.not_answers hdrive
  rw [hdrive] at hsaid
  simp only [Drive.unsent, List.append_nil] at hsaid
  constructor
  · rw [hcalls, hreplies, hsaid, List.countP_append, List.countP_singleton, List.cons_append]
    rcases Operation.Drive.after_cases reply with ⟨hasks, hafter⟩ | ⟨result, hanswers, hafter⟩
    · rw [hafter, hasks, if_pos rfl, List.replicate_succ']
      rfl
    · rw [hafter, hanswers.not_asksButton]
      exact congrArg _ (List.append_nil _)
  · intro result
    simp only [hreplies, List.mem_append, List.mem_singleton]
    rcases Operation.Drive.after_cases reply with ⟨hasks, hafter⟩ | ⟨other, hanswers, hafter⟩
    · rw [hafter]
      refine iff_of_false (by simp) ?_
      rintro ⟨heard, hbefore | rfl, hheard⟩
      · exact hnone heard hbefore result hheard
      · rw [hheard.not_asksButton] at hasks
        contradiction
    · rw [hafter]
      constructor
      · intro hsame
        obtain rfl := Drive.resolved.inj hsame
        exact ⟨reply, Or.inr rfl, hanswers⟩
      · rintro ⟨heard, hbefore | rfl, hheard⟩
        · exact absurd hheard (hnone heard hbefore result)
        · rw [hanswers.unique hheard]

theorem goes (h : Speaks index steps operation) (hevent : step.event = .signal index signal)
    (hgoes : operation.Goes signal next step.effect) : Speaks index (steps ++ [step]) next := by
  have hcalls : callsOf index (steps ++ [step])
      = callsOf index steps ++ (step.effect.bind Effect.sent?).toList := callsOf_snoc_of_own hevent
  have htells : ∀ outcome, ((operation.tells outcome).bind Effect.sent?).toList = [] := by
    intro outcome
    unfold Operation.tells
    split <;> rfl
  generalize step.effect = effect at hgoes hcalls
  cases hgoes with
  | hear reply hdrive =>
    exact h.hear hdrive (hcalls.trans (List.append_nil _)) (repliesTo_snoc_of_answer hevent)
  | send message hdrive =>
    exact h.send hdrive hcalls (repliesTo_snoc_of_other_signal hevent (by simp))
  | settle | tearDown =>
    rw [htells, List.append_nil] at hcalls
    exact h.keeps hcalls (repliesTo_snoc_of_other_signal hevent (by simp)) rfl rfl
  | notice | giveUp =>
    exact h.keeps (hcalls.trans (List.append_nil _))
      (repliesTo_snoc_of_other_signal hevent (by simp)) rfl rfl

end Speaks

namespace Attends

/-- The caller is told nothing. -/
theorem untold (h : Attends index steps operation) (step : Step)
    (hdeed : ∀ outcome, step.deed? ≠ some (index, .deliver outcome)) :
    Attends index (steps ++ [step]) operation where
  given := h.given
  closing := h.closing
  told outcome hnow := h.told outcome ((mem_told_snoc.1 hnow).resolve_right (hdeed outcome))
  ended hstage hattended := by
    obtain ⟨outcome, hbefore⟩ := h.ended hstage hattended
    exact ⟨outcome, mem_told_snoc.2 (Or.inl hbefore)⟩
  left hgone := by
    obtain ⟨earlier, hearlier, habandon⟩ := h.left hgone
    exact ⟨earlier, List.mem_append_left _ hearlier, habandon⟩

/-- The drive goes on, which the caller does not notice. -/
theorem drives (h : Attends index steps operation)
    (hdrive : ∀ result, operation.drive ≠ .resolved result) (drive : Drive) :
    Attends index steps { operation with drive } where
  given := h.given
  closing := h.closing
  told outcome htold := by
    obtain ⟨result, -, hover⟩ := h.told outcome htold
    exact absurd hover (hdrive result)
  ended := h.ended
  left := h.left

/-- The drive is over, and with it the operation. -/
theorem settle (h : Attends index steps operation) {result : Except DeviceError Resolution}
    (hdrive : operation.drive = .resolved result)
    (hdeed : ∀ outcome, step.deed? = some (index, .deliver outcome) ↔
      operation.attended = true ∧ outcome = .result result) :
    Attends index (steps ++ [step]) { operation with stage := .ended, guard := none } where
  given := h.given
  closing hstage := nomatch hstage
  told outcome hnow := by
    rcases mem_told_snoc.1 hnow with hbefore | hsaid
    · exact h.told outcome hbefore
    · exact ⟨result, ((hdeed outcome).1 hsaid).2, hdrive⟩
  ended _ hattended := ⟨.result result, mem_told_snoc.2 (Or.inr ((hdeed _).2 ⟨hattended, rfl⟩))⟩
  left hgone := by
    obtain ⟨earlier, hearlier, habandon⟩ := h.left hgone
    exact ⟨earlier, List.mem_append_left _ hearlier, habandon⟩

theorem goes (h : Attends index steps operation) (hevent : step.event = .signal index signal)
    (hgoes : operation.Goes signal next step.effect) : Attends index (steps ++ [step]) next := by
  have hdeed : ∀ effect, step.deed? = some (index, effect) ↔ step.effect = some effect :=
    fun _ => deed?_of_own hevent
  generalize heffect : step.effect = effect at hgoes hdeed
  cases hgoes with
  | hear reply hdrive =>
    exact (h.untold step (by simp [hdeed])).drives (by simp [hdrive]) _
  | send message hdrive => exact (h.untold step (by simp [hdeed])).drives (by simp [hdrive]) _
  | settle result hdrive hstage =>
    refine h.settle hdrive fun outcome => ?_
    rw [hdeed, Operation.tells]
    split <;> simp [*, eq_comm]
  | notice hfired =>
    have hkept := h.untold step (by simp [hdeed])
    exact { hkept with closing := fun _ => hfired, ended := fun hstage => nomatch hstage }
  | tearDown result outcome hstage =>
    -- Only an operation that has been given up is torn down.
    have hgone := h.given (h.closing hstage)
    have hkept := h.untold step (by simp [hdeed, Operation.tells, hgone])
    exact { hkept with
      closing := fun hnow => nomatch hnow
      ended := fun _ hattended => absurd hattended (by simp [hgone]) }
  | giveUp hstage =>
    have hkept := h.untold step (by simp [hdeed])
    exact
      { given := fun _ => rfl
        closing := fun _ => rfl
        told := hkept.told
        ended := fun _ hattended => nomatch hattended
        left := fun _ => ⟨step, List.mem_append_right _ (List.mem_singleton_self _), hevent⟩ }

end Attends

end Course

/-- The course of an operation that bypasses the slot. -/
structure Bypasses (index : Nat) (steps : List Step) (operation : Operation) : Prop where
  aside : operation.IsAside
  speaks : Speaks index steps operation
  attends : Attends index steps operation

section Bypasses

variable {index : Nat} {steps : List Step} {step : Step} {last : State} {request : Message}

/-- Nothing has been said or heard when an operation begins. -/
theorem Bypasses.begins (hevents : ∀ step ∈ steps, ∀ signal, step.event ≠ .signal index signal)
    (request : Message) : Bypasses index steps (.new (.supervised false) request) := by
  have hcalls : callsOf index steps = [] :=
    List.filterMap_eq_nil_iff.2 fun step hstep => Step.call?_of_other (hevents step hstep)
  have hreplies : repliesTo index steps = [] :=
    List.filterMap_eq_nil_iff.2 fun step hstep => Step.reply?_of_other (hevents step hstep)
  have htold : ∀ outcome, (index, outcome) ∉ told steps := by
    intro outcome htold
    obtain ⟨deed, hdeed, hsame⟩ := List.mem_filterMap.1 (List.mem_reverse.1 htold)
    obtain ⟨step, hstep, hdoes⟩ := List.mem_filterMap.1 hdeed
    obtain ⟨found, -, hfound⟩ := Option.map_eq_some_iff.1 hsame
    obtain ⟨other, effect⟩ := deed
    obtain rfl := (Prod.mk.inj hfound).1
    exact Step.deed?_ne_of_event (hevents step hstep) effect hdoes
  constructor
  · exact Operation.new_isAside request
  · constructor
    · rw [hcalls, hreplies]
      rfl
    · simp [Operation.new, hreplies]
  · constructor
    · simp [Operation.new]
    · simp [Operation.new]
    · intro outcome hnow
      exact absurd hnow (htold outcome)
    · simp [Operation.new]
    · simp [Operation.new]

/-- The steps of the others make no difference. -/
theorem Bypasses.other {operation : Operation} (h : Bypasses index steps operation)
    (hevent : ∀ signal, step.event ≠ .signal index signal) :
    Bypasses index (steps ++ [step]) operation where
  aside := h.aside
  speaks := h.speaks.keeps (callsOf_snoc_of_other hevent) (repliesTo_snoc_of_other hevent) rfl rfl
  attends := h.attends.untold step fun _ => Step.deed?_ne_of_event hevent _

/-- What the client is told is how its drive has ended. -/
theorem Bypasses.lookup_told {operation : Operation}
    (h : Bypasses index steps operation) (hstage : operation.stage = .ended)
    (hattended : operation.attended = true) {result : Except DeviceError Resolution}
    (hdrive : operation.drive = .resolved result) :
    (told steps).lookup index = some (.result result) := by
  obtain ⟨outcome, htold⟩ := h.attends.ended hstage hattended
  cases hlookup : (told steps).lookup index with
  | none =>
    have hnone := List.lookup_eq_none_iff.1 hlookup _ htold
    simp at hnone
  | some other =>
    obtain ⟨front, back, hsplit, -⟩ := List.lookup_eq_some_iff.1 hlookup
    have hmem : (index, other) ∈ told steps := by simp [hsplit]
    obtain ⟨ended, rfl, hended⟩ := h.attends.told other hmem
    rw [hdrive] at hended
    obtain rfl := Drive.resolved.inj hended
    rfl

namespace Execution

theorem bypasses (h : Execution {} steps last) {operation : Operation}
    (hoperation : last.operations[index]? = some operation)
    (hpurpose : operation.purpose = .supervised false) : Bypasses index steps operation := by
  revert hpurpose
  refine h.operation_induction (fun steps operation =>
    operation.purpose = .supervised false → Bypasses index steps operation) ?_ ?_ ?_ hoperation
  · intro steps step purpose request _ _ hevent hearlier hpurpose
    rw [Operation.new_purpose] at hpurpose
    subst hpurpose
    apply Bypasses.begins
    rw [forall_mem_snoc]
    exact ⟨hearlier, by simp [hevent]⟩
  · intro steps step operation _ _ hevent ih hpurpose
    exact (ih hpurpose).other hevent
  · intro steps step signal operation reaction _ _ hevent hreacts heffect _ ih hpurpose
    rw [hreacts.purpose_eq] at hpurpose
    have hold := ih hpurpose
    have hgoes := (hreacts.goes hold.aside).1
    rw [← heffect] at hgoes
    exact ⟨hgoes.isAside hold.aside, hold.speaks.goes hevent hgoes,
      hold.attends.goes hevent hgoes⟩

/-- An operation that has begun is there from then on. -/
theorem operation_of_begins {purpose : Purpose} (h : Execution {} steps last)
    (hbegun : ∃ begin ∈ steps, begin.Begins index purpose request) :
    ∃ operation, last.operations[index]? = some operation ∧ operation.purpose = purpose ∧
      operation.request = request := by
  obtain ⟨opening, hopening, hbegins⟩ := hbegun
  obtain ⟨front, back, rfl⟩ := List.append_of_mem hopening
  obtain ⟨-, hlawful, hback⟩ := h.of_append_cons
  have hnew := hlawful.new_of_begins hbegins
  have hlt : index < last.operations.length :=
    Nat.lt_of_lt_of_le (List.getElem?_eq_some_iff.1 hnew).1 hback.length_le
  have hlater := List.getElem?_eq_getElem hlt
  exact ⟨_, hlater, by simpa using hback.keeps hnew hlater⟩

/-- No step of an operation that bypasses the slot touches it. -/
theorem leavesSlot (h : Execution {} steps last)
    (hbegun : ∃ begin ∈ steps, begin.Begins index (.supervised false) request)
    (hstep : step ∈ steps) (hof : step.IsOf index) : step.LeavesSlot := by
  obtain ⟨front, back, rfl⟩ := List.append_of_mem hstep
  obtain ⟨hfront, hlawful, -⟩ := h.of_append_cons
  rcases hof with ⟨purpose, message, hevent, -⟩ | ⟨signal, hevent⟩
  · exact hlawful.leavesSlot_of_begin hevent
  · rcases hlawful.cases with
      ⟨_, _, hbegin, -⟩ |
      ⟨other, sent, operation, reaction, hsignal, hoperation, hreacts, -, hslot, hafter⟩
    · rw [hevent] at hbegin
      contradiction
    · obtain ⟨rfl, rfl⟩ := Event.signal.inj (hevent.symm.trans hsignal)
      have haside := (hfront.bypasses hoperation
        (h.of_signal hbegun hevent hoperation).1).aside
      obtain ⟨hgoes, hsame⟩ := hreacts.goes haside
      refine ⟨hslot.trans hsame, fun place => ?_⟩
      rw [State.guard?, State.guard?, hafter]
      by_cases hplace : index = place
      · subst hplace
        rw [List.getElem?_set_self (List.getElem?_eq_some_iff.1 hoperation).1, hoperation]
        exact (hgoes.isAside haside).unguarded.trans haside.unguarded.symm
      · rw [List.getElem?_set_ne hplace]

/-- The calls of an operation that bypasses the slot are its request, and an acknowledgement for
each button request that it has heard of; the last of them may be still to come.  Before the first
it waits for nothing. -/
theorem calls_of_begins (h : Execution {} steps last)
    (hbegun : ∃ begin ∈ steps, begin.Begins index (.supervised false) request) :
    (∃ operation, last.operations[index]? = some operation ∧
      callsOf index steps ++ operation.drive.unsent
        = request :: List.replicate ((repliesTo index steps).countP asksButton)
            DeviceRequest.acknowledgeButton.message) ∧
      (callsOf index steps = [] →
        ∃ after, last.step (.signal index .send) = some (after, some (.call request))) := by
  obtain ⟨operation, hoperation, hpurpose, hrequest⟩ := h.operation_of_begins hbegun
  have hcalls := (h.bypasses hoperation hpurpose).speaks.calls
  rw [hrequest] at hcalls
  refine ⟨⟨operation, hoperation, hcalls⟩, fun hnone => ?_⟩
  rw [hnone, List.nil_append] at hcalls
  have hready : operation.drive = .ready request := by
    cases hdrive : operation.drive with
    | ready message =>
      rw [hdrive] at hcalls
      rw [(List.cons.inj hcalls).1]
    | idle | awaiting | resolved =>
      rw [hdrive] at hcalls
      contradiction
  simp [State.step, hoperation, Operation.react, hready]

end Execution

/-- Where everything has settled, the request is the next message that the device receives, whoever
holds the slot. -/
theorem Rehearsal.IsOrderly.start_sent {rest : Rehearsal} (h : rest.IsOrderly)
    (message : Message) :
    ∃ later, (rest.start (.supervised false) message).device.sent
      = later ++ message :: rest.device.sent := by
  have hstart : rest.start (.supervised false) message
      = (alone rest.state.operations rest.state.slot (.new (.supervised false) message) rest.device
          rest.delivered).settle := by
    show Rehearsal.settle _ = _
    rw [alone, ← h.quiet]
  rw [hstart]
  exact settle_ready_sent h.still rfl rfl

end Bypasses

end WalletGateway.Access
