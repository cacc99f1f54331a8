import Mathlib.Data.List.Induction
import WalletGateway.Access.State
import WalletGateway.Proofs.Access.Reaction

/-!
# Executions

An execution is a run of the access to a device, taken step by step.  Its steps keep the states
around each event, so that a statement can speak of what was the case when something happened.

* One step.  `Step.operation_cases` says what a step means for one operation: it starts it, leaves
  it alone, or is one of its transitions.
* Many steps.  `Execution.operation_induction` is the induction along an execution for a property of
  one operation and of the steps so far.
* The slot.  `takers` lists the operations that took the slot, in order.  An operation takes it at
  most once (`nodup_takers`), the number of its guard is its position in the list (`guard_id`), and
  a held slot belongs to the last of them (`holder_eq`).
-/

namespace WalletGateway.Access

/-! ## One step -/

/-- One event of an execution. -/
structure Step where
  before : State
  event : Event
  effect : Option Effect
  after : State

/-- Whether the event can occur, and has the consequences that the step says. -/
def Step.IsLawful (step : Step) : Prop :=
  step.before.step step.event = some (step.after, step.effect)

/-- A lawful step starts an operation, or is a transition of one of those that there are. -/
theorem Step.IsLawful.cases {step : Step} (h : step.IsLawful) :
    (∃ purpose request, step.event = .begin purpose request ∧
        step.after.slot = step.before.slot ∧
        step.after.operations = step.before.operations ++ [.new purpose request]) ∨
      ∃ index signal operation reaction, step.event = .signal index signal ∧
        step.before.operations[index]? = some operation ∧
        Reacts operation step.before.slot signal reaction ∧ step.effect = reaction.effect ∧
        step.after.slot = reaction.slot ∧
        step.after.operations = step.before.operations.set index reaction.operation := by
  obtain ⟨before, event, effect, after⟩ := step
  simp only [IsLawful] at h
  cases event with
  | «begin» purpose request =>
    obtain ⟨rfl, rfl⟩ := Prod.mk.inj (Option.some.inj h)
    exact Or.inl ⟨purpose, request, rfl, rfl, rfl⟩
  | signal index signal =>
    simp only [State.step] at h
    split at h
    · contradiction
    · rename_i operation hoperation
      split at h
      · contradiction
      · rename_i reaction hreact
        obtain ⟨rfl, rfl⟩ := Prod.mk.inj (Option.some.inj h)
        exact Or.inr ⟨index, signal, operation, reaction, rfl, hoperation, reacts hreact, rfl,
          rfl, rfl⟩

/-- A step starts an operation, leaves it alone, or is one of its transitions. -/
theorem Step.IsLawful.operation_cases {step : Step} (h : step.IsLawful) {index : Nat}
    {operation : Operation} (hoperation : step.after.operations[index]? = some operation) :
    (∃ purpose request, step.event = .begin purpose request ∧
        index = step.before.operations.length ∧ operation = .new purpose request) ∨
      step.before.operations[index]? = some operation ∧
        (∀ signal, step.event ≠ .signal index signal) ∨
      ∃ signal old reaction, step.event = .signal index signal ∧
        step.before.operations[index]? = some old ∧
        Reacts old step.before.slot signal reaction ∧ step.effect = reaction.effect ∧
        step.after.slot = reaction.slot ∧ operation = reaction.operation := by
  rcases h.cases with
    ⟨purpose, request, hevent, -, hafter⟩ |
    ⟨other, signal, old, reaction, hevent, hold, hreacts, heffect, hslot, hafter⟩
  · rw [hafter] at hoperation
    rcases Nat.lt_or_ge index step.before.operations.length with hlt | hge
    · rw [List.getElem?_append_left hlt] at hoperation
      exact Or.inr (Or.inl ⟨hoperation, by simp [hevent]⟩)
    · rw [List.getElem?_append_right hge] at hoperation
      obtain ⟨hlt, hlast⟩ := List.getElem?_eq_some_iff.1 hoperation
      simp only [List.length_singleton, List.getElem_singleton] at hlt hlast
      exact Or.inl ⟨purpose, request, hevent, by omega, hlast.symm⟩
  · rw [hafter] at hoperation
    by_cases heq : other = index
    · subst heq
      rw [List.getElem?_set_self (List.getElem?_eq_some_iff.1 hold).1] at hoperation
      exact Or.inr (Or.inr ⟨signal, old, reaction, hevent, hold, hreacts, heffect, hslot,
        (Option.some.inj hoperation).symm⟩)
    · rw [List.getElem?_set_ne heq] at hoperation
      refine Or.inr (Or.inl ⟨hoperation, fun sent hsent => heq ?_⟩)
      rw [hevent] at hsent
      exact (Event.signal.inj hsent).1

/-- Operations stay in their places. -/
theorem Step.IsLawful.length_le {step : Step} (h : step.IsLawful) :
    step.before.operations.length ≤ step.after.operations.length := by
  rcases h.cases with ⟨_, _, _, _, hafter⟩ | ⟨_, _, _, _, _, _, _, _, _, hafter⟩
  · simp [hafter]
  · simp [hafter]

/-- Only an operation that there is can be signalled. -/
theorem Step.IsLawful.lt_of_signal {step : Step} (h : step.IsLawful) {index : Nat}
    {signal : Signal} (hevent : step.event = .signal index signal) :
    index < step.before.operations.length := by
  rcases h.cases with
    ⟨_, _, hbegin, _, _⟩ | ⟨other, sent, _, _, hother, hold, _, _, _, _⟩
  · rw [hevent] at hbegin
    contradiction
  · rw [hevent] at hother
    obtain ⟨rfl, rfl⟩ := Event.signal.inj hother
    exact (List.getElem?_eq_some_iff.1 hold).1

/-- A step that does not signal an operation signals another, if any. -/
theorem Step.ne_of_event {step : Step} {index other : Nat} {signal : Signal}
    (hother : ∀ signal, step.event ≠ .signal index signal)
    (hevent : step.event = .signal other signal) : other ≠ index := by
  rintro rfl
  exact hother signal hevent

/-! ## Many steps -/

/-- The steps that lead from one state to another. -/
inductive Execution (start : State) : List Step → State → Prop where
  | refl : Execution start [] start
  | snoc {steps : List Step} {step : Step} (hsteps : Execution start steps step.before)
      (hlawful : step.IsLawful) : Execution start (steps ++ [step]) step.after

/-- The steps of a run, up to the first event that cannot occur. -/
def State.steps (state : State) : List Event → List Step
  | [] => []
  | event :: events =>
    match state.step event with
    | none => []
    | some (after, effect) => ⟨state, event, effect, after⟩ :: after.steps events

namespace Execution

theorem append {start middle last : State} {first second : List Step}
    (hfirst : Execution start first middle) (hsecond : Execution middle second last) :
    Execution start (first ++ second) last := by
  induction hsecond with
  | refl => simpa using hfirst
  | snoc _ hlawful ih =>
    rw [← List.append_assoc]
    exact ih.snoc hlawful

/-- Every run is an execution. -/
theorem of_run {state last : State} {events : List Event} {trace : List (Event × Option Effect)}
    (h : state.run events = some (last, trace)) : Execution state (state.steps events) last := by
  induction events generalizing state trace with
  | nil =>
    obtain ⟨rfl, rfl⟩ := Prod.mk.inj (Option.some.inj h)
    exact .refl
  | cons event events ih =>
    simp only [State.run] at h
    split at h
    · contradiction
    · rename_i next effect hstep
      split at h
      · contradiction
      · rename_i final rest hrun
        obtain ⟨rfl, rfl⟩ := Prod.mk.inj (Option.some.inj h)
        simp only [State.steps, hstep]
        have hfirst : Execution state ([] ++ [⟨state, event, effect, next⟩]) next :=
          .snoc .refl hstep
        exact hfirst.append (ih hrun)

/-- A run that does not stop short is an execution, with its last step set apart. -/
theorem exists_of_isSome_run {state : State} {events : List Event} (h : (state.run events).isSome)
    (hsteps : state.steps events ≠ []) :
    ∃ last, Execution state
      ((state.steps events).dropLast ++ [(state.steps events).getLast hsteps]) last := by
  obtain ⟨⟨last, trace⟩, hrun⟩ := Option.isSome_iff_exists.1 h
  rw [List.dropLast_concat_getLast]
  exact ⟨last, of_run hrun⟩

/-- The last step of an execution starts where the steps before it end. -/
theorem of_snoc {start last : State} {steps : List Step} {step : Step}
    (h : Execution start (steps ++ [step]) last) :
    Execution start steps step.before ∧ step.IsLawful ∧ last = step.after := by
  generalize hall : steps ++ [step] = all at h
  cases h with
  | refl => simp at hall
  | snoc hsteps hlawful =>
    obtain ⟨rfl, hlast⟩ := List.append_inj' hall rfl
    obtain rfl := List.singleton_inj.1 hlast
    exact ⟨hsteps, hlawful, rfl⟩

/-- Every step of an execution starts where the steps before it end, and the steps after it go on
from its end. -/
theorem of_append_cons {start last : State} {first second : List Step} {step : Step}
    (h : Execution start (first ++ step :: second) last) :
    Execution start first step.before ∧ step.IsLawful ∧ Execution step.after second last := by
  induction second using List.reverseRecOn generalizing last with
  | nil =>
    obtain ⟨hfirst, hlawful, rfl⟩ := h.of_snoc
    exact ⟨hfirst, hlawful, .refl⟩
  | append_singleton second other ih =>
    rw [← List.cons_append, ← List.append_assoc] at h
    obtain ⟨hrest, hother, rfl⟩ := h.of_snoc
    obtain ⟨hfirst, hlawful, hsecond⟩ := ih hrest
    exact ⟨hfirst, hlawful, hsecond.snoc hother⟩

/-- Only operations that there are have been signalled. -/
theorem lt_of_signal {steps : List Step} {last : State} (h : Execution {} steps last) {step : Step}
    (hstep : step ∈ steps) {index : Nat} {signal : Signal}
    (hevent : step.event = .signal index signal) : index < last.operations.length := by
  induction h with
  | refl => contradiction
  | snoc _ hlawful ih =>
    have hle := hlawful.length_le
    rcases List.mem_append.1 hstep with hold | hnew
    · have := ih hold
      omega
    · obtain rfl := List.mem_singleton.1 hnew
      have := hlawful.lt_of_signal hevent
      omega

/-- An operation has not been signalled when it begins. -/
theorem unsignalled_of_begin {steps : List Step} {step : Step} (h : Execution {} steps step.before)
    {purpose : Purpose} {request : Message} (hevent : step.event = .begin purpose request) :
    ∀ other ∈ steps ++ [step], ∀ signal,
      other.event ≠ .signal step.before.operations.length signal := by
  intro other hother signal hsignal
  rcases List.mem_append.1 hother with hold | hnew
  · exact absurd (h.lt_of_signal hold hsignal) (Nat.lt_irrefl _)
  · rw [List.mem_singleton.1 hnew, hevent] at hsignal
    contradiction

/-- What holds of an operation when it starts, and is kept both by its own transitions and by the
steps of others, holds of it along every execution. -/
theorem operation_induction (property : List Step → Operation → Prop) {index : Nat}
    (hnew : ∀ steps step purpose request, Execution {} steps step.before → step.IsLawful →
      step.event = .begin purpose request →
      (∀ earlier ∈ steps, ∀ signal, earlier.event ≠ .signal index signal) →
      property (steps ++ [step]) (.new purpose request))
    (hother : ∀ steps step operation, Execution {} steps step.before → step.IsLawful →
      (∀ signal, step.event ≠ .signal index signal) → property steps operation →
      property (steps ++ [step]) operation)
    (hown : ∀ steps step signal operation reaction, Execution {} steps step.before →
      step.IsLawful → step.event = .signal index signal →
      Reacts operation step.before.slot signal reaction → step.effect = reaction.effect →
      step.after.slot = reaction.slot → property steps operation →
      property (steps ++ [step]) reaction.operation)
    {steps : List Step} {last : State} (h : Execution {} steps last) {operation : Operation}
    (hoperation : last.operations[index]? = some operation) : property steps operation := by
  induction h generalizing operation with
  | refl => contradiction
  | snoc hsteps hlawful ih =>
    rcases hlawful.operation_cases hoperation with
      ⟨purpose, request, hevent, hindex, rfl⟩ | ⟨hold, hevent⟩ |
      ⟨signal, old, reaction, hevent, hold, hreacts, heffect, hslot, rfl⟩
    · refine hnew _ _ purpose request hsteps hlawful hevent fun earlier hearlier => ?_
      subst hindex
      exact hsteps.unsignalled_of_begin hevent earlier (List.mem_append_left _ hearlier)
    · exact hother _ _ operation hsteps hlawful hevent (ih hold)
    · exact hown _ _ signal old reaction hsteps hlawful hevent hreacts heffect hslot (ih hold)

end Execution

/-! ## Who takes the slot -/

/-- The operation that takes the slot in a step, if one does. -/
def Step.taker? (step : Step) : Option Nat :=
  match step.event with
  | .begin .. => none
  | .signal index _ => if step.after.slot = step.before.slot.take.2 then some index else none

/-- The operations that take the slot, in order. -/
def takers (steps : List Step) : List Nat :=
  steps.filterMap Step.taker?

@[simp] theorem takers_nil : takers [] = [] := rfl

@[simp] theorem takers_append (first second : List Step) :
    takers (first ++ second) = takers first ++ takers second :=
  List.filterMap_append

@[simp] theorem takers_cons (step : Step) (steps : List Step) :
    takers (step :: steps) = step.taker?.toList ++ takers steps := by
  cases h : step.taker? <;> simp [takers, h]

theorem mem_takers_snoc {steps : List Step} {step : Step} {index : Nat} :
    index ∈ takers (steps ++ [step]) ↔ index ∈ takers steps ∨ step.taker? = some index := by
  simp

/-- An operation that may still take the slot. -/
def Operation.IsOutside (operation : Operation) : Prop :=
  operation.stage = .waiting ∨ operation.stage = .preempting

/-- No operation comes back to where it may take the slot. -/
theorem Reacts.isOutside_of_isOutside {operation : Operation} {slot : Slot} {signal : Signal}
    {reaction : Reaction} (h : Reacts operation slot signal reaction)
    (houtside : reaction.operation.IsOutside) : operation.IsOutside := by
  cases h with
  | takeFree hstage => exact Or.inl hstage
  | preempt hstage => exact Or.inl hstage
  | takeOver reply hstage => exact Or.inr hstage
  | hear | send | fire | giveUp | release | dropGuard => exact houtside
  | fail | settle | notice | tearDown | tearDownFailing | detach =>
    exact absurd houtside (by simp [Operation.IsOutside])

theorem Operation.takeSlot_not_isOutside (operation : Operation) (slot : Slot) :
    ¬ (operation.takeSlot slot).operation.IsOutside := by
  simp only [IsOutside, takeSlot_stage]
  split <;> simp

/-- A transition is a taking exactly when the slot is handed out. -/
theorem Step.taker?_of_signal {step : Step} {index : Nat} {signal : Signal}
    (hevent : step.event = .signal index signal) :
    step.taker? = if step.after.slot = step.before.slot.take.2 then some index else none := by
  simp [taker?, hevent]

theorem Step.event_of_taker? {step : Step} {index : Nat} (htake : step.taker? = some index) :
    ∃ signal, step.event = .signal index signal := by
  unfold taker? at htake
  split at htake
  · contradiction
  · rename_i other signal hevent
    split at htake
    · obtain rfl := Option.some.inj htake
      exact ⟨signal, hevent⟩
    · contradiction

/-- Nobody but the operation that is signalled takes the slot. -/
theorem Step.taker?_ne_of_event {step : Step} {index : Nat}
    (hevent : ∀ signal, step.event ≠ .signal index signal) : step.taker? ≠ some index := by
  intro htake
  obtain ⟨signal, hsignal⟩ := event_of_taker? htake
  exact hevent signal hsignal

theorem Step.slot_ne_take {step : Step} {index : Nat} {signal : Signal}
    (hevent : step.event = .signal index signal) (hnone : step.taker? = none) :
    step.after.slot ≠ step.before.slot.take.2 := by
  intro htaken
  rw [taker?_of_signal hevent, if_pos htaken] at hnone
  contradiction

/-- Whoever has taken the slot has been signalled. -/
theorem signal_of_mem_takers {steps : List Step} {index : Nat} (h : index ∈ takers steps) :
    ∃ step ∈ steps, ∃ signal, step.event = .signal index signal := by
  obtain ⟨taking, htaking, htake⟩ := List.mem_filterMap.1 h
  exact ⟨taking, htaking, Step.event_of_taker? htake⟩

/-- An operation takes the slot when it finds it free, or when its Cancel request is answered. -/
theorem Step.IsLawful.of_taker? {step : Step} (h : step.IsLawful) {index : Nat}
    (htake : step.taker? = some index) :
    step.after.slot = step.before.slot.take.2 ∧
      ∃ signal operation, step.event = .signal index signal ∧
        step.before.operations[index]? = some operation ∧
        step.after.operations[index]? = some (operation.takeSlot step.before.slot).operation ∧
        (operation.stage = .waiting ∧ step.before.slot.holder = none ∨
          operation.stage = .preempting ∧ ∃ reply, signal = .answer (.ok reply)) := by
  rcases h.cases with
    ⟨purpose, request, hevent, -, -⟩ |
    ⟨other, signal, operation, reaction, hevent, hold, hreacts, -, hslot, hafter⟩
  · simp [taker?, hevent] at htake
  · rw [taker?_of_signal hevent] at htake
    split at htake
    · rename_i htaken
      obtain rfl := Option.some.inj htake
      obtain ⟨rfl, hwas⟩ := hreacts.of_slot_eq_take (hslot ▸ htaken)
      refine ⟨htaken, signal, operation, hevent, hold, ?_, hwas⟩
      rw [hafter, List.getElem?_set_self (List.getElem?_eq_some_iff.1 hold).1]
    · contradiction

/-- Where the slot is not taken it can only become free. -/
theorem Step.IsLawful.slot_of_no_taker {step : Step} (h : step.IsLawful)
    (hnone : step.taker? = none) :
    step.after.slot.next = step.before.slot.next ∧
      ∀ id, step.after.slot.holder = some id → step.before.slot.holder = some id := by
  rcases h.cases with
    ⟨purpose, request, -, hslot, -⟩ |
    ⟨index, signal, operation, reaction, hevent, -, hreacts, -, hslot, -⟩
  · rw [hslot]
    exact ⟨rfl, fun _ hid => hid⟩
  · have hkeep := slot_ne_take hevent hnone
    rw [hslot] at hkeep ⊢
    rcases hreacts.slot_cases with ⟨hsame, -⟩ | ⟨htaken, -⟩ | ⟨guard, -, hback, -⟩
    · rw [hsame]
      exact ⟨rfl, fun _ hid => hid⟩
    · exact absurd htaken hkeep
    · rw [hback]
      refine ⟨Slot.giveBack_next _ _, fun id hid => ?_⟩
      rcases step.before.slot.giveBack_holder guard with hheld | ⟨hfree, -⟩
      · rw [← hheld, hid]
      · rw [hfree] at hid
        contradiction

/-- Nobody has a guard when he begins. -/
theorem Operation.new_guard (purpose : Purpose) (request : Message) :
    (Operation.new purpose request).guard = none := by
  unfold new
  split <;> rfl

namespace Execution

variable {steps : List Step} {last : State}

/-- The next guard gets the number of takings so far. -/
theorem next_eq (h : Execution {} steps last) :
    last.slot.next = UInt64.ofNat (takers steps).length := by
  induction h with
  | refl => rfl
  | @snoc steps step hsteps hlawful ih =>
    cases htake : step.taker? with
    | none => simpa [htake] using (hlawful.slot_of_no_taker htake).1.trans ih
    | some index =>
      simp only [(hlawful.of_taker? htake).1, Slot.take, ih, takers_append, takers_cons, htake,
        Option.toList_some, takers_nil, List.append_nil, List.length_append, List.length_singleton,
        UInt64.ofNat_add]
      rfl

/-- A held slot belongs to the last taker. -/
theorem holder_eq (h : Execution {} steps last) {id : UInt64}
    (hheld : last.slot.holder = some id) :
    takers steps ≠ [] ∧ id = UInt64.ofNat ((takers steps).length - 1) := by
  induction h with
  | refl => contradiction
  | @snoc steps step hsteps hlawful ih =>
    cases htake : step.taker? with
    | none => simpa [htake] using ih ((hlawful.slot_of_no_taker htake).2 id hheld)
    | some index =>
      rw [(hlawful.of_taker? htake).1] at hheld
      obtain rfl := Option.some.inj hheld
      simp [htake, hsteps.next_eq]

/-- An operation that has taken the slot does not take it again. -/
theorem not_isOutside (h : Execution {} steps last) {index : Nat} {operation : Operation}
    (hoperation : last.operations[index]? = some operation) (htaken : index ∈ takers steps) :
    ¬ operation.IsOutside := by
  revert htaken
  refine h.operation_induction (fun steps operation =>
    index ∈ takers steps → ¬ operation.IsOutside) ?_ ?_ ?_ hoperation
  · intro steps step purpose request _ _ hevent hunknown htaken
    rcases mem_takers_snoc.1 htaken with hold | hnew
    · obtain ⟨taking, htaking, signal, hsignal⟩ := signal_of_mem_takers hold
      exact absurd hsignal (hunknown taking htaking signal)
    · exact absurd hnew (Step.taker?_ne_of_event (by simp [hevent]))
  · intro steps step operation _ _ hevent ih htaken
    exact ih ((mem_takers_snoc.1 htaken).resolve_right (Step.taker?_ne_of_event hevent))
  · intro steps step signal operation reaction _ hlawful hevent hreacts _ hslot ih htaken houtside
    have hwas := hreacts.isOutside_of_isOutside houtside
    rcases mem_takers_snoc.1 htaken with hold | hnew
    · exact ih hold hwas
    · obtain ⟨rfl, -⟩ := hreacts.of_slot_eq_take (hslot ▸ (hlawful.of_taker? hnew).1)
      exact operation.takeSlot_not_isOutside _ houtside

/-- An operation takes the slot at most once. -/
theorem nodup_takers (h : Execution {} steps last) : (takers steps).Nodup := by
  induction h with
  | refl => exact List.nodup_nil
  | @snoc steps step hsteps hlawful ih =>
    simp only [takers_append, takers_cons, takers_nil, List.append_nil]
    cases htake : step.taker? with
    | none => simpa using ih
    | some index =>
      obtain ⟨-, signal, operation, -, hoperation, -, hwas⟩ := hlawful.of_taker? htake
      have hfresh : index ∉ takers steps := fun htaken =>
        hsteps.not_isOutside hoperation htaken (hwas.imp And.left And.left)
      rw [List.nodup_append]
      refine ⟨ih, by simp, ?_⟩
      rintro other hother index' hindex' rfl
      obtain rfl := List.mem_singleton.1 hindex'
      exact hfresh hother

/-- The number of a guard is the position of its operation among the takers. -/
theorem guard_id (h : Execution {} steps last) {index : Nat} {operation : Operation}
    {guard : Guard} (hoperation : last.operations[index]? = some operation)
    (hguard : operation.guard = some guard) :
    ∃ turn, (takers steps)[turn]? = some index ∧ guard.id = UInt64.ofNat turn := by
  have hkeep : ∀ {steps : List Step} (step : Step) {turn : Nat},
      (takers steps)[turn]? = some index → (takers (steps ++ [step]))[turn]? = some index := by
    intro steps step turn hturn
    rw [takers_append, List.getElem?_append_left (List.getElem?_eq_some_iff.1 hturn).1]
    exact hturn
  revert guard hguard
  refine h.operation_induction (fun steps operation =>
    ∀ {guard}, operation.guard = some guard →
      ∃ turn, (takers steps)[turn]? = some index ∧ guard.id = UInt64.ofNat turn) ?_ ?_ ?_ hoperation
  · intro steps step purpose request _ _ _ _ guard hguard
    rw [Operation.new_guard] at hguard
    contradiction
  · intro steps step operation _ _ _ ih guard hguard
    obtain ⟨turn, hturn, hid⟩ := ih hguard
    exact ⟨turn, hkeep step hturn, hid⟩
  · intro steps step signal operation reaction hsteps _ hevent hreacts _ hslot ih guard hguard
    rcases hreacts.slot_cases with ⟨-, hsame⟩ | ⟨htaken, hnew⟩ | ⟨old, hold, -, hgone | hkept⟩
    · obtain ⟨turn, hturn, hid⟩ := ih (hsame ▸ hguard)
      exact ⟨turn, hkeep step hturn, hid⟩
    · rw [hnew] at hguard
      obtain rfl := Option.some.inj hguard
      have htake : step.taker? = some index := by
        rw [Step.taker?_of_signal hevent, if_pos (hslot.trans htaken)]
      refine ⟨(takers steps).length, ?_, hsteps.next_eq⟩
      simp [htake]
    · rw [hgone] at hguard
      contradiction
    · rw [hkept] at hguard
      obtain rfl := Option.some.inj hguard
      obtain ⟨turn, hturn, hid⟩ := ih hold
      exact ⟨turn, hkeep step hturn, hid⟩

end Execution

end WalletGateway.Access
