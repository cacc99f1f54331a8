import WalletGateway.Proofs.Access.Exclusion
import WalletGateway.Proofs.Access.Stillness

/-!
# How long the slot is held

The slot is held by the guard that was made last, until that is let go; then it is free, until the
next guard is made.  `slot_follows_guards` says so for every execution, and what follows from it for
operations under supervision, for guards that were overtaken, and for the end.

* Making guards.  `guardsMade` lists the guards that operations were given, as the operations show
  them; it does not look at the slot.
* Letting go.  A guard is let go by its caller, or at the end of its operation: `Step.LetsGo`.  The
  invariant of one operation is `Keeping`: its guard is in force from the taking of the slot until
  it is let go.
* The slot.  `guardsMade_eq` says that a guard is made whenever the slot is taken, and at no other
  time, so that what is known of the takers carries over to the guards (`holder_iff`).
-/

namespace WalletGateway.Access

/-! ## Making guards -/

/-- The guard of an operation, if it has one. -/
def State.guard? (state : State) (index : Nat) : Option Guard :=
  (state.operations[index]?).bind Operation.guard

/-- The operation that is given a guard in a step, if one is, and the number of the guard.  It has
the guard after the step, and had none of that number before. -/
def Step.madeGuard? (step : Step) : Option (Nat × UInt64) :=
  match step.event with
  | .begin .. => none
  | .signal index _ =>
    match step.after.guard? index with
    | none => none
    | some guard =>
      if (step.before.guard? index).map Guard.id = some guard.id then none
      else some (index, guard.id)

/-- The guards that are made, in order: to which operations they are given, and their numbers. -/
def guardsMade (steps : List Step) : List (Nat × UInt64) :=
  steps.filterMap Step.madeGuard?

/-! ## Letting go -/

/-- Whether a signal lets go of a guard: the caller releases or drops it, or the operation ends. -/
def Signal.letsGo : Signal → Bool
  | release | dropGuard | settle | disconnected _ => true
  | _ => false

/-- The guard of an operation is let go in a step, if there is one. -/
def Step.LetsGo (step : Step) (index : Nat) : Prop :=
  ∃ signal, step.event = .signal index signal ∧ signal.letsGo = true

/-- The guard of an operation has been given out, and is not released. -/
def Operation.HasGuard (operation : Operation) : Prop :=
  ∃ id, operation.guard = some ⟨id, false⟩

theorem Step.not_letsGo_of_event {step : Step} {index : Nat}
    (hevent : ∀ signal, step.event ≠ .signal index signal) : ¬ step.LetsGo index := by
  rintro ⟨signal, hsignal, -⟩
  exact hevent signal hsignal

theorem Step.letsGo_iff {step : Step} {index : Nat} {signal : Signal}
    (hevent : step.event = .signal index signal) :
    step.LetsGo index ↔ signal.letsGo = true := by
  constructor
  · rintro ⟨other, hother, hgoes⟩
    obtain rfl := (Event.signal.inj (hevent.symm.trans hother)).2
    exact hgoes
  · exact fun hgoes => ⟨signal, hevent, hgoes⟩

/-- Nobody lets go of a guard and takes the slot at once. -/
theorem Reacts.not_letsGo_of_take {operation : Operation} {slot : Slot} {signal : Signal}
    {reaction : Reaction} (h : Reacts operation slot signal reaction)
    (htake : reaction.slot = slot.take.2) : signal.letsGo = false := by
  obtain ⟨-, hwas⟩ := h.of_slot_eq_take htake
  cases h with
  | settle _ hstage | tearDown hstage | tearDownFailing _ hstage => simp [hstage] at hwas
  | release guard | dropGuard guard =>
    exact absurd ((congrArg Slot.next htake).symm.trans (slot.giveBack_next guard))
      slot.take_next_ne
  | takeFree | preempt | takeOver | fail | hear | send | notice | fire | giveUp | detach => rfl

/-! ## The guard of one operation -/

/-- What is known of the guard of an operation: it is in force from the taking of the slot until it
is let go, and there is none before. -/
structure Keeping (index : Nat) (steps : List Step) (operation : Operation) : Prop where
  hasGuard : operation.HasGuard ↔ index ∈ takers steps ∧ ∀ step ∈ steps, ¬ step.LetsGo index
  outside : operation.IsOutside → operation.guard = none ∧ ∀ step ∈ steps, ¬ step.LetsGo index

theorem forall_mem_snoc {steps : List Step} {step : Step} {property : Step → Prop} :
    (∀ other ∈ steps ++ [step], property other) ↔
      (∀ other ∈ steps, property other) ∧ property step := by
  simp [or_imp, forall_and]

namespace Keeping

variable {index : Nat} {steps : List Step} {step : Step} {old new : Operation}

/-- A step that leaves the guard alone, and neither takes the slot nor lets go of it, changes
nothing. -/
theorem snoc (h : Keeping index steps old) (htake : step.taker? ≠ some index)
    (hkept : ¬ step.LetsGo index) (hguard : new.guard = old.guard)
    (houtside : new.IsOutside → old.IsOutside) : Keeping index (steps ++ [step]) new := by
  constructor
  · rw [Operation.HasGuard, hguard, mem_takers_snoc, or_iff_left htake, forall_mem_snoc,
      and_iff_left hkept]
    exact h.hasGuard
  · intro hnew
    obtain ⟨hnone, hearlier⟩ := h.outside (houtside hnew)
    rw [hguard, forall_mem_snoc]
    exact ⟨hnone, hearlier, hkept⟩

/-- Letting go ends the force of the guard, inside or where there is none. -/
theorem letGo (hgoes : step.LetsGo index) (hgone : ¬ new.HasGuard)
    (hinside : ¬ new.IsOutside) : Keeping index (steps ++ [step]) new := by
  constructor
  · refine iff_of_false hgone fun hkept => ?_
    exact (forall_mem_snoc.1 hkept.2).2 hgoes
  · exact fun hnew => absurd hnew hinside

/-- Taking the slot gives out a guard. -/
theorem take (h : Keeping index steps old) (htake : step.taker? = some index)
    (hkept : ¬ step.LetsGo index) (hwas : old.IsOutside) (slot : Slot) :
    Keeping index (steps ++ [step]) (old.takeSlot slot).operation := by
  have hinside := old.takeSlot_not_isOutside slot
  constructor
  · refine iff_of_true ⟨_, old.takeSlot_guard slot⟩ ⟨mem_takers_snoc.2 (Or.inr htake), ?_⟩
    exact forall_mem_snoc.2 ⟨(h.outside hwas).2, hkept⟩
  · exact fun hnew => absurd hnew hinside

end Keeping

theorem Operation.not_hasGuard_of_none {operation : Operation} (h : operation.guard = none) :
    ¬ operation.HasGuard := by
  rintro ⟨id, hguard⟩
  rw [h] at hguard
  contradiction

theorem Operation.finish_not_isOutside (operation : Operation) (slot : Slot) (outcome : Outcome) :
    ¬ (operation.finish slot outcome).operation.IsOutside := by
  simp [IsOutside]

namespace Execution

variable {steps : List Step} {last : State}

theorem keeping (h : Execution {} steps last) {index : Nat} {operation : Operation}
    (hoperation : last.operations[index]? = some operation) : Keeping index steps operation := by
  refine h.operation_induction (Keeping index) ?_ ?_ ?_ hoperation
  · intro steps step purpose request _ _ hevent hunknown
    have hnone := Operation.new_guard purpose request
    have hearlier : ∀ other ∈ steps ++ [step], ¬ other.LetsGo index := by
      refine forall_mem_snoc.2 ⟨fun other hother => ?_, Step.not_letsGo_of_event (by simp [hevent])⟩
      exact Step.not_letsGo_of_event (hunknown other hother)
    have hfresh : index ∉ takers (steps ++ [step]) := by
      intro htaken
      rcases mem_takers_snoc.1 htaken with hold | hnew
      · obtain ⟨taking, htaking, signal, hsignal⟩ := signal_of_mem_takers hold
        exact hunknown taking htaking signal hsignal
      · exact Step.taker?_ne_of_event (by simp [hevent]) hnew
    exact ⟨iff_of_false (Operation.not_hasGuard_of_none hnone) fun htaken => hfresh htaken.1,
      fun _ => ⟨hnone, hearlier⟩⟩
  · intro steps step operation _ _ hevent ih
    exact ih.snoc (Step.taker?_ne_of_event hevent) (Step.not_letsGo_of_event hevent) rfl id
  · intro steps step signal operation reaction hsteps hlawful hevent hreacts _ hslot ih
    have hgoes := Step.letsGo_iff hevent
    by_cases htake : step.taker? = some index
    · have htaken : reaction.slot = step.before.slot.take.2 :=
        hslot ▸ (hlawful.of_taker? htake).1
      have hkept := hreacts.not_letsGo_of_take htaken
      obtain ⟨rfl, hwas⟩ := hreacts.of_slot_eq_take htaken
      exact ih.take htake (by simp [hgoes, hkept]) (hwas.imp And.left And.left) _
    · cases hreacts with
      | takeFree | takeOver =>
        refine absurd ?_ htake
        rw [Step.taker?_of_signal hevent, if_pos (hslot.trans (operation.takeSlot_slot _))]
      | fail error hstage =>
        -- A guard is given out only when the Cancel request is answered.
        have hnone := (ih.outside (Or.inr hstage)).1
        refine ih.snoc htake (by simp [hgoes, Signal.letsGo]) ?_ ?_
        · rw [Operation.finish_operation, hnone]
        · exact fun hnew => absurd hnew (operation.finish_not_isOutside _ _)
      | settle | tearDown | tearDownFailing =>
        exact Keeping.letGo (hgoes.2 rfl) (Operation.not_hasGuard_of_none rfl)
          (operation.finish_not_isOutside _ _)
      | release guard _ hguard =>
        refine Keeping.letGo (hgoes.2 rfl) ?_ fun hnew => ?_
        · rintro ⟨id, hkept⟩
          simp at hkept
        · have hnone := (ih.outside hnew).1
          rw [hguard] at hnone
          contradiction
      | dropGuard guard _ hguard =>
        refine Keeping.letGo (hgoes.2 rfl) (Operation.not_hasGuard_of_none rfl) fun hnew => ?_
        have hnone := (ih.outside hnew).1
        rw [hguard] at hnone
        contradiction
      | preempt hstage =>
        exact ih.snoc htake (by simp [hgoes, Signal.letsGo]) rfl fun _ => Or.inl hstage
      | hear | send | fire | giveUp =>
        exact ih.snoc htake (by simp [hgoes, Signal.letsGo]) rfl id
      | notice | detach =>
        refine ih.snoc htake (by simp [hgoes, Signal.letsGo]) rfl fun hnew => ?_
        simp [Operation.IsOutside] at hnew

/-! ## The slot -/

/-- Whoever holds the slot is the last taker, and its guard is in force. -/
theorem guard_of_holder (h : Execution {} steps last) {id : UInt64}
    (hheld : last.slot.holder = some id) :
    ∃ index operation, (takers steps).getLast? = some index ∧
      last.operations[index]? = some operation ∧ operation.guard = some ⟨id, false⟩ := by
  induction h with
  | refl => contradiction
  | @snoc steps step hsteps hlawful ih =>
    cases htake : step.taker? with
    | some taker =>
      obtain ⟨hslot, -, old, -, -, hafter, -⟩ := hlawful.of_taker? htake
      rw [hslot] at hheld
      obtain rfl := Option.some.inj hheld
      exact ⟨taker, _, by simp [htake], hafter, old.takeSlot_guard _⟩
    | none =>
      obtain ⟨index, old, htaker, hold, hguard⟩ := ih ((hlawful.slot_of_no_taker htake).2 id hheld)
      have hthere : index < step.after.operations.length :=
        Nat.lt_of_lt_of_le (List.getElem?_eq_some_iff.1 hold).1 hlawful.length_le
      refine ⟨index, step.after.operations[index], by simp [htake, htaker],
        List.getElem?_eq_getElem hthere, ?_⟩
      rcases hlawful.operation_cases (List.getElem?_eq_getElem hthere) with
        ⟨purpose, request, -, hindex, -⟩ | ⟨hsame, -⟩ |
        ⟨signal, old', reaction, hevent, hold', hreacts, -, hslot, hnew⟩
      · have := (List.getElem?_eq_some_iff.1 hold).1
        omega
      · rwa [Option.some.inj (hsame.symm.trans hold)]
      · obtain rfl := Option.some.inj (hold.symm.trans hold')
        rw [hnew]
        rcases hreacts.slot_cases with ⟨-, hkept⟩ | ⟨htaken, -⟩ | ⟨given, hgiven, hback, -⟩
        · rw [hkept, hguard]
        · exact absurd (hslot.trans htaken) (Step.slot_ne_take hevent htake)
        · -- Whoever gives the slot back does not hold it any more.
          obtain rfl := Option.some.inj (hguard.symm.trans hgiven)
          have hbefore := (hlawful.slot_of_no_taker htake).2 id hheld
          rw [hslot, hback] at hheld
          simp [Slot.giveBack, hbefore] at hheld

/-- A guard that has been overtaken is let go without an effect on the slot. -/
theorem slot_of_letsGo {step : Step} (h : Execution {} steps step.before)
    (hlawful : step.IsLawful) (hnumbers : (takers steps).length ≤ UInt64.size) {index : Nat}
    (hgoes : step.LetsGo index) (hovertaken : (takers steps).getLast? ≠ some index) :
    step.after.slot = step.before.slot := by
  obtain ⟨signal, hevent, hsignal⟩ := hgoes
  rcases hlawful.cases with
    ⟨_, _, hbegin, -⟩ | ⟨other, sent, operation, reaction, hother, hold, hreacts, -, hslot, -⟩
  · rw [hevent] at hbegin
    contradiction
  · obtain ⟨rfl, rfl⟩ := Event.signal.inj (hevent.symm.trans hother)
    rw [hslot]
    rcases hreacts.slot_cases with ⟨hsame, -⟩ | ⟨htaken, -⟩ | ⟨guard, hguard, hback, -⟩
    · exact hsame
    · rw [hreacts.not_letsGo_of_take htaken] at hsignal
      contradiction
    · rw [hback]
      unfold Slot.giveBack
      split
      · rename_i hholds
        simp only [Bool.and_eq_true, Bool.not_eq_true', beq_iff_eq] at hholds
        have hlast := (h.holds_iff_last_taker hnumbers hold hguard hholds.1).1
          (by simp [State.holds, hold, hguard, hholds.1, hholds.2])
        exact absurd hlast hovertaken
      · rfl

/-! ## The guards of the takers -/

/-- A guard is made when the slot is taken, and at no other time. -/
theorem madeGuard?_eq {step : Step} (h : Execution {} steps step.before)
    (hlawful : step.IsLawful) :
    step.madeGuard? = step.taker?.map fun index => (index, step.before.slot.next) := by
  rcases hlawful.cases with
    ⟨_, _, hevent, -⟩ |
    ⟨index, signal, operation, reaction, hevent, hold, hreacts, -, hslot, hafter⟩
  · simp [Step.madeGuard?, Step.taker?, hevent]
  · have hlt := (List.getElem?_eq_some_iff.1 hold).1
    have hbefore : step.before.guard? index = operation.guard := by simp [State.guard?, hold]
    have hguard : step.after.guard? index = reaction.operation.guard := by
      simp [State.guard?, hafter, hlt]
    have hidle : reaction.slot.next = step.before.slot.next → step.taker? = none := by
      intro hnext
      rw [Step.taker?_of_signal hevent, hslot, if_neg]
      exact fun htaken => step.before.slot.take_next_ne (htaken ▸ hnext)
    simp only [Step.madeGuard?, hevent, hbefore, hguard]
    rcases hreacts.slot_cases with ⟨hsame, hown⟩ | ⟨htaken, hnew⟩ | ⟨guard, hheld, hback, hown⟩
    · rw [hidle (congrArg Slot.next hsame), hown]
      cases operation.guard <;> simp
    · -- Whoever takes the slot has had no guard so far.
      have hwas := (hreacts.of_slot_eq_take htaken).2.imp And.left And.left
      have hnone := ((h.keeping hold).outside hwas).1
      have htaker : step.taker? = some index := by
        rw [Step.taker?_of_signal hevent, if_pos (hslot.trans htaken)]
      simp [hnew, hnone, htaker, Slot.take]
    · rw [hidle (hback ▸ Slot.giveBack_next _ guard), hheld]
      rcases hown with hgone | hreleased
      · simp [hgone]
      · simp [hreleased]

/-- The guards that are made are those of the takers, numbered from zero. -/
theorem guardsMade_eq (h : Execution {} steps last) :
    guardsMade steps = (takers steps).mapIdx fun turn index => (index, UInt64.ofNat turn) := by
  induction h with
  | refl => rfl
  | @snoc steps step hsteps hlawful ih =>
    have hmade := hsteps.madeGuard?_eq hlawful
    rw [guardsMade, List.filterMap_append, takers_append, List.mapIdx_append, ← ih]
    cases htake : step.taker? with
    | none => simp [guardsMade, hmade, htake]
    | some index => simp [guardsMade, hmade, htake, hsteps.next_eq]

theorem length_guardsMade (h : Execution {} steps last) :
    (guardsMade steps).length = (takers steps).length := by
  rw [h.guardsMade_eq, List.length_mapIdx]

theorem mem_guardsMade_iff (h : Execution {} steps last) {index : Nat} {id : UInt64} :
    (index, id) ∈ guardsMade steps ↔
      ∃ turn, (takers steps)[turn]? = some index ∧ id = UInt64.ofNat turn := by
  rw [h.guardsMade_eq, List.mem_iff_getElem?]
  simp [List.getElem?_mapIdx, Option.map_eq_some_iff, @eq_comm _ id]

theorem getLast?_guardsMade_iff (h : Execution {} steps last) {index : Nat} {id : UInt64} :
    (guardsMade steps).getLast? = some (index, id) ↔
      (takers steps).getLast? = some index ∧ id = UInt64.ofNat ((takers steps).length - 1) := by
  rw [h.guardsMade_eq, List.getLast?_mapIdx]
  simp [Option.map_eq_some_iff, @eq_comm _ id]

/-- A guard is in force when it has been made and not been let go. -/
theorem guard?_eq_iff (h : Execution {} steps last) {index : Nat} {id : UInt64} :
    last.guard? index = some ⟨id, false⟩ ↔
      (index, id) ∈ guardsMade steps ∧ ∀ step ∈ steps, ¬ step.LetsGo index := by
  rw [h.mem_guardsMade_iff, State.guard?, Option.bind_eq_some_iff]
  constructor
  · rintro ⟨operation, hoperation, hguard⟩
    exact ⟨h.guard_id hoperation hguard, ((h.keeping hoperation).hasGuard.1 ⟨id, hguard⟩).2⟩
  · rintro ⟨⟨turn, hturn, rfl⟩, hkept⟩
    have htaken := List.mem_of_getElem? hturn
    have hoperation := List.getElem?_eq_getElem (h.lt_of_mem_takers htaken)
    obtain ⟨id, hguard⟩ := (h.keeping hoperation).hasGuard.2 ⟨htaken, hkept⟩
    obtain ⟨other, hother, rfl⟩ := h.guard_id hoperation hguard
    -- The operation is not among the takers twice.
    have hsame : other = turn := by
      obtain ⟨hlt, -⟩ := List.getElem?_eq_some_iff.1 hother
      exact (List.getElem?_inj hlt h.nodup_takers).1 (hother.trans hturn.symm)
    exact ⟨_, hoperation, hsame ▸ hguard⟩

/-- The slot is held by the guard that was made last, as long as that is in force. -/
theorem holder_iff (h : Execution {} steps last)
    (hnumbers : (takers steps).length ≤ UInt64.size) {id : UInt64} :
    last.slot.holder = some id ↔
      ∃ index, (guardsMade steps).getLast? = some (index, id) ∧
        last.guard? index = some ⟨id, false⟩ := by
  simp only [h.getLast?_guardsMade_iff, State.guard?, Option.bind_eq_some_iff]
  constructor
  · intro hheld
    obtain ⟨index, operation, htaker, hoperation, hguard⟩ := h.guard_of_holder hheld
    exact ⟨index, ⟨htaker, (h.holder_eq hheld).2⟩, operation, hoperation, hguard⟩
  · rintro ⟨index, ⟨htaker, -⟩, operation, hoperation, hguard⟩
    exact h.holder_of_guard hnumbers htaker hoperation hguard rfl

end Execution

/-! ## Operations that are over -/

/-- An operation drives nothing before it has the slot.  When it has ended it has no guard, unless
that is for its caller; and one that runs without the slot has none at all. -/
structure Operation.IsTidy (operation : Operation) : Prop where
  outside : operation.IsOutside → operation.drive = .idle
  ended : operation.purpose ≠ .acquire → operation.stage = .ended → operation.guard = none
  run : operation.purpose = .run → operation.guard = none ∧ ¬ operation.IsOutside

theorem Operation.new_isTidy (purpose : Purpose) (request : Message) :
    (Operation.new purpose request).IsTidy := by
  refine ⟨fun hwas => ?_, fun _ _ => new_guard purpose request, fun hrun =>
    ⟨new_guard purpose request, ?_⟩⟩
  · unfold new at hwas ⊢
    split at hwas
    · rfl
    · rfl
    · simp [IsOutside] at hwas
    · simp [IsOutside] at hwas
  · rw [new_purpose] at hrun
    subst hrun
    simp [new, IsOutside]

/-- Every transition leaves an operation tidy. -/
theorem Reacts.isTidy {operation : Operation} {slot : Slot} {signal : Signal} {reaction : Reaction}
    (h : Reacts operation slot signal reaction) (htidy : operation.IsTidy) :
    reaction.operation.IsTidy := by
  have hrunner : operation.IsOutside → operation.purpose ≠ .run := fun hwas hrun =>
    (htidy.run hrun).2 hwas
  have htake : operation.IsOutside → (operation.takeSlot slot).operation.IsTidy := by
    intro hwas
    refine ⟨fun hnow => absurd hnow (operation.takeSlot_not_isOutside slot),
      fun hpurpose hended => ?_,
      fun hrun => absurd (operation.takeSlot_purpose slot ▸ hrun) (hrunner hwas)⟩
    rw [Operation.takeSlot_purpose] at hpurpose
    rw [Operation.takeSlot_stage, if_neg hpurpose] at hended
    contradiction
  have hinside : ∀ {next : Operation}, next.stage = .disconnecting ∨ next.stage = .ended →
      ¬ next.IsOutside := by
    rintro next (hstage | hstage) <;> simp [Operation.IsOutside, hstage]
  cases h with
  | takeFree hstage => exact htake (Or.inl hstage)
  | takeOver reply hstage => exact htake (Or.inr hstage)
  | preempt hstage =>
    exact ⟨fun _ => htidy.outside (Or.inl hstage), fun _ hended => absurd hended (by simp),
      fun hrun => absurd hrun (hrunner (Or.inl hstage))⟩
  | fail | settle | tearDown | tearDownFailing =>
    exact ⟨fun hnow => absurd hnow (hinside (Or.inr rfl)), fun _ _ => rfl,
      fun _ => ⟨rfl, hinside (Or.inr rfl)⟩⟩
  | hear reply _ hdrive =>
    exact ⟨fun hnow => by simp [htidy.outside hnow] at hdrive, htidy.ended, htidy.run⟩
  | send message hdrive =>
    exact ⟨fun hnow => by simp [htidy.outside hnow] at hdrive, htidy.ended, htidy.run⟩
  | fire | giveUp => exact ⟨htidy.outside, htidy.ended, htidy.run⟩
  | notice =>
    exact ⟨fun hnow => absurd hnow (hinside (Or.inl rfl)), fun _ hended => absurd hended (by simp),
      fun hrun => ⟨(htidy.run hrun).1, hinside (Or.inl rfl)⟩⟩
  | detach hpurpose =>
    refine ⟨fun hnow => absurd hnow (hinside (Or.inr rfl)), fun hacquire _ => ?_,
      fun hrun => ⟨(htidy.run hrun).1, hinside (Or.inr rfl)⟩⟩
    cases hrun : operation.purpose with
    | supervised serialized => exact absurd hrun (hpurpose serialized)
    | run => exact (htidy.run hrun).1
    | acquire => exact absurd hrun hacquire
  | release guard hacquire | dropGuard guard hacquire =>
    exact ⟨htidy.outside, fun hother _ => absurd hacquire hother,
      fun hrun => by simp [hacquire] at hrun⟩

theorem Execution.isTidy {steps : List Step} {last : State} (h : Execution {} steps last)
    {index : Nat} {operation : Operation} (hoperation : last.operations[index]? = some operation) :
    operation.IsTidy :=
  h.operation_induction (fun _ operation => operation.IsTidy)
    (fun _ _ purpose request _ _ _ _ => Operation.new_isTidy purpose request)
    (fun _ _ _ _ _ _ ih => ih) (fun _ _ _ _ _ _ _ _ hreacts _ _ ih => hreacts.isTidy ih)
    hoperation

/-! ## The slot and its guards -/

/-- Whether an operation carries out a request under supervision. -/
def Operation.IsSupervised (operation : Operation) : Prop :=
  ∃ serialized, operation.purpose = .supervised serialized

/-- An operation is through: its drive is over, be it with a pause for an interaction, or it has
ended otherwise, or it has been given up. -/
def Operation.IsThrough (operation : Operation) : Prop :=
  (∃ result, operation.drive = .resolved result) ∨ operation.stage = .ended ∨
    operation.fired = true

/-- Where nothing goes on, an operation that is through has ended. -/
theorem State.IsQuiescent.ended_of_isThrough {state : State} (h : state.IsQuiescent)
    {operation : Operation} (hmem : operation ∈ state.operations) (htidy : operation.IsTidy)
    (hthrough : operation.IsThrough) : operation.stage = .ended := by
  have hconnected := h.connected operation hmem
  rcases hthrough with ⟨result, hdrive⟩ | hended | hfired
  · cases hstage : operation.stage with
    | waiting | preempting => simp [htidy.outside (by simp [Operation.IsOutside, hstage])] at hdrive
    | driving => exact absurd hdrive ((h.still operation hmem).drive_ne_resolved hstage result)
    | disconnecting => exact absurd hstage hconnected
    | ended => rfl
  · exact hended
  · exact ((h.still operation hmem).stage_of_fired hfired).resolve_left hconnected

/-- The slot follows the guards that are given out. -/
structure SlotFollowsGuards (steps : List Step) (last : State) : Prop where
  /-- An operation has its guard in force from the moment at which that is made until it is released
  or dropped, be it at the end of the operation. -/
  guard_iff : ∀ index id, last.guard? index = some ⟨id, false⟩ ↔
    (index, id) ∈ guardsMade steps ∧ ∀ step ∈ steps, ¬ step.LetsGo index
  /-- The slot is held by the guard that was made last, if that is in force, and by nobody
  otherwise. -/
  holder_iff : ∀ id, last.slot.holder = some id ↔
    ∃ index, (guardsMade steps).getLast? = some (index, id) ∧
      last.guard? index = some ⟨id, false⟩
  /-- A supervised operation that is through has no guard any more. -/
  guard_of_isThrough : last.IsQuiescent → ∀ operation ∈ last.operations, operation.IsSupervised →
    operation.IsThrough → operation.guard = none
  /-- Letting go of a guard that has been overtaken does nothing to the slot: the guard that was made
  last still holds it, if that is in force. -/
  slot_of_overtaken : ∀ front step back index, steps = front ++ step :: back →
    step.LetsGo index → (∀ id, (guardsMade front).getLast? ≠ some (index, id)) →
    step.after.slot = step.before.slot ∧
      ∀ newer id, (guardsMade front).getLast? = some (newer, id) →
        step.before.guard? newer = some ⟨id, false⟩ → step.after.slot.holder = some id
  /-- The slot is free when all operations are through, and their callers have let go of their
  guards. -/
  free_of_isThrough : last.IsQuiescent →
    (∀ operation ∈ last.operations,
      operation.IsThrough ∧ (operation.purpose = .acquire → ¬ operation.HasGuard)) →
    last.slot.holder = none

/-- The slot follows the guards along every execution, as long as their numbers do not repeat. -/
theorem slot_follows_guards {steps : List Step} {last : State} (h : Execution {} steps last)
    (hnumbers : (guardsMade steps).length ≤ UInt64.size) : SlotFollowsGuards steps last := by
  rw [h.length_guardsMade] at hnumbers
  have htidy : ∀ operation ∈ last.operations, operation.IsTidy := by
    intro operation hmem
    obtain ⟨index, hlt, rfl⟩ := List.getElem_of_mem hmem
    exact h.isTidy (List.getElem?_eq_getElem hlt)
  have hgone : last.IsQuiescent → ∀ operation ∈ last.operations, operation.IsThrough →
      operation.purpose ≠ .acquire → operation.guard = none := by
    intro hquiet operation hmem hthrough hpurpose
    have hended := hquiet.ended_of_isThrough hmem (htidy operation hmem) hthrough
    exact (htidy operation hmem).ended hpurpose hended
  constructor
  case guard_iff => exact fun index id => h.guard?_eq_iff
  case holder_iff => exact fun id => h.holder_iff hnumbers
  case guard_of_isThrough =>
    rintro hquiet operation hmem ⟨serialized, hpurpose⟩ hthrough
    exact hgone hquiet operation hmem hthrough (by simp [hpurpose])
  case slot_of_overtaken =>
    rintro front step back index rfl hgoes hovertaken
    obtain ⟨hfront, hlawful, -⟩ := h.of_append_cons
    have hbound : (takers front).length ≤ UInt64.size := by
      refine Nat.le_trans ?_ hnumbers
      simp
    have hnot : (takers front).getLast? ≠ some index := fun htaker =>
      hovertaken _ (hfront.getLast?_guardsMade_iff.2 ⟨htaker, rfl⟩)
    have hslot := hfront.slot_of_letsGo hlawful hbound hgoes hnot
    refine ⟨hslot, fun newer id hnewer hguard => ?_⟩
    rw [hslot]
    exact (hfront.holder_iff hbound).2 ⟨newer, hnewer, hguard⟩
  case free_of_isThrough =>
    intro hquiet hover
    by_contra hheld
    obtain ⟨id, hid⟩ := Option.ne_none_iff_exists'.1 hheld
    obtain ⟨index, operation, -, hoperation, hguard⟩ := h.guard_of_holder hid
    have hmem := List.mem_of_getElem? hoperation
    obtain ⟨hthrough, hacquire⟩ := hover operation hmem
    by_cases hpurpose : operation.purpose = .acquire
    · exact hacquire hpurpose ⟨id, hguard⟩
    · rw [hgone hquiet operation hmem hthrough hpurpose] at hguard
      contradiction

/-- The slot is acquired and taken over by another operation; then the first guard is released. -/
def overtakenGuard : List Event :=
  [.begin .acquire DeviceRequest.reportFeatures.message, .signal 0 .start,
    .begin (.supervised true) DeviceRequest.wipe.message, .signal 1 .start,
    .signal 1 (.answer (.ok ⟨3, []⟩)), .signal 1 .send, .signal 0 .release]

/-- The guard that was overtaken is released, and the newer one holds the slot. -/
theorem slot_follows_overtaken_guard :
    ∃ last, Execution {} (State.steps {} overtakenGuard) last ∧
      (guardsMade (State.steps {} overtakenGuard)).length ≤ UInt64.size ∧
      SlotFollowsGuards (State.steps {} overtakenGuard) last ∧
      last.guard? 0 = some ⟨0, true⟩ ∧ last.slot.holder = some 1 := by
  obtain ⟨⟨last, trace⟩, hrun⟩ := Option.isSome_iff_exists.1
    (show (State.run {} overtakenGuard).isSome by decide)
  have hexecution := Execution.of_run hrun
  have hfollows := slot_follows_guards hexecution (by decide)
  have hguard : ∀ index, last.guard? index
      = (State.run {} overtakenGuard).bind fun result => result.1.guard? index := by
    intro index
    rw [hrun]
    rfl
  refine ⟨last, hexecution, by decide, hfollows, ?_, ?_⟩
  · rw [hguard]
    decide
  · refine (hfollows.holder_iff 1).2 ⟨1, by decide, ?_⟩
    rw [hguard]
    decide

end WalletGateway.Access
