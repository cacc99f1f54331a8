import WalletGateway.Proofs.Access.Execution

/-!
# Executions without one of their operations

An operation that has not taken the slot makes no difference to the slot and to the other
operations.  `Step.without` takes it out of a step, where the operations behind it move up, and
`Execution.without` says that what remains of an execution is one too: the others do what they did,
and find the slot as they found it.
-/

namespace WalletGateway.Access

/-- The state without one of its operations. -/
def State.without (state : State) (index : Nat) : State :=
  { state with operations := state.operations.eraseIdx index }

/-- An event without one of the operations, where there are `count` before it. -/
def Event.without (index count : Nat) : Event → Option Event
  | .begin purpose request => if count = index then none else some (.begin purpose request)
  | .signal place sent =>
    if place = index then none
    else some (.signal (if place < index then place else place - 1) sent)

/-- A step without one of the operations; nothing, if it is a step of that one. -/
def Step.without (index : Nat) (step : Step) : Option Step :=
  (step.event.without index step.before.operations.length).map fun event =>
    { before := step.before.without index
      event
      effect := step.effect
      after := step.after.without index }

/-- Steps without one of the operations. -/
def without (index : Nat) (steps : List Step) : List Step :=
  steps.filterMap (Step.without index)

/-! ## One step -/

/-- A signal to another operation does the same without the operation. -/
theorem State.step_without (state : State) {index place : Nat} (hplace : place ≠ index)
    (signal : Signal) :
    (state.without index).step (.signal (if place < index then place else place - 1) signal)
      = (state.step (.signal place signal)).map fun next => (next.1.without index, next.2) := by
  have hsame : (state.operations.eraseIdx index)[if place < index then place else place - 1]?
        = state.operations[place]? ∧
      ∀ operation, (state.operations.set place operation).eraseIdx index
        = (state.operations.eraseIdx index).set (if place < index then place else place - 1)
            operation := by
    rcases Nat.lt_or_gt_of_ne hplace with hlt | hgt
    · rw [if_pos hlt]
      exact ⟨List.getElem?_eraseIdx_of_lt hlt, fun _ => List.eraseIdx_set_gt hlt⟩
    · have hback : place - 1 + 1 = place := by omega
      rw [if_neg (by omega), List.getElem?_eraseIdx_of_ge (by omega), hback]
      exact ⟨rfl, fun _ => List.eraseIdx_set_lt hgt⟩
  simp only [State.step, State.without, hsame.1]
  cases state.operations[place]? with
  | none => rfl
  | some operation =>
    cases hreact : operation.react state.slot signal with
    | none => simp only [hreact, Option.map_none]
    | some reaction => simp only [hreact, hsame.2, Option.map_some]

namespace Step.IsLawful

variable {step kept : Step} {index : Nat}

/-- A step of another operation remains one. -/
theorem without (h : step.IsLawful) (hkept : step.without index = some kept) : kept.IsLawful := by
  obtain ⟨before, event, effect, after⟩ := step
  simp only [IsLawful] at h
  simp only [Step.without, Option.map_eq_some_iff] at hkept
  obtain ⟨moved, hmoved, rfl⟩ := hkept
  cases event with
  | «begin» purpose request =>
    obtain ⟨rfl, rfl⟩ := Prod.mk.inj (Option.some.inj h)
    simp only [Event.without] at hmoved
    split at hmoved
    · contradiction
    · rename_i hcount
      obtain rfl := Option.some.inj hmoved
      have hoperations : (before.operations ++ [Operation.new purpose request]).eraseIdx index
          = before.operations.eraseIdx index ++ [.new purpose request] := by
        rcases Nat.lt_or_ge index before.operations.length with hlt | hge
        · exact List.eraseIdx_append_of_lt_length hlt _
        · rw [List.eraseIdx_of_length_le hge, List.eraseIdx_of_length_le]
          simp only [List.length_append, List.length_singleton]
          omega
      simp only [IsLawful, State.step, State.without, hoperations]
  | signal place signal =>
    simp only [Event.without] at hmoved
    split at hmoved
    · contradiction
    · rename_i hplace
      obtain rfl := Option.some.inj hmoved
      simp only [IsLawful, State.step_without before hplace, h, Option.map_some]

/-- A step of the operation leaves the others alone. -/
theorem without_eq (h : step.IsLawful) (hgone : step.without index = none)
    (hslot : step.after.slot = step.before.slot) :
    step.after.without index = step.before.without index := by
  have hoperations : step.after.operations.eraseIdx index
      = step.before.operations.eraseIdx index := by
    rcases h.cases with
      ⟨purpose, request, hevent, -, hafter⟩ |
      ⟨place, signal, -, reaction, hevent, -, -, -, -, hafter⟩
    · have hcount : step.before.operations.length = index := by
        simpa [Step.without, Event.without, hevent] using hgone
      rw [hafter, List.eraseIdx_append_of_length_le (Nat.le_of_eq hcount),
        List.eraseIdx_of_length_le (Nat.le_of_eq hcount), hcount, Nat.sub_self]
      simp
    · have hplace : place = index := by
        simpa [Step.without, Event.without, hevent] using hgone
      rw [hafter, hplace, List.eraseIdx_set_eq]
  simp only [State.without, hslot, hoperations]

end Step.IsLawful

/-! ## All steps -/

namespace Execution

variable {steps : List Step} {last : State} {index : Nat}

/-- An operation that has not taken the slot has no guard. -/
theorem guard_eq_none (h : Execution {} steps last) (houtside : index ∉ takers steps)
    {operation : Operation} (hoperation : last.operations[index]? = some operation) :
    operation.guard = none := by
  cases hguard : operation.guard with
  | none => rfl
  | some guard =>
    obtain ⟨turn, hturn, -⟩ := h.guard_id hoperation hguard
    exact absurd (List.mem_of_getElem? hturn) houtside

/-- The steps of an operation that has not taken the slot leave it as it is. -/
theorem slot_eq_of_outside (h : Execution {} steps last) (houtside : index ∉ takers steps)
    {step : Step} (hstep : step ∈ steps) {signal : Signal}
    (hevent : step.event = .signal index signal) : step.after.slot = step.before.slot := by
  obtain ⟨front, back, rfl⟩ := List.append_of_mem hstep
  obtain ⟨hfront, hlawful, -⟩ := h.of_append_cons
  rw [takers_append, takers_cons, List.mem_append, List.mem_append, not_or, not_or] at houtside
  obtain ⟨hearlier, hnow, -⟩ := houtside
  rcases hlawful.cases with
    ⟨_, _, hbegin, hslot, -⟩ |
    ⟨other, sent, operation, reaction, hsignal, hoperation, hreacts, -, hslot, -⟩
  · exact hslot
  · obtain ⟨rfl, rfl⟩ := Event.signal.inj (hevent.symm.trans hsignal)
    rw [hslot]
    rcases hreacts.slot_cases with ⟨hsame, -⟩ | ⟨htaken, -⟩ | ⟨guard, hguard, -⟩
    · exact hsame
    · have htake : step.taker? = some index := by
        rw [Step.taker?_of_signal hevent, if_pos (hslot.trans htaken)]
      exact absurd (by simp [htake]) hnow
    · rw [hfront.guard_eq_none hearlier hoperation] at hguard
      contradiction

/-- An execution goes on as before without an operation that does not take the slot. -/
theorem without (h : Execution {} steps last) (houtside : index ∉ takers steps) :
    Execution {} (without index steps) (last.without index) := by
  induction h with
  | refl => exact .refl
  | @snoc steps step hsteps hlawful ih =>
    have hearlier : index ∉ takers steps := fun hmem =>
      houtside (mem_takers_snoc.2 (Or.inl hmem))
    have hsnoc : Access.without index (steps ++ [step])
        = Access.without index steps ++ (step.without index).toList := by
      cases hkept : step.without index <;> simp [Access.without, hkept]
    rw [hsnoc]
    cases hkept : step.without index with
    | none =>
      have hslot : step.after.slot = step.before.slot := by
        rcases hlawful.cases with ⟨_, _, -, hslot, -⟩ | ⟨place, signal, _, _, hevent, -⟩
        · exact hslot
        · obtain rfl : place = index := by
            simpa [Step.without, Event.without, hevent] using hkept
          exact (hsteps.snoc hlawful).slot_eq_of_outside houtside (by simp) hevent
      rw [Option.toList_none, List.append_nil, hlawful.without_eq hkept hslot]
      exact ih hearlier
    | some kept =>
      have hlater := hlawful.without hkept
      simp only [Step.without, Option.map_eq_some_iff] at hkept
      obtain ⟨event, -, rfl⟩ := hkept
      exact (ih hearlier).snoc hlater

end Execution

end WalletGateway.Access
