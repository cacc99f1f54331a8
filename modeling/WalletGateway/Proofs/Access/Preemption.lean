import WalletGateway.Proofs.Access.Execution

/-!
# Preemption

An operation that finds the slot held sends a Cancel request, and takes the slot over once that is
answered, whoever holds it then.  `preempts_holder_of_request_iff` says whom the request was meant
for: the holder who loses the slot is the one that the request was sent for exactly when nobody took
the slot in the meantime.

With two operations waiting for the answers to their Cancel requests it need not be:
`displaces_unasked_holder` is the shortest such execution.  There the holder that loses the slot at
the end took it after the only Cancel request that the last operation sent.
-/

namespace WalletGateway.Access

/-- The operation that sends a Cancel request to get the slot, if one does. -/
def Step.canceller? (step : Step) : Option Nat :=
  match step.event, step.effect with
  | .signal index .start, some (.call message) =>
    if message = DeviceRequest.cancel.message then some index else none
  | _, _ => none

theorem Step.event_of_canceller? {step : Step} {index : Nat}
    (hcancel : step.canceller? = some index) : step.event = .signal index .start := by
  unfold canceller? at hcancel
  split at hcancel
  · rename_i other message hevent _
    split at hcancel
    · obtain rfl := Option.some.inj hcancel
      exact hevent
    · contradiction
  · contradiction

/-- The steps hold exactly one Cancel request of an operation, namely the given one. -/
structure CancelsOnceAt (index : Nat) (steps before : List Step) (cancel : Step)
    (after : List Step) : Prop where
  split : steps = before ++ cancel :: after
  sent : cancel.canceller? = some index
  unsent_before : ∀ step ∈ before, step.canceller? ≠ some index
  unsent_after : ∀ step ∈ after, step.canceller? ≠ some index

/-- An operation has sent no Cancel request while it waits, and exactly one when it preempts. -/
structure CancelRecord (index : Nat) (steps : List Step) (operation : Operation) : Prop where
  waiting : operation.stage = .waiting → ∀ step ∈ steps, step.canceller? ≠ some index
  preempting : operation.stage = .preempting →
    ∃ before cancel after, CancelsOnceAt index steps before cancel after

/-- A step in which an operation sends no Cancel request, and keeps its stage, changes nothing. -/
theorem CancelRecord.snoc {index : Nat} {steps : List Step} {old new : Operation}
    (h : CancelRecord index steps old) {step : Step} (hstep : step.canceller? ≠ some index)
    (hstage : new.stage = old.stage) : CancelRecord index (steps ++ [step]) new := by
  have hlast : ∀ {part : List Step}, (∀ other ∈ part, other.canceller? ≠ some index) →
      ∀ other ∈ part ++ [step], other.canceller? ≠ some index := by
    intro part hpart other hother
    rcases List.mem_append.1 hother with hold | hnew
    · exact hpart other hold
    · rwa [List.mem_singleton.1 hnew]
  constructor
  · intro hwas
    exact hlast (h.waiting (hstage ▸ hwas))
  · intro hwas
    obtain ⟨before, cancel, after, honce⟩ := h.preempting (hstage ▸ hwas)
    exact ⟨before, cancel, after ++ [step], by simp [honce.split], honce.sent,
      honce.unsent_before, hlast honce.unsent_after⟩

theorem Execution.cancelRecord {steps : List Step} {last : State} (h : Execution {} steps last)
    {index : Nat} {operation : Operation} (hoperation : last.operations[index]? = some operation) :
    CancelRecord index steps operation := by
  refine h.operation_induction (CancelRecord index) ?_ ?_ ?_ hoperation
  · intro steps step purpose request _ _ hevent hunknown
    constructor
    · intro _ other hother hcancel
      have hsignal := Step.event_of_canceller? hcancel
      rcases List.mem_append.1 hother with hold | hnew
      · exact hunknown other hold _ hsignal
      · rw [List.mem_singleton.1 hnew, hevent] at hsignal
        contradiction
    · intro hstage
      refine absurd hstage ?_
      unfold Operation.new
      split <;> simp
  · intro steps step operation _ _ hevent ih
    exact ih.snoc (fun hcancel => hevent _ (Step.event_of_canceller? hcancel)) rfl
  · intro steps step signal operation reaction _ _ hevent hreacts heffect _ ih
    have hunsent : signal ≠ .start → step.canceller? ≠ some index := by
      intro hsignal hcancel
      have hstart := Step.event_of_canceller? hcancel
      rw [hevent] at hstart
      exact hsignal (Event.signal.inj hstart).2
    cases hreacts with
    | preempt hstage =>
      have hsent : step.canceller? = some index := by
        simp [Step.canceller?, hevent, heffect]
      exact ⟨by simp, fun _ => ⟨steps, step, [], rfl, hsent, ih.waiting hstage, by simp⟩⟩
    | takeFree | takeOver =>
      have hinside := operation.takeSlot_not_isOutside step.before.slot
      exact ⟨fun hstage => absurd (Or.inl hstage) hinside,
        fun hstage => absurd (Or.inr hstage) hinside⟩
    | fail | settle | notice | tearDown | tearDownFailing | detach =>
      exact ⟨by simp, by simp⟩
    | hear | send | fire | giveUp | release | dropGuard =>
      exact ih.snoc (hunsent (by simp)) rfl

/-- Of a list without duplicates, the last entry stands in the first part only if there is nothing
behind that part. -/
theorem getLast_mem_left_iff {first second : List Nat} {last : Nat}
    (hnodup : (first ++ second).Nodup) (hlast : (first ++ second).getLast? = some last) :
    last ∈ first ↔ second = [] := by
  constructor
  · intro hfirst
    by_contra hsecond
    obtain ⟨other, hother⟩ := Option.ne_none_iff_exists'.1
      (mt List.getLast?_eq_none_iff.1 hsecond)
    rw [List.getLast?_append, hother, Option.some_or] at hlast
    obtain rfl := Option.some.inj hlast
    exact (List.nodup_append.1 hnodup).2.2 other hfirst other (List.mem_of_getLast? hother) rfl
  · rintro rfl
    rw [List.append_nil] at hlast
    exact List.mem_of_getLast? hlast

/-- An operation that takes the slot from its holder, the last taker, has sent one Cancel request
for it, and that was answered.  The holder had the slot when the request was sent exactly when
nobody has taken the slot since. -/
theorem preempts_holder_of_request_iff {steps : List Step} {step : Step} {last : State}
    {index : Nat} (h : Execution {} (steps ++ [step]) last) (htake : step.taker? = some index)
    (hheld : step.before.slot.holder ≠ none) :
    ∃ holder before cancel after reply, (takers steps).getLast? = some holder ∧
      CancelsOnceAt index steps before cancel after ∧
      step.event = .signal index (.answer (.ok reply)) ∧
      (holder ∈ takers before ↔ takers after = []) := by
  obtain ⟨hsteps, hlawful, -⟩ := h.of_snoc
  obtain ⟨-, signal, operation, hevent, hoperation, -, hwas⟩ := hlawful.of_taker? htake
  obtain ⟨hstage, reply, rfl⟩ := hwas.resolve_left fun hfree => hheld hfree.2
  obtain ⟨before, cancel, after, honce⟩ := (hsteps.cancelRecord hoperation).preempting hstage
  obtain ⟨id, hid⟩ := Option.ne_none_iff_exists'.1 hheld
  obtain ⟨holder, hholder⟩ := Option.ne_none_iff_exists'.1
    (mt List.getLast?_eq_none_iff.1 (hsteps.holder_eq hid).1)
  -- The operation itself has not had the slot, so the step of its request is no taking.
  have hcancel : cancel.taker? = none := by
    by_contra htaker
    obtain ⟨taker, htaker⟩ := Option.ne_none_iff_exists'.1 htaker
    obtain ⟨sent, hsent⟩ := Step.event_of_taker? htaker
    rw [Step.event_of_canceller? honce.sent] at hsent
    obtain ⟨rfl, -⟩ := Event.signal.inj hsent
    refine hsteps.not_isOutside hoperation ?_ (Or.inr hstage)
    simp [honce.split, htaker]
  have htakers : takers steps = takers before ++ takers after := by
    simp [honce.split, hcancel]
  refine ⟨holder, before, cancel, after, reply, hholder, honce, hevent, ?_⟩
  exact getLast_mem_left_iff (htakers ▸ hsteps.nodup_takers) (htakers ▸ hholder)

/-- Two operations ask the holder to give up.  The first of them to be answered takes the slot. -/
def rivals : List Event :=
  [.begin .acquire default, .begin .acquire default, .begin .acquire default,
    .signal 0 .start, .signal 1 .start, .signal 2 .start, .signal 1 (.answer (.ok ⟨3, []⟩))]

theorem preempts_first_holder :
    ∃ steps step last, Execution {} (steps ++ [step]) last ∧ step.taker? = some 1 ∧
      step.before.slot.holder ≠ none ∧
      ∃ holder before cancel after reply, (takers steps).getLast? = some holder ∧
        CancelsOnceAt 1 steps before cancel after ∧
        step.event = .signal 1 (.answer (.ok reply)) ∧
        (holder ∈ takers before ↔ takers after = []) := by
  obtain ⟨last, hlast⟩ := Execution.exists_of_isSome_run
    (show (State.run {} rivals).isSome by decide) (by decide)
  exact ⟨_, _, last, hlast, by decide, by decide,
    preempts_holder_of_request_iff hlast (by decide) (by decide)⟩

/-- The other rival is answered too, and takes the slot from the first one.  Its only Cancel request
was sent before the first one had the slot. -/
theorem displaces_unasked_holder :
    ¬ ∀ (steps : List Step) (step : Step) (last : State) (index : Nat),
      Execution {} (steps ++ [step]) last → step.taker? = some index →
      step.before.slot.holder ≠ none →
      ∃ holder before cancel after reply, (takers steps).getLast? = some holder ∧
        CancelsOnceAt index steps before cancel after ∧
        step.event = .signal index (.answer (.ok reply)) ∧ holder ∈ takers before := by
  intro hclaim
  let events := rivals ++ [.signal 2 (.answer (.ok ⟨3, []⟩))]
  obtain ⟨last, hlast⟩ := Execution.exists_of_isSome_run
    (show (State.run {} events).isSome by decide) (by decide)
  obtain ⟨holder, before, cancel, after, -, hholder, honce, -, hmem⟩ :=
    hclaim _ _ last 2 hlast (by decide) (by decide)
  have hfirst : (takers (State.steps {} events).dropLast).getLast? = some 1 := by decide
  have hlate : ∀ count < 7, 1 ∈ takers ((State.steps {} events).dropLast.take count) →
      ((State.steps {} events).dropLast[count]?).bind Step.canceller? ≠ some 2 := by decide
  have hlength : (State.steps {} events).dropLast.length = 7 := by decide
  generalize (State.steps {} events).dropLast = steps at *
  obtain rfl := Option.some.inj (hholder.symm.trans hfirst)
  have hsplit := honce.split
  subst hsplit
  refine hlate before.length ?_ (by simpa using hmem) (by simpa using honce.sent)
  simp only [List.length_append, List.length_cons] at hlength
  omega

end WalletGateway.Access
