import WalletGateway.Proofs.Access.Preemption

/-!
# Exclusive use of the device

A serialized operation takes the slot before it sends anything.  It keeps the slot until another
operation takes it over, or until the operation is torn down after its caller went away; but its
drive goes on in both cases.

`holds_slot_iff` says when a message of such an operation is sent by the holder of the slot, and
what it takes for a message to be sent at all: it was still to be sent, or the device has asked for
it by a button request.  `acknowledges_without_slot` is an execution in which an overtaken operation
acknowledges a button request while another operation holds the slot.
-/

namespace WalletGateway.Access

/-- Whether the guard of an operation holds the slot. -/
def State.holds (state : State) (index : Nat) : Bool :=
  ((state.operations[index]?).bind Operation.guard).any fun guard =>
    !guard.released && state.slot.holder == some guard.id

/-- Whether an operation has a message to send. -/
def State.isReady (state : State) (index : Nat) : Bool :=
  (state.operations[index]?).any fun operation => operation.drive matches .ready _

/-- The disconnection of an operation that was given up has ended. -/
def Step.TearsDown (step : Step) (index : Nat) : Prop :=
  ∃ result, step.event = .signal index (.disconnected result)

/-- The device answers an operation with a button request. -/
def Step.Prompts (step : Step) (index : Nat) : Prop :=
  ∃ reply, step.event = .signal index (.answer (.ok reply)) ∧ reply.verdict = .acknowledge

/-! ## The last taker keeps the slot -/

/-- The numbers of guards do not repeat as long as there are at most `2 ^ 64` takings. -/
theorem eq_of_ofNat_eq {first second bound : Nat} (hbound : bound ≤ UInt64.size)
    (hfirst : first < bound) (hsecond : second < bound)
    (h : UInt64.ofNat first = UInt64.ofNat second) : first = second := by
  have hnat := congrArg UInt64.toNat h
  rwa [UInt64.toNat_ofNat_of_lt' (by omega), UInt64.toNat_ofNat_of_lt' (by omega)] at hnat

namespace Execution

variable {steps : List Step} {last : State}

theorem lt_of_mem_takers (h : Execution {} steps last) {index : Nat}
    (htaken : index ∈ takers steps) : index < last.operations.length := by
  obtain ⟨taking, htaking, signal, hsignal⟩ := signal_of_mem_takers htaken
  exact h.lt_of_signal htaking hsignal

/-- Two guards with the same number belong to the same operation. -/
theorem index_eq_of_id_eq (h : Execution {} steps last)
    (hnumbers : (takers steps).length ≤ UInt64.size) {first second : Nat}
    {operation other : Operation} {guard held : Guard}
    (hfirst : last.operations[first]? = some operation)
    (hsecond : last.operations[second]? = some other) (hguard : operation.guard = some guard)
    (hheld : other.guard = some held) (hid : guard.id = held.id) : first = second := by
  obtain ⟨turn, hturn, hnumber⟩ := h.guard_id hfirst hguard
  obtain ⟨turn', hturn', hnumber'⟩ := h.guard_id hsecond hheld
  rw [hnumber, hnumber'] at hid
  obtain rfl := eq_of_ofNat_eq hnumbers (List.getElem?_eq_some_iff.1 hturn).1
    (List.getElem?_eq_some_iff.1 hturn').1 hid
  exact Option.some.inj (hturn.symm.trans hturn')

/-- The last taker holds the slot as long as it keeps its guard. -/
theorem holder_of_guard (h : Execution {} steps last)
    (hnumbers : (takers steps).length ≤ UInt64.size) {index : Nat} {operation : Operation}
    {guard : Guard} (htaker : (takers steps).getLast? = some index)
    (hoperation : last.operations[index]? = some operation) (hguard : operation.guard = some guard)
    (hkept : guard.released = false) : last.slot.holder = some guard.id := by
  induction h generalizing operation guard with
  | refl => simp at htaker
  | @snoc steps step hsteps hlawful ih =>
    cases htake : step.taker? with
    | some other =>
      simp only [takers_append, takers_cons, htake, Option.toList_some, takers_nil,
        List.append_nil, List.getLast?_append, List.getLast?_singleton, Option.some_or,
        Option.some.injEq] at htaker
      subst htaker
      obtain ⟨hslot, -, old, -, -, hafter, -⟩ := hlawful.of_taker? htake
      rw [hoperation] at hafter
      obtain rfl := Option.some.inj hafter
      rw [Operation.takeSlot_guard] at hguard
      obtain rfl := Option.some.inj hguard
      rw [hslot]
      rfl
    | none =>
      have htakers : takers (steps ++ [step]) = takers steps := by simp [htake]
      rw [htakers] at hnumbers htaker
      rcases hlawful.operation_cases hoperation with
        ⟨purpose, request, hevent, hindex, -⟩ | ⟨hold, hevent⟩ |
        ⟨signal, old, reaction, hevent, hold, hreacts, -, hslot, rfl⟩
      · have := hsteps.lt_of_mem_takers (List.mem_of_getLast? htaker)
        omega
      · have hbefore := ih hnumbers htaker hold hguard hkept
        rcases hlawful.cases with
          ⟨purpose, request, -, hslot, -⟩ |
          ⟨other, signal, found, reaction, hother, hfound, hreacts, -, hslot, -⟩
        · rw [hslot, hbefore]
        · have hkeep := Step.slot_ne_take hother htake
          rw [hslot] at hkeep ⊢
          rcases hreacts.slot_cases with ⟨hsame, -⟩ | ⟨htaken, -⟩ | ⟨given, hgiven, hback, -⟩
          · rw [hsame, hbefore]
          · exact absurd htaken hkeep
          · rw [hback]
            rcases step.before.slot.giveBack_holder given with hheld | ⟨-, -, hheld⟩
            · rw [hheld, hbefore]
            · -- Another operation would have to have a guard of the same number.
              rw [hbefore] at hheld
              have hsame := hsteps.index_eq_of_id_eq hnumbers hold hfound hguard hgiven
                (Option.some.inj hheld)
              exact absurd (hsame ▸ hother) (hevent signal)
      · have hkeep := Step.slot_ne_take hevent htake
        rw [hslot] at hkeep ⊢
        rcases hreacts.slot_cases with
          ⟨hsame, hown⟩ | ⟨htaken, -⟩ | ⟨given, -, -, hgone | hreleased⟩
        · rw [hsame]
          exact ih hnumbers htaker hold (hown ▸ hguard) hkept
        · exact absurd htaken hkeep
        · rw [hgone] at hguard
          contradiction
        · rw [hreleased] at hguard
          obtain rfl := Option.some.inj hguard
          contradiction

/-- An operation with a guard in force holds the slot exactly when it is the last taker. -/
theorem holds_iff_last_taker (h : Execution {} steps last)
    (hnumbers : (takers steps).length ≤ UInt64.size) {index : Nat} {operation : Operation}
    {guard : Guard} (hoperation : last.operations[index]? = some operation)
    (hguard : operation.guard = some guard) (hkept : guard.released = false) :
    last.holds index = true ↔ (takers steps).getLast? = some index := by
  have hholds : last.holds index = true ↔ last.slot.holder = some guard.id := by
    simp [State.holds, hoperation, hguard, hkept]
  rw [hholds]
  constructor
  · intro hheld
    obtain ⟨hsome, hid⟩ := h.holder_eq hheld
    obtain ⟨turn, hturn, hnumber⟩ := h.guard_id hoperation hguard
    have hlt := (List.getElem?_eq_some_iff.1 hturn).1
    have hlast : turn = (takers steps).length - 1 :=
      eq_of_ofNat_eq hnumbers hlt (by omega) (hnumber.symm.trans hid)
    rw [List.getLast?_eq_getElem?, ← hlast, hturn]
  · intro htaker
    exact h.holder_of_guard hnumbers htaker hoperation hguard hkept

end Execution

/-! ## How long an operation keeps its guard -/

@[simp] theorem Operation.new_purpose (purpose : Purpose) (request : Message) :
    (Operation.new purpose request).purpose = purpose := by
  unfold new
  split <;> rfl

/-- No transition changes what an operation is for. -/
theorem Reacts.purpose_eq {operation : Operation} {slot : Slot} {signal : Signal}
    {reaction : Reaction} (h : Reacts operation slot signal reaction) :
    reaction.operation.purpose = operation.purpose := by
  cases h <;> simp

/-- Only a given-up operation is told that its disconnection has ended. -/
theorem Reacts.stage_of_disconnected {operation : Operation} {slot : Slot}
    {result : Except DeviceError Unit} {reaction : Reaction}
    (h : Reacts operation slot (.disconnected result) reaction) :
    operation.stage = .disconnecting := by
  cases h with
  | tearDown hstage | tearDownFailing _ hstage => exact hstage

/-- A message follows a reply only where the reply asks for a button. -/
theorem Operation.Drive.after_eq_ready {reply : Except DeviceError Message} {message : Message}
    (h : Drive.after reply = .ready message) :
    ∃ heard, reply = .ok heard ∧ heard.verdict = .acknowledge := by
  unfold Drive.after at h
  split at h
  · contradiction
  · rename_i heard
    split at h
    · rename_i hverdict
      exact ⟨heard, rfl, hverdict⟩
    · contradiction

/-- What is known of a serialized operation: it drives the device only after it has taken the slot,
and it keeps its guard until its drive is over or it is torn down. -/
structure Tenure (index : Nat) (steps : List Step) (operation : Operation) : Prop where
  outside : operation.IsOutside → operation.drive = .idle ∧ index ∉ takers steps
  taken : operation.drive ≠ .idle → index ∈ takers steps
  guarded : index ∈ takers steps → (∀ step ∈ steps, ¬ step.TearsDown index) →
    (∃ id, operation.guard = some ⟨id, false⟩) ∨ ∃ result, operation.drive = .resolved result
  tornDown : (∃ step ∈ steps, step.TearsDown index) →
    operation.stage = .ended ∧ operation.guard = none

/-- A step that leaves the guard alone, and does not end the drive, keeps what is known. -/
theorem Tenure.snoc {index : Nat} {steps : List Step} {old new : Operation}
    (h : Tenure index steps old) {step : Step} (htake : step.taker? ≠ some index)
    (htear : ¬ step.TearsDown index) (houtside : new.IsOutside → old.IsOutside)
    (hended : old.stage = .ended → new.stage = .ended) (hguard : new.guard = old.guard)
    (hdrive : new.drive = old.drive ∨
      old.drive ≠ .idle ∧ ∀ result, old.drive ≠ .resolved result) :
    Tenure index (steps ++ [step]) new := by
  have htakers : index ∈ takers (steps ++ [step]) ↔ index ∈ takers steps := by
    rw [mem_takers_snoc, or_iff_left htake]
  refine ⟨fun hnew => ?_, fun hnew => ?_, fun hmem hkept => ?_, ?_⟩
  · obtain ⟨hidle, hfresh⟩ := h.outside (houtside hnew)
    refine ⟨?_, htakers.not.2 hfresh⟩
    rcases hdrive with hsame | ⟨hbusy, -⟩
    · rw [hsame, hidle]
    · exact absurd hidle hbusy
  · rw [htakers]
    rcases hdrive with hsame | ⟨hbusy, -⟩
    · exact h.taken (hsame ▸ hnew)
    · exact h.taken hbusy
  · rw [hguard]
    rcases h.guarded (htakers.1 hmem) fun step hstep => hkept step (List.mem_append_left _ hstep)
      with hheld | ⟨result, hover⟩
    · exact Or.inl hheld
    · rcases hdrive with hsame | ⟨-, hbusy⟩
      · exact Or.inr ⟨result, hsame.trans hover⟩
      · exact absurd hover (hbusy result)
  · rintro ⟨torn, htorn, htears⟩
    rcases List.mem_append.1 htorn with hold | hnew
    · obtain ⟨hstage, hnone⟩ := h.tornDown ⟨torn, hold, htears⟩
      exact ⟨hended hstage, hguard.trans hnone⟩
    · obtain rfl := List.mem_singleton.1 hnew
      exact absurd htears htear

/-- An operation may end without having had the slot, when its drive is over, and when it is torn
down. -/
theorem Tenure.finish {index : Nat} {steps : List Step} {operation : Operation}
    (h : Tenure index steps operation) {step : Step} (htake : step.taker? ≠ some index)
    (slot : Slot) (outcome : Outcome)
    (hover : index ∉ takers steps ∨ (∃ result, operation.drive = .resolved result) ∨
      step.TearsDown index) :
    Tenure index (steps ++ [step]) (operation.finish slot outcome).operation := by
  rw [Operation.finish_operation]
  refine ⟨fun hnew => ?_, fun hnew => mem_takers_snoc.2 (Or.inl (h.taken hnew)),
    fun hmem hkept => ?_, fun _ => ⟨rfl, rfl⟩⟩
  · simp [Operation.IsOutside] at hnew
  · rcases hover with hfresh | hresolved | htears
    · exact absurd ((mem_takers_snoc.1 hmem).resolve_right htake) hfresh
    · exact Or.inr hresolved
    · exact absurd htears (hkept step (by simp))

namespace Execution

variable {steps : List Step} {last : State}

theorem tenure (h : Execution {} steps last) {index : Nat} {operation : Operation}
    (hoperation : last.operations[index]? = some operation)
    (hpurpose : operation.purpose = .supervised true) : Tenure index steps operation := by
  revert hpurpose
  refine h.operation_induction (fun steps operation =>
    operation.purpose = .supervised true → Tenure index steps operation) ?_ ?_ ?_ hoperation
  · intro steps step purpose request _ _ hevent hunknown hpurpose
    have hnone : ∀ other ∈ steps ++ [step], ∀ signal, other.event ≠ .signal index signal := by
      intro other hother signal hsignal
      rcases List.mem_append.1 hother with hold | hnew
      · exact hunknown other hold signal hsignal
      · rw [List.mem_singleton.1 hnew, hevent] at hsignal
        contradiction
    rw [Operation.new_purpose] at hpurpose
    subst hpurpose
    have hfresh : index ∉ takers (steps ++ [step]) := by
      intro hmem
      obtain ⟨taking, htaking, signal, hsignal⟩ := signal_of_mem_takers hmem
      exact hnone taking htaking signal hsignal
    refine ⟨fun _ => ⟨rfl, hfresh⟩, fun hbusy => absurd rfl hbusy, fun hmem => absurd hmem hfresh,
      ?_⟩
    · rintro ⟨torn, htorn, result, htears⟩
      exact absurd htears (hnone torn htorn _)
  · intro steps step operation _ _ hevent ih hpurpose
    refine (ih hpurpose).snoc (Step.taker?_ne_of_event hevent) ?_ id id rfl (Or.inl rfl)
    rintro ⟨result, htears⟩
    exact hevent _ htears
  · intro steps step signal operation reaction _ hlawful hevent hreacts _ hslot ih hpurpose
    rw [hreacts.purpose_eq] at hpurpose
    have ih := ih hpurpose
    have hsteady : (∀ result, signal ≠ .disconnected result) → ¬ step.TearsDown index := by
      rintro hsignal ⟨result, htears⟩
      rw [hevent] at htears
      exact hsignal result (Event.signal.inj htears).2
    by_cases htake : step.taker? = some index
    · obtain ⟨rfl, hwas⟩ := hreacts.of_slot_eq_take (hslot ▸ (hlawful.of_taker? htake).1)
      have hinside := operation.takeSlot_not_isOutside step.before.slot
      refine ⟨fun hnew => absurd hnew hinside, fun _ => ?_, fun _ _ => Or.inl ⟨_, by simp; rfl⟩, ?_⟩
      · simp [htake]
      · rintro ⟨torn, htorn, htears⟩
        rcases List.mem_append.1 htorn with hold | hnew
        · obtain ⟨hstage, -⟩ := ih.tornDown ⟨torn, hold, htears⟩
          simp [hstage] at hwas
        · obtain rfl := List.mem_singleton.1 hnew
          refine absurd htears (hsteady fun result hsignal => ?_)
          subst hsignal
          simp [hreacts.stage_of_disconnected] at hwas
    · cases hreacts with
      | takeFree | takeOver =>
        refine absurd ?_ htake
        rw [Step.taker?_of_signal hevent, if_pos (hslot.trans (operation.takeSlot_slot _))]
      | preempt hstage =>
        refine ih.snoc htake (hsteady (by simp)) (fun _ => Or.inl hstage) ?_ rfl (Or.inl rfl)
        simp [hstage]
      | fail error hstage =>
        exact ih.finish htake _ _ (Or.inl (ih.outside (Or.inr hstage)).2)
      | hear reply hstage hdrive =>
        exact ih.snoc htake (hsteady (by simp)) id id rfl (Or.inr (by simp [hdrive]))
      | send message hdrive =>
        exact ih.snoc htake (hsteady (by simp)) id id rfl (Or.inr (by simp [hdrive]))
      | settle result hstage hdrive =>
        exact ih.finish htake _ _ (Or.inr (Or.inl ⟨result, hdrive⟩))
      | notice hfired hstage =>
        refine ih.snoc htake (hsteady (by simp)) ?_ ?_ rfl (Or.inl rfl)
        · simp [Operation.IsOutside]
        · intro hended
          simp [hended] at hstage
      | tearDown | tearDownFailing =>
        exact ih.finish htake _ _ (Or.inr (Or.inr ⟨_, hevent⟩))
      | giveUp =>
        exact ih.snoc htake (hsteady (by simp)) id id rfl (Or.inl rfl)
      | fire hother | detach hother => exact absurd hpurpose (hother true)
      | release _ hother | dropGuard _ hother =>
        rw [hpurpose] at hother
        contradiction

end Execution

/-! ## When a message is sent -/

/-- A serialized operation gets a message to send when it takes the slot, and when the device asks
for a button. -/
theorem Step.IsLawful.ready_cases {step : Step} (h : step.IsLawful) {index : Nat}
    {operation : Operation} {message : Message}
    (hoperation : step.after.operations[index]? = some operation)
    (hpurpose : operation.purpose = .supervised true) (hready : operation.drive = .ready message) :
    step.taker? = some index ∨ step.Prompts index ∨
      ∃ old, step.before.operations[index]? = some old ∧ old.purpose = .supervised true ∧
        old.drive = .ready message := by
  rcases h.operation_cases hoperation with
    ⟨purpose, request, -, -, rfl⟩ | ⟨hold, -⟩ |
    ⟨signal, old, reaction, hevent, hold, hreacts, -, hslot, rfl⟩
  · rw [Operation.new_purpose] at hpurpose
    subst hpurpose
    contradiction
  · exact Or.inr (Or.inr ⟨operation, hold, hpurpose, hready⟩)
  · rw [hreacts.purpose_eq] at hpurpose
    cases hreacts with
    | takeFree | takeOver =>
      refine Or.inl ?_
      rw [taker?_of_signal hevent, if_pos (hslot.trans (old.takeSlot_slot _))]
    | hear reply =>
      obtain ⟨heard, rfl, hverdict⟩ := Operation.Drive.after_eq_ready hready
      exact Or.inr (Or.inl ⟨heard, hevent, hverdict⟩)
    | send => contradiction
    | preempt | fail | settle | notice | tearDown | tearDownFailing | fire | giveUp | detach
    | release | dropGuard => exact Or.inr (Or.inr ⟨old, hold, hpurpose, hready⟩)

/-- An operation that has a message to send after some steps had it before them, or has been asked
for a button in the meantime. -/
theorem Execution.isReady_cases {start last : State} {steps : List Step}
    (h : Execution start steps last) {index : Nat} {operation : Operation} {message : Message}
    (hoperation : last.operations[index]? = some operation)
    (hpurpose : operation.purpose = .supervised true) (hready : operation.drive = .ready message)
    (huntaken : index ∉ takers steps) :
    start.isReady index = true ∨ ∃ step ∈ steps, step.Prompts index := by
  induction h generalizing operation message with
  | refl => exact Or.inl (by simp [State.isReady, hoperation, hready])
  | snoc hsteps hlawful ih =>
    rw [mem_takers_snoc, not_or] at huntaken
    rcases hlawful.ready_cases hoperation hpurpose hready with
      htake | hprompt | ⟨old, hold, holdPurpose, holdReady⟩
    · exact absurd htake huntaken.2
    · exact Or.inr ⟨_, by simp, hprompt⟩
    · rcases ih hold holdPurpose holdReady huntaken.1 with hstart | ⟨step, hstep, hprompt⟩
      · exact Or.inl hstart
      · exact Or.inr ⟨step, List.mem_append_left _ hstep, hprompt⟩

/-- A serialized operation that sends a message has taken the slot before.  It still holds it
exactly when nobody has taken it since and the operation has not been torn down; and at each moment
since, the message was still to be sent, or else the device has asked for a button after that
moment. -/
theorem holds_slot_iff {steps : List Step} {step : Step} {last : State} {index : Nat}
    (h : Execution {} (steps ++ [step]) last) (hnumbers : (takers steps).length ≤ UInt64.size)
    (hpurpose : (step.before.operations[index]?).map Operation.purpose = some (.supervised true))
    (hsend : step.event = .signal index .send) :
    ∃ before taking after, steps = before ++ taking :: after ∧ taking.taker? = some index ∧
      (step.before.holds index = true ↔
        takers after = [] ∧ ∀ other ∈ steps, ¬ other.TearsDown index) ∧
      ∀ front moment back, after = front ++ moment :: back →
        moment.after.isReady index = true ∨ ∃ other ∈ back, other.Prompts index := by
  obtain ⟨hsteps, hlawful, -⟩ := h.of_snoc
  rcases hlawful.cases with
    ⟨_, _, hbegin, _⟩ | ⟨other, signal, operation, reaction, hevent, hoperation, hreacts, -⟩
  · rw [hsend] at hbegin
    contradiction
  rw [hsend] at hevent
  obtain ⟨rfl, rfl⟩ := Event.signal.inj hevent
  cases hreacts with
  | send message hready =>
    simp only [hoperation, Option.map_some, Option.some.injEq] at hpurpose
    have htenure := hsteps.tenure hoperation hpurpose
    have htaken := htenure.taken (by simp [hready])
    obtain ⟨taking, htaking, htake⟩ := List.mem_filterMap.1 htaken
    obtain ⟨before, after, rfl⟩ := List.append_of_mem htaking
    have htakers : takers (before ++ taking :: after)
        = (takers before ++ [index]) ++ takers after := by
      simp [htake]
    have hnodup := htakers ▸ hsteps.nodup_takers
    refine ⟨before, taking, after, rfl, htake, ?_, ?_⟩
    · by_cases htorn : ∃ other ∈ before ++ taking :: after, other.TearsDown index
      · have hlost : step.before.holds index = false := by
          simp [State.holds, hoperation, (htenure.tornDown htorn).2]
        obtain ⟨other, hother, htears⟩ := htorn
        simp only [hlost, Bool.false_eq_true, false_iff, not_and]
        exact fun _ hkept => hkept other hother htears
      · have hkept : ∀ other ∈ before ++ taking :: after, ¬ other.TearsDown index :=
          fun other hother htears => htorn ⟨other, hother, htears⟩
        obtain ⟨id, hguard⟩ := (htenure.guarded htaken hkept).resolve_right (by simp [hready])
        rw [hsteps.holds_iff_last_taker hnumbers hoperation hguard rfl, and_iff_left hkept, htakers]
        constructor
        · intro hlast
          exact (getLast_mem_left_iff hnodup hlast).1 (by simp)
        · intro hlast
          simp [hlast]
    · rintro front moment back rfl
      rw [← List.cons_append, ← List.append_assoc] at hsteps
      refine hsteps.of_append_cons.2.2.isReady_cases hoperation hpurpose hready fun hback => ?_
      refine (List.nodup_append.1 hnodup).2.2 index (by simp) index ?_ rfl
      simp [hback]

/-- A wallet is backed up, and an operation that wipes it waits for the slot. -/
def rivalRequests : List Event :=
  [.begin (.supervised true) DeviceRequest.backup.message,
    .begin (.supervised true) DeviceRequest.wipe.message,
    .signal 0 .start, .signal 0 .send]

theorem first_rival_holds_slot :
    ∃ steps step last, Execution {} (steps ++ [step]) last ∧
      (takers steps).length ≤ UInt64.size ∧
      (step.before.operations[0]?).map Operation.purpose = some (.supervised true) ∧
      step.event = .signal 0 .send ∧
      ∃ before taking after, steps = before ++ taking :: after ∧ taking.taker? = some 0 ∧
        (step.before.holds 0 = true ↔
          takers after = [] ∧ ∀ other ∈ steps, ¬ other.TearsDown 0) ∧
        ∀ front moment back, after = front ++ moment :: back →
          moment.after.isReady 0 = true ∨ ∃ other ∈ back, other.Prompts 0 := by
  obtain ⟨last, hlast⟩ := Execution.exists_of_isSome_run
    (show (State.run {} rivalRequests).isSome by decide) (by decide)
  exact ⟨_, _, last, hlast, by decide, by decide, rfl,
    holds_slot_iff hlast (by decide) (by decide) rfl⟩

/-- The second operation takes the slot over, and its own request goes out.  Then the device answers
the first one with a button request, which the first one acknowledges without holding the slot. -/
theorem acknowledges_without_slot :
    ¬ ∀ (steps : List Step) (step : Step) (last : State) (index : Nat),
      Execution {} (steps ++ [step]) last → (takers steps).length ≤ UInt64.size →
      (step.before.operations[index]?).map Operation.purpose = some (.supervised true) →
      step.event = .signal index .send → step.before.holds index = true := by
  intro hclaim
  let events := rivalRequests ++ [.signal 1 .start, .signal 1 (.answer (.ok ⟨3, []⟩)),
    .signal 1 .send, .signal 0 (.answer (.ok ⟨26, []⟩)), .signal 0 .send]
  obtain ⟨last, hlast⟩ := Execution.exists_of_isSome_run
    (show (State.run {} events).isSome by decide) (by decide)
  have hholds := hclaim _ _ last 0 hlast (by decide) (by decide) rfl
  revert hholds
  decide

end WalletGateway.Access
