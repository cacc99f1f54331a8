import WalletGateway.Proofs.Link.Moves

/-!
# Calls in turn

Where no cancellation goes past the queue and no call is dropped, the calls of a link are carried
out one after the other, in the order of their start.  `InTurn` says how far they have come, and
`InTurn.moves` that every move takes them at most one call further.
-/

namespace WalletGateway

namespace Link

/-- Whether an event leaves the order of the calls as it is.  A cancellation does where there is
nothing to cancel. -/
def keepsOrder (link : Link) : LinkEvent → Bool
  | .cancel => link.queue.isEmpty
  | .drop _ => false
  | _ => true

/-- Whether every event of a run leaves the order of the calls as it is. -/
def keepsOrderThrough (link : Link) : List LinkEvent → Bool
  | [] => true
  | event :: events =>
    link.keepsOrder event && (link.step event).all fun next => next.keepsOrderThrough events

/-- As many calls as `ended` says have ended, the next one may be at its exchange, and the others
wait. -/
structure InTurn (link : Link) (ended : Nat) : Prop where
  le : ended ≤ link.calls.length
  queue : link.queue = List.range' ended (link.calls.length - ended)
  before : ∀ {index : Nat}, index < ended → ∃ result, link.calls[index]? = some (.ended result)
  after : ∀ {index : Nat} {stage : CallStage}, ended ≤ index → link.calls[index]? = some stage →
    (∃ request, stage = .queued request) ∨
      index = ended ∧ ∃ connection epoch assembler, stage = .exchanging connection epoch assembler

theorem inTurn_of_unused {link : Link} (hqueue : link.queue = []) (hcalls : link.calls = []) :
    link.InTurn 0 := by
  refine ⟨Nat.zero_le _, by simp [hqueue, hcalls], fun hlt => absurd hlt (Nat.not_lt_zero _), ?_⟩
  intro index stage _ hstage
  simp [hcalls] at hstage

namespace InTurn

variable {link next : Link} {ended index : Nat}

/-- A call that is queued or at its exchange has not ended. -/
theorem le_of_stage (h : link.InTurn ended) {stage : CallStage}
    (hstage : link.calls[index]? = some stage) (hgoing : ∀ result, stage ≠ .ended result) :
    ended ≤ index := by
  refine Nat.le_of_not_lt fun hlt => ?_
  obtain ⟨result, hended⟩ := h.before hlt
  exact hgoing result (Option.some.inj (hstage.symm.trans hended))

/-- Only one call is at its exchange. -/
theorem eq_of_exchanging (h : link.InTurn ended) {connection epoch : Nat} {assembler : Assembler}
    (hstage : link.calls[index]? = some (.exchanging connection epoch assembler)) :
    index = ended := by
  rcases h.after (h.le_of_stage hstage (by simp)) hstage with ⟨request, hqueued⟩ | ⟨hturn, -⟩
  · contradiction
  · exact hturn

theorem eq_of_turn (h : link.InTurn ended) (hturn : link.turn = some index) : index = ended := by
  rw [turn, h.queue] at hturn
  cases hcount : link.calls.length - ended with
  | zero =>
    rw [hcount] at hturn
    contradiction
  | succ count =>
    rw [hcount, List.range'_succ] at hturn
    exact (Option.some.inj hturn).symm

/-- A call that has had its turn has ended, or it is at its exchange. -/
theorem lt_or_exchanging (h : link.InTurn ended) {stage : CallStage}
    (hstage : link.calls[index]? = some stage) (hbegun : ∀ request, stage ≠ .queued request) :
    index < ended ∨ index = ended ∧
      ∃ connection epoch assembler, stage = .exchanging connection epoch assembler := by
  by_cases hlt : index < ended
  · exact Or.inl hlt
  · rcases h.after (Nat.not_lt.1 hlt) hstage with ⟨request, hqueued⟩ | hturn
    · exact absurd hqueued (hbegun request)
    · exact Or.inr hturn

/-- No call has cancelled others. -/
theorem not_yielding (h : link.InTurn ended) {deadline : Nat}
    (hstage : link.calls[index]? = some (.yielding deadline)) : False := by
  rcases h.after (h.le_of_stage hstage (by simp)) hstage with ⟨request, hqueued⟩ |
    ⟨-, connection, epoch, assembler, hexchanging⟩
  · contradiction
  · contradiction

theorem of_eq (h : link.InTurn ended) (hqueue : next.queue = link.queue)
    (hcalls : next.calls = link.calls) : next.InTurn ended := by
  refine ⟨hcalls ▸ h.le, ?_, fun hlt => hcalls ▸ h.before hlt, fun hle hstage => ?_⟩
  · rw [hqueue, hcalls, h.queue]
  · exact h.after hle (hcalls ▸ hstage)

theorem enqueue (h : link.InTurn ended) (request : Message) :
    (link.enqueue (.queued request)).InTurn ended := by
  have hle := h.le
  refine ⟨?_, ?_, fun hlt => ?_, fun {index stage} hindex hstage => ?_⟩
  · simp only [Link.enqueue, List.length_append]
    omega
  · have hlength : link.calls.length + 1 - ended = link.calls.length - ended + 1 := by omega
    have hlast : ended + (link.calls.length - ended) = link.calls.length := by omega
    simp only [Link.enqueue, h.queue, List.length_append, List.length_singleton, hlength,
      List.range'_concat, Nat.one_mul, hlast]
  · obtain ⟨result, hended⟩ := h.before hlt
    exact ⟨result, (List.getElem?_append_left (by omega)).trans hended⟩
  · rcases stage_cases_of_append hstage with hold | ⟨-, hnew⟩
    · exact h.after hindex hold
    · exact Or.inl ⟨request, hnew.symm⟩

/-- The call whose turn it is begins its exchange, or goes on with it. -/
theorem stay (h : link.InTurn ended) (hqueue : next.queue = link.queue)
    (hcalls : next.calls = link.calls) (connection epoch : Nat) (assembler : Assembler) :
    (next.stay ended (.exchanging connection epoch assembler)).InTurn ended := by
  have h := h.of_eq hqueue hcalls
  refine ⟨by simpa only [Link.stay, List.length_set] using h.le, ?_, fun {index} hlt => ?_,
    fun {index stage} hle hstage => ?_⟩
  · simpa only [Link.stay, List.length_set] using h.queue
  · simp only [Link.stay, List.getElem?_set_ne (Nat.ne_of_gt hlt)]
    exact h.before hlt
  · rcases stage_cases_of_set hstage with ⟨hturn, hnew⟩ | ⟨-, hold⟩
    · exact Or.inr ⟨hturn.symm, connection, epoch, assembler, hnew.symm⟩
    · exact h.after hle hold

/-- The call whose turn it is ends. -/
theorem finish (h : link.InTurn ended) (hqueue : next.queue = link.queue)
    (hcalls : next.calls = link.calls) (hlt : ended < link.calls.length)
    (result : Except DeviceError Message) : (next.finish ended result).InTurn (ended + 1) := by
  have h := h.of_eq hqueue hcalls
  have hlt : ended < next.calls.length := hcalls ▸ hlt
  have hcount : next.calls.length - ended = next.calls.length - (ended + 1) + 1 := by omega
  refine ⟨by simpa only [Link.finish, List.length_set], ?_, fun {index} hindex => ?_,
    fun {index stage} hle hstage => ?_⟩
  · simp only [Link.finish, h.queue, List.length_set]
    rw [hcount, List.range'_succ, List.erase_cons_head]
  · by_cases hsame : index = ended
    · subst hsame
      exact ⟨result, List.getElem?_set_self hlt⟩
    · simp only [Link.finish, List.getElem?_set_ne (Ne.symm hsame)]
      exact h.before (by omega)
  · rcases stage_cases_of_set hstage with ⟨hturn, -⟩ | ⟨-, hold⟩
    · omega
    · rcases h.after (by omega) hold with hqueued | ⟨hturn, -⟩
      · exact Or.inl hqueued
      · omega

/-- A move takes the calls at most one call further. -/
theorem moves (h : link.InTurn ended) {event : LinkEvent} (hmoves : link.Moves event next)
    (hevent : link.keepsOrder event = true) : next.InTurn ended ∨ next.InTurn (ended + 1) := by
  have hlt : ∀ {index : Nat} {stage : CallStage}, link.calls[index]? = some stage →
      index < link.calls.length :=
    fun hstage => (List.getElem?_eq_some_iff.1 hstage).1
  cases hmoves with
  | unheard hbusy | unsaid hbusy | interrupt hbusy =>
    exact absurd (List.isEmpty_iff.1 hevent) hbusy
  | drop => contradiction
  | call request => exact Or.inl (h.enqueue request)
  | cancel => exact Or.inl (h.enqueue DeviceRequest.cancel.message)
  | disconnect | arrive | wait | expectOpenings | expectWritings => exact Or.inl (h.of_eq rfl rfl)
  | unreached hstage hturn hopen | cut hstage hturn hopen =>
    obtain rfl := h.eq_of_turn hturn
    refine Or.inr (h.finish ?_ ?_ (hlt hstage) _)
    · exact (opens_of_eq hopen).queue_eq
    · exact (opens_of_eq hopen).calls_eq
  | ask hstage hturn hopen =>
    obtain rfl := h.eq_of_turn hturn
    refine Or.inl (h.stay ?_ ?_ _ _ _)
    · exact (opens_of_eq hopen).queue_eq
    · exact (opens_of_eq hopen).calls_eq
  | read hstage =>
    obtain rfl := h.eq_of_exchanging hstage
    exact Or.inl (h.stay (by rfl) (by rfl) _ _ _)
  | abort hstage | hear hstage | fail hstage =>
    obtain rfl := h.eq_of_exchanging hstage
    exact Or.inr (h.finish (by rfl) (by rfl) (hlt hstage) _)
  | yield hstage | giveUp hstage => exact (h.not_yielding hstage).elim

end InTurn

end Link

end WalletGateway
