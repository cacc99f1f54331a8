import WalletGateway.Proofs.Link.Dialogue

/-!
# Which answer a call returns

A call returns the answer that has the number of its exchange.  That need not be the answer to its
own request: a cancellation that is written past the queue is a message without an exchange, and
when the device answers it as well as the call that it was to stop, one answer is left over.

`returns_earlier_reply_iff` gives the exact condition, for a call that starts after some moment:
it returns the answer to a message from before that moment exactly when the device answers more of
those messages than exchanges began before the call.  `returns_reply_to_cancel` is a dialogue in
which that happens.
-/

namespace WalletGateway

/-- In an ascending list, the entries below a bound are the first ones. -/
theorem lt_iff_lt_countP {numbers : List Nat} (h : numbers.Pairwise (· < ·)) {turn number : Nat}
    (hnumber : numbers[turn]? = some number) (bound : Nat) :
    number < bound ↔ turn < numbers.countP (· < bound) := by
  induction numbers generalizing turn with
  | nil => simp at hnumber
  | cons first rest ih =>
    obtain ⟨hfirst, hrest⟩ := List.pairwise_cons.1 h
    cases turn with
    | zero =>
      obtain rfl := Option.some.inj hnumber
      by_cases hlt : first < bound
      · simp [hlt]
      · have hnone : rest.countP (· < bound) = 0 := by
          rw [List.countP_eq_zero]
          intro other hother
          have := hfirst other hother
          simp only [decide_eq_true_eq]
          omega
        simp [hlt, hnone]
    | succ turn =>
      rw [List.getElem?_cons_succ] at hnumber
      have hafter := hfirst number (List.mem_of_getElem? hnumber)
      by_cases hlt : first < bound
      · simp [hlt, ih hrest hnumber]
      · have hcount := ih hrest hnumber
        have hnot : ¬ number < bound := by omega
        simp only [List.countP_cons, hlt, decide_false, Bool.false_eq_true, if_false] at *
        omega

namespace Dialogue

/-- The account of a dialogue is in order: what stands in `sent` was written, only calls that there
are have begun exchanges, and the device answers in order messages that were written. -/
structure Accounts (dialogue : Dialogue) : Prop where
  written : dialogue.link.line.written.reverse.map Prod.snd
    = dialogue.sent.flatMap Message.packets
  begun : ∀ index ∈ dialogue.exchanges, index < dialogue.link.calls.length
  numbers : (dialogue.replies.map Prod.fst).Pairwise (· < ·)
  answered : ∀ reply ∈ dialogue.replies, reply.1 < dialogue.sent.length

theorem Accounts.step {dialogue next : Dialogue} {event : DialogueEvent} (h : dialogue.Accounts)
    (hsteady : dialogue.link.IsSteady) (hmoves : dialogue.Moves event next) : next.Accounts := by
  have hlonger : ∀ message, ∀ reply ∈ dialogue.replies,
      reply.1 < (dialogue.sent ++ [message]).length := by
    intro message reply hreply
    have := h.answered reply hreply
    simp only [List.length_append]
    omega
  have hwritten : ∀ message, (dialogue.link.send message).line.written.reverse.map Prod.snd
      = (dialogue.sent ++ [message]).flatMap Message.packets := by
    intro message
    simp [hsteady.send_written, h.written]
  have hbegun : ∀ {calls : List CallStage}, dialogue.link.calls.length ≤ calls.length →
      ∀ index ∈ dialogue.exchanges, index < calls.length := by
    intro calls hle index hindex
    have := h.begun index hindex
    omega
  cases hmoves with
  | call request | cancel hidle =>
    exact ⟨h.written, hbegun (by simp [Link.enqueue]), h.numbers, h.answered⟩
  | interrupt hbusy =>
    refine ⟨hwritten _, hbegun ?_, h.numbers, hlonger _⟩
    simp [Link.enqueue, hsteady.send_calls]
  | wait milliseconds => exact ⟨h.written, h.begun, h.numbers, h.answered⟩
  | ask index request hstage hturn =>
    refine ⟨hwritten _, ?_, h.numbers, hlonger _⟩
    simp only [Link.stay, hsteady.send_calls, List.length_set]
    intro other hother
    rcases List.mem_append.1 hother with hold | hnew
    · exact h.begun other hold
    · rw [List.mem_singleton.1 hnew]
      exact (List.getElem?_eq_some_iff.1 hstage).1
  | read index assembler after packet line hstage hreceive hpush =>
    refine ⟨?_, hbegun (by simp [Link.stay]), h.numbers, h.answered⟩
    rw [← h.written, ← (hsteady.receive_eq hreceive).2.2]
    rfl
  | hear index assembler packet line message hstage hreceive hpush hnumber =>
    refine ⟨?_, hbegun (by simp [Link.finish]), h.numbers, h.answered⟩
    rw [← h.written, ← (hsteady.receive_eq hreceive).2.2]
    rfl
  | yield index deadline result hstage =>
    exact ⟨h.written, hbegun (by simp [Link.finish]), h.numbers, h.answered⟩
  | reply number message hnumbers hsent hlength =>
    refine ⟨h.written, h.begun, ?_, ?_⟩
    · rw [List.map_append, List.pairwise_append]
      refine ⟨h.numbers, List.pairwise_singleton _ _, ?_⟩
      intro earlier hearlier later hlater
      obtain ⟨reply, hreply, rfl⟩ := List.mem_map.1 hearlier
      obtain rfl := List.mem_singleton.1 hlater
      exact hnumbers reply hreply
    · intro reply hreply
      rcases List.mem_append.1 hreply with hold | hnew
      · exact h.answered reply hold
      · rw [List.mem_singleton.1 hnew]
        exact hsent
  | arrive count line harrive =>
    refine ⟨?_, h.begun, h.numbers, h.answered⟩
    rw [← h.written, ← (hsteady.arrive_eq harrive).2.2]

/-! ## What happens to one call -/

/-- Events add to the exchanges, the answers and the calls, and take nothing away. -/
structure Extends (start dialogue : Dialogue) : Prop where
  exchanges : start.exchanges <+: dialogue.exchanges
  replies : start.replies <+: dialogue.replies
  calls : start.link.calls.length ≤ dialogue.link.calls.length

theorem Extends.refl (dialogue : Dialogue) : dialogue.Extends dialogue :=
  ⟨List.prefix_rfl, List.prefix_rfl, Nat.le_refl _⟩

theorem Extends.trans {start middle last : Dialogue} (hfirst : start.Extends middle)
    (hsecond : middle.Extends last) : start.Extends last :=
  ⟨hfirst.exchanges.trans hsecond.exchanges, hfirst.replies.trans hsecond.replies,
    Nat.le_trans hfirst.calls hsecond.calls⟩

theorem Moves.extends {dialogue next : Dialogue} {event : DialogueEvent}
    (h : dialogue.Moves event next) (hsteady : dialogue.link.IsSteady) :
    dialogue.Extends next := by
  cases h with
  | call | cancel =>
    exact ⟨List.prefix_rfl, List.prefix_rfl, by simp [Link.enqueue]⟩
  | interrupt =>
    exact ⟨List.prefix_rfl, List.prefix_rfl, by simp [Link.enqueue, hsteady.send_calls]⟩
  | wait | arrive => exact ⟨List.prefix_rfl, List.prefix_rfl, Nat.le_refl _⟩
  | ask =>
    exact ⟨List.prefix_append _ _, List.prefix_rfl, by simp [Link.stay, hsteady.send_calls]⟩
  | read => exact ⟨List.prefix_rfl, List.prefix_rfl, by simp [Link.stay]⟩
  | hear | yield => exact ⟨List.prefix_rfl, List.prefix_rfl, by simp [Link.finish]⟩
  | reply => exact ⟨List.prefix_rfl, List.prefix_append _ _, Nat.le_refl _⟩

/-- How a call can stand that waits for an exchange of its own: once it has ended, it returns the
answer that has the number of its exchange. -/
def Allows (dialogue : Dialogue) (index : Nat) : CallStage → Prop
  | .queued _ | .exchanging .. => True
  | .yielding _ | .dropped => False
  | .ended result => ∃ (turn number : Nat) (message : Message), result = .ok message ∧
      dialogue.exchanges[turn]? = some index ∧ dialogue.replies[turn]? = some (number, message)

theorem Allows.mono {dialogue next : Dialogue} {index : Nat} {stage : CallStage}
    (h : dialogue.Allows index stage) (hextends : dialogue.Extends next) :
    next.Allows index stage := by
  cases stage with
  | queued | exchanging | yielding | dropped => exact h
  | ended result =>
    obtain ⟨turn, number, message, hresult, hexchange, hreply⟩ := h
    obtain ⟨exchanges, hexchanges⟩ := hextends.exchanges
    obtain ⟨replies, hreplies⟩ := hextends.replies
    refine ⟨turn, number, message, hresult, ?_, ?_⟩
    · rw [← hexchanges, List.getElem?_append_left (List.getElem?_eq_some_iff.1 hexchange).1]
      exact hexchange
    · rw [← hreplies, List.getElem?_append_left (List.getElem?_eq_some_iff.1 hreply).1]
      exact hreply

/-- A call with an exchange of its own stands as it should. -/
def Serves (dialogue : Dialogue) (index : Nat) : Prop :=
  ∃ stage, dialogue.link.calls[index]? = some stage ∧ dialogue.Allows index stage

theorem Serves.step {dialogue next : Dialogue} {event : DialogueEvent} {index : Nat}
    (h : dialogue.Serves index) (hsteady : dialogue.link.IsSteady)
    (hmoves : dialogue.Moves event next) : next.Serves index := by
  obtain ⟨stage, hstage, hallows⟩ := h
  have hlt := (List.getElem?_eq_some_iff.1 hstage).1
  have hkept := hallows.mono (hmoves.extends hsteady)
  cases hmoves with
  | call | cancel =>
    exact ⟨stage, (List.getElem?_append_left hlt).trans hstage, hkept⟩
  | interrupt =>
    refine ⟨stage, ?_, hkept⟩
    simp only [Link.enqueue, hsteady.send_calls]
    exact (List.getElem?_append_left hlt).trans hstage
  | wait | reply | arrive => exact ⟨stage, hstage, hkept⟩
  | ask other =>
    by_cases hsame : other = index
    · subst hsame
      refine ⟨.exchanging 0 0 .empty, ?_, trivial⟩
      simp only [Link.stay, hsteady.send_calls]
      exact List.getElem?_set_self hlt
    · refine ⟨stage, ?_, hkept⟩
      simp only [Link.stay, hsteady.send_calls]
      exact (List.getElem?_set_ne hsame).trans hstage
  | read other =>
    by_cases hsame : other = index
    · subst hsame
      exact ⟨.exchanging 0 0 _, List.getElem?_set_self hlt, trivial⟩
    · exact ⟨stage, (List.getElem?_set_ne hsame).trans hstage, hkept⟩
  | hear other _ _ _ message _ _ _ hnumber =>
    by_cases hsame : other = index
    · subst hsame
      obtain ⟨turn, hexchange, hmessage⟩ := hnumber
      obtain ⟨reply, hreply, rfl⟩ := Option.map_eq_some_iff.1 hmessage
      exact ⟨_, List.getElem?_set_self hlt, turn, reply.1, reply.2, rfl, hexchange, hreply⟩
    · exact ⟨stage, (List.getElem?_set_ne hsame).trans hstage, hkept⟩
  | yield other _ _ hyielding =>
    have hother : other ≠ index := by
      rintro rfl
      obtain rfl := Option.some.inj (hyielding.symm.trans hstage)
      exact hallows
    exact ⟨stage, (List.getElem?_set_ne hother).trans hstage, hkept⟩

/-! ## Runs -/

/-- Nothing has happened in a new dialogue. -/
theorem paired_fresh (patience : Nat) : (fresh patience).Paired [] none :=
  ⟨⟨rfl, rfl, rfl, Or.inl ⟨rfl, rfl⟩⟩, rfl, by simp [fresh], by simp, Nat.le_refl _,
    [], rfl, Assembler.delivers_nil⟩

theorem accounts_fresh (patience : Nat) : (fresh patience).Accounts :=
  ⟨rfl, by simp [fresh], by simp [fresh], by simp [fresh]⟩

/-- What is kept by every move is true at the end of a run. -/
theorem moves_induction (property : Dialogue → Prop) {start last : Dialogue}
    {events : List DialogueEvent} (hrun : start.run events = some last)
    (hpaired : ∃ ended reader, start.Paired ended reader) (hstart : property start)
    (hmoves : ∀ {dialogue event next}, property dialogue → dialogue.link.IsSteady →
      dialogue.Moves event next → property next) :
    (∃ ended reader, last.Paired ended reader) ∧ property last := by
  refine run_induction (fun dialogue =>
    (∃ ended reader, dialogue.Paired ended reader) ∧ property dialogue) hrun ⟨hpaired, hstart⟩ ?_
  rintro dialogue event next ⟨⟨ended, reader, hpaired⟩, hproperty⟩ hstep
  have hmove := hpaired.moves hstep
  exact ⟨hpaired.step hmove, hmoves hproperty hpaired.steady hmove⟩

/-- The messages that stand in `sent` are those that were written to the connection. -/
theorem written_eq_of_run {patience : Nat} {events : List DialogueEvent} {last : Dialogue}
    (hrun : (fresh patience).run events = some last) :
    last.link.line.written.reverse.map Prod.snd = last.sent.flatMap Message.packets := by
  obtain ⟨-, haccounts⟩ := moves_induction Accounts hrun ⟨_, _, paired_fresh patience⟩
    (accounts_fresh patience) fun h => h.step
  exact haccounts.written

/-- A call that has ended returns the answer that has the number of its exchange.  Take any moment
before the call starts, such as the return of a cancellation.  The call returns the answer to a
message from before that moment exactly when the device answers more of those messages than
exchanges began before the call. -/
theorem returns_earlier_reply_iff {patience : Nat} {before between after : List DialogueEvent}
    {request : Message} {early start last : Dialogue} {result : Except DeviceError Message}
    (hbefore : (fresh patience).run before = some early)
    (hbetween : early.run between = some start)
    (hafter : start.run (.call request :: after) = some last)
    (hended : last.link.calls[start.link.calls.length]? = some (.ended result)) :
    ∃ (turn number : Nat) (message : Message), result = .ok message ∧
      last.exchanges[turn]? = some start.link.calls.length ∧
      last.replies[turn]? = some (number, message) ∧ early.exchanges.length ≤ turn ∧
      (number < early.sent.length ↔
        turn < last.replies.countP fun reply => reply.1 < early.sent.length) := by
  obtain ⟨hearly, hearlyAccounts⟩ := moves_induction Accounts hbefore ⟨_, _, paired_fresh patience⟩
    (accounts_fresh patience) fun h => h.step
  obtain ⟨hstart, hstartExtends, hstartAccounts⟩ := moves_induction
    (fun dialogue => early.Extends dialogue ∧ dialogue.Accounts) hbetween hearly
    ⟨.refl early, hearlyAccounts⟩
    fun h hsteady hmoves => ⟨h.1.trans (hmoves.extends hsteady), h.2.step hsteady hmoves⟩
  obtain ⟨ended, reader, hpaired⟩ := hstart
  -- The call itself is the first event after `start`.
  obtain ⟨called, hcall, hserves, hrun⟩ : ∃ called : Dialogue, start.Moves (.call request) called ∧
      called.Serves start.link.calls.length ∧ called.run after = some last := by
    refine ⟨_, .call request, ⟨.queued request, ?_, trivial⟩, hafter⟩
    simp [Link.enqueue]
  obtain ⟨-, hextends, haccounts, stage, hstage, hallows⟩ := moves_induction
    (fun dialogue => early.Extends dialogue ∧ dialogue.Accounts ∧
      dialogue.Serves start.link.calls.length) hrun (hpaired.step hcall)
    ⟨hstartExtends.trans (hcall.extends hpaired.steady), hstartAccounts.step hpaired.steady hcall,
      hserves⟩
    fun h hsteady hmoves => ⟨h.1.trans (hmoves.extends hsteady), h.2.1.step hsteady hmoves,
      h.2.2.step hsteady hmoves⟩
  obtain rfl := Option.some.inj (hended.symm.trans hstage)
  obtain ⟨turn, number, message, rfl, hexchange, hreply⟩ := hallows
  refine ⟨turn, number, message, rfl, hexchange, hreply, ?_, ?_⟩
  · -- The exchanges that had begun belong to calls that had started.
    refine Nat.le_of_not_lt fun hlt => ?_
    obtain ⟨exchanges, hexchanges⟩ := hextends.exchanges
    rw [← hexchanges, List.getElem?_append_left hlt] at hexchange
    have hbegun := hearlyAccounts.begun _ (List.mem_of_getElem? hexchange)
    have hcalls := hstartExtends.calls
    omega
  · have hnumber : (last.replies.map Prod.fst)[turn]? = some number := by
      rw [List.getElem?_map, hreply]
      rfl
    rw [lt_iff_lt_countP haccounts.numbers hnumber early.sent.length, List.countP_map]
    rfl

/-- What a call has returned. -/
def returned? (dialogue : Dialogue) (index : Nat) : Option Message :=
  match dialogue.link.calls[index]? with
  | some (.ended (.ok message)) => some message
  | _ => none

theorem ended_of_returned? {dialogue : Dialogue} {index : Nat} {message : Message}
    (h : dialogue.returned? index = some message) :
    dialogue.link.calls[index]? = some (.ended (.ok message)) := by
  unfold returned? at h
  split at h
  · rename_i hended
    obtain rfl := Option.some.inj h
    exact hended
  · contradiction

/-- What the device says after a wipe. -/
def wiped : Message :=
  .of ({ message := some "Device wiped" } : Payload.Success)

/-- A device that answers a cancellation, but not the call that was to be cancelled.  The next call
returns the answer to its own request. -/
theorem returns_own_reply_after_yielding :
    ∃ early last : Dialogue,
      (fresh 10000).run [.call DeviceRequest.backup.message, .proceed 0, .cancel,
        .reply 1 Link.cancelled, .arrive 1, .proceed 0, .proceed 1] = some early ∧
      early.run [] = some early ∧
      early.run [.call DeviceRequest.wipe.message, .proceed 2, .reply 2 wiped, .arrive 1,
        .proceed 2] = some last ∧
      last.link.calls[early.link.calls.length]? = some (.ended (.ok wiped)) ∧
      ∃ (turn number : Nat) (message : Message),
        (Except.ok wiped : Except DeviceError Message) = .ok message ∧
        last.exchanges[turn]? = some early.link.calls.length ∧
        last.replies[turn]? = some (number, message) ∧ early.exchanges.length ≤ turn ∧
        (number < early.sent.length ↔
          turn < last.replies.countP fun reply => reply.1 < early.sent.length) := by
  have hruns : ((fresh 10000).run [.call DeviceRequest.backup.message, .proceed 0, .cancel,
      .reply 1 Link.cancelled, .arrive 1, .proceed 0, .proceed 1]).any (fun early =>
        (early.run [.call DeviceRequest.wipe.message, .proceed 2, .reply 2 wiped, .arrive 1,
          .proceed 2]).any fun last =>
            last.returned? early.link.calls.length = some wiped) := by
    decide +kernel
  obtain ⟨early, hearly, hrest⟩ := (Option.any_eq_true _ _).1 hruns
  obtain ⟨last, hlast, hreturned⟩ := (Option.any_eq_true _ _).1 hrest
  have hended := ended_of_returned? (of_decide_eq_true hreturned)
  exact ⟨early, last, hearly, rfl, hlast, hended,
    returns_earlier_reply_iff hearly (show early.run [] = some early from rfl) hlast hended⟩

/-- A device that finishes a call while it is being cancelled, and then answers the cancellation.
The next call returns that answer, which is to a message from before the cancellation returned. -/
theorem returns_reply_to_cancel :
    ¬ ∀ (patience : Nat) (before during between after : List DialogueEvent) (request : Message)
      (asked early start last : Dialogue) (outcome : Except DeviceError Message)
      (message : Message),
      (fresh patience).run before = some asked →
      asked.run (.cancel :: during) = some early →
      early.link.calls[asked.link.calls.length]? = some (.ended outcome) →
      early.run between = some start →
      start.run (.call request :: after) = some last →
      last.link.calls[start.link.calls.length]? = some (.ended (.ok message)) →
      ∃ reply ∈ last.replies, reply.2 = message ∧ early.sent.length ≤ reply.1 := by
  intro hclaim
  have hruns : ((fresh 10000).run [.call DeviceRequest.backup.message, .proceed 0]).any
      (fun asked => (asked.run [.cancel, .reply 0 wiped, .arrive 1, .proceed 0, .proceed 1]).any
        fun early => early.returned? asked.link.calls.length = some Link.cancelled ∧
          (early.run [.call DeviceRequest.wipe.message, .proceed 2, .reply 1 Link.cancelled,
            .arrive 1, .proceed 2]).any fun last =>
              last.returned? early.link.calls.length = some Link.cancelled ∧
                ∀ reply ∈ last.replies, reply.1 < early.sent.length) := by
    decide +kernel
  obtain ⟨asked, hasked, hrest⟩ := (Option.any_eq_true _ _).1 hruns
  obtain ⟨early, hearly, hrest⟩ := (Option.any_eq_true _ _).1 hrest
  obtain ⟨hcancelled, hrest⟩ := of_decide_eq_true hrest
  obtain ⟨last, hlast, hrest⟩ := (Option.any_eq_true _ _).1 hrest
  obtain ⟨hreturned, hreplies⟩ := of_decide_eq_true hrest
  obtain ⟨reply, hreply, -, hlate⟩ := hclaim _ _ _ [] _ _ _ _ _ _ _ _ hasked hearly
    (ended_of_returned? hcancelled) rfl hlast (ended_of_returned? hreturned)
  have := hreplies reply hreply
  omega

end Dialogue

end WalletGateway
