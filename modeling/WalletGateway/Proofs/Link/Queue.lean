import WalletGateway.Link.Settling
import WalletGateway.Proofs.Link.Moves

/-!
# The queue of a link

Whatever fails, whoever gives up and in whatever order calls go on, the queue of a link holds the
calls that are not over, in the order of their start, and only the first of them can be at its
exchange.

* `Lined`: the queue and the stages of the calls fit together.  There is one lemma for each thing
  that happens to a queue: `Lined.join`, `Lined.leave` and `Lined.stay`.
* `step_of_epoch_ne` and `takes_of_step`: how the call of an exchange goes on, according to whether
  a disconnection has ended the exchange.
* `Attends`: an exchange that no disconnection has ended has the open connection.
* `Coherent`: the invariant of a link, which every move keeps (`Coherent.moves`).
-/

namespace WalletGateway

/-- Whether a call has a place in the queue. -/
def CallStage.isGoing : CallStage → Bool
  | .queued _ | .exchanging .. | .yielding _ => true
  | .ended _ | .dropped => false

instance : DecidableEq (Except DeviceError Message)
  | .ok first, .ok second => decidable_of_iff (first = second) (by rw [Except.ok.injEq])
  | .error first, .error second => decidable_of_iff (first = second) (by rw [Except.error.injEq])
  | .ok _, .error _ | .error _, .ok _ => isFalse (by simp)

deriving instance DecidableEq for CallStage

namespace Link

variable {link next opened : Link} {queue : List Nat} {calls : List CallStage} {index : Nat}
  {stage : CallStage} {event : LinkEvent}

/-! ## The queue -/

/-- The queue holds the calls that are not over, in the order of their start. -/
structure Lined (queue : List Nat) (calls : List CallStage) : Prop where
  ascending : queue.Pairwise (· < ·)
  mem_iff : ∀ {index : Nat},
    index ∈ queue ↔ ∃ stage, calls[index]? = some stage ∧ stage.isGoing = true

namespace Lined

theorem lt_length (h : Lined queue calls) (hindex : index ∈ queue) : index < calls.length := by
  obtain ⟨stage, hstage, -⟩ := h.mem_iff.1 hindex
  exact (List.getElem?_eq_some_iff.1 hstage).1

/-- The first call in the queue started first. -/
theorem first_le (h : Lined queue calls) {first : Nat} (hfirst : queue.head? = some first)
    (hindex : index ∈ queue) : first ≤ index := by
  obtain ⟨rest, rfl⟩ := List.head?_eq_some_iff.1 hfirst
  rcases List.mem_cons.1 hindex with rfl | hrest
  · exact Nat.le_refl _
  · exact Nat.le_of_lt ((List.pairwise_cons.1 h.ascending).1 _ hrest)

/-- A call that starts stands at the end of the queue. -/
theorem join (h : Lined queue calls) (hgoing : stage.isGoing = true) :
    Lined (queue ++ [calls.length]) (calls ++ [stage]) := by
  refine ⟨?_, fun {index} => ⟨fun hindex => ?_, fun ⟨other, hother, hstill⟩ => ?_⟩⟩
  · rw [List.pairwise_append]
    refine ⟨h.ascending, List.pairwise_singleton _ _, fun earlier hearlier last hlast => ?_⟩
    rw [List.mem_singleton.1 hlast]
    exact h.lt_length hearlier
  · rcases List.mem_append.1 hindex with hold | hnew
    · obtain ⟨other, hother, hstill⟩ := h.mem_iff.1 hold
      exact ⟨other, (List.getElem?_append_left (h.lt_length hold)).trans hother, hstill⟩
    · obtain rfl := List.mem_singleton.1 hnew
      exact ⟨stage, by simp, hgoing⟩
  · rcases stage_cases_of_append hother with hold | ⟨rfl, -⟩
    · exact List.mem_append_left _ (h.mem_iff.2 ⟨other, hold, hstill⟩)
    · simp

/-- A call that is over as soon as it starts has no place in the queue. -/
theorem answer (h : Lined queue calls) (hover : stage.isGoing = false) :
    Lined queue (calls ++ [stage]) := by
  refine ⟨h.ascending, fun {index} => ⟨fun hindex => ?_, fun ⟨other, hother, hstill⟩ => ?_⟩⟩
  · obtain ⟨other, hother, hstill⟩ := h.mem_iff.1 hindex
    exact ⟨other, (List.getElem?_append_left (h.lt_length hindex)).trans hother, hstill⟩
  · rcases stage_cases_of_append hother with hold | ⟨-, rfl⟩
    · exact h.mem_iff.2 ⟨other, hold, hstill⟩
    · rw [hover] at hstill
      contradiction

theorem nodup (h : Lined queue calls) : queue.Nodup :=
  h.ascending.imp Nat.ne_of_lt

theorem mem_erase_iff (h : Lined queue calls) {other : Nat} :
    other ∈ queue.erase index ↔ other ≠ index ∧ other ∈ queue :=
  h.nodup.mem_erase_iff

/-- A call that is over leaves the queue. -/
theorem leave (h : Lined queue calls) (hover : stage.isGoing = false) (index : Nat) :
    Lined (queue.erase index) (calls.set index stage) := by
  refine ⟨h.ascending.sublist List.erase_sublist, fun {other} => ?_⟩
  rw [h.mem_erase_iff, h.mem_iff]
  refine ⟨fun ⟨hne, old, hold, hstill⟩ => ?_, fun ⟨new, hnew, hstill⟩ => ?_⟩
  · exact ⟨old, (List.getElem?_set_ne (Ne.symm hne)).trans hold, hstill⟩
  · rcases stage_cases_of_set hnew with ⟨-, rfl⟩ | ⟨hne, hold⟩
    · rw [hover] at hstill
      contradiction
    · exact ⟨Ne.symm hne, new, hold, hstill⟩

/-- A call that goes on keeps its place. -/
theorem stay (h : Lined queue calls) (hindex : index ∈ queue) (hgoing : stage.isGoing = true) :
    Lined queue (calls.set index stage) := by
  refine ⟨h.ascending, fun {other} => ⟨fun hother => ?_, fun ⟨new, hnew, hstill⟩ => ?_⟩⟩
  · by_cases hsame : index = other
    · subst hsame
      exact ⟨stage, List.getElem?_set_self (h.lt_length hindex), hgoing⟩
    · obtain ⟨old, hold, hstill⟩ := h.mem_iff.1 hother
      exact ⟨old, (List.getElem?_set_ne hsame).trans hold, hstill⟩
  · rcases stage_cases_of_set hnew with ⟨rfl, -⟩ | ⟨-, hold⟩
    · exact hindex
    · exact h.mem_iff.2 ⟨new, hold, hstill⟩

end Lined

theorem head?_erase_of_ne {first : Nat} (hfirst : queue.head? = some first) (hne : first ≠ index) :
    (queue.erase index).head? = some first := by
  obtain ⟨rest, rfl⟩ := List.head?_eq_some_iff.1 hfirst
  simp [List.erase_cons_tail, hne]

/-! ## The connection of an exchange -/

/-- The open connection is the newest one. -/
def HasNewest (link : Link) : Prop :=
  ∀ connection, link.connection = some connection → connection + 1 = link.line.inboxes.length

/-- An exchange can be under way on a connection, if it began after as many disconnections as
`epoch` says: unless there has been another one since, the connection is the open one. -/
structure Attends (link : Link) (connection epoch : Nat) : Prop where
  existing : connection < link.line.inboxes.length
  begun : epoch ≤ link.epoch
  current : epoch = link.epoch → link.connection = some connection

/-- An exchange that a disconnection has ended fails when its call goes on. -/
theorem step_of_epoch_ne {connection epoch : Nat} {assembler : Assembler}
    (hstage : link.calls[index]? = some (.exchanging connection epoch assembler))
    (hepoch : epoch ≠ link.epoch) :
    link.step (.proceed index) = some (link.close.finish index (.error .disconnected)) := by
  simp only [step, proceed?, hstage, if_pos hepoch]

/-- An exchange that goes on takes the oldest arrival. -/
theorem takes_of_step {connection : Nat} {assembler : Assembler}
    (hstage : link.calls[index]? = some (.exchanging connection link.epoch assembler))
    (h : link.step (.proceed index) = some next) :
    ∃ arrival arrivals, link.line.inboxes[connection]? = some (arrival :: arrivals) ∧
      next = ({ link with
        line := { link.line with
          inboxes := link.line.inboxes.set connection arrivals } } : Link).take index connection
            link.epoch assembler arrival := by
  simp only [step, proceed?, hstage, ne_eq, not_true_eq_false, if_false] at h
  split at h
  · contradiction
  · rename_i arrival line hreceive
    obtain ⟨arrivals, hinbox, rfl⟩ := Line.receive_eq_some hreceive
    exact ⟨arrival, arrivals, hinbox, (Option.some.inj h).symm⟩

theorem Opens.epoch_eq {result : Except DeviceError Nat} (h : link.Opens result opened) :
    opened.epoch = link.epoch := by
  cases h <;> rfl

theorem HasNewest.opens (h : link.HasNewest) {result : Except DeviceError Nat}
    (hopen : link.Opens result opened) : opened.HasNewest := by
  intro connection hconnection
  cases hopen with
  | kept | failed => exact h connection hconnection
  | opened =>
    obtain rfl := Option.some.inj hconnection
    simp

/-- A new connection is opened only where there is none, so that no exchange loses its own. -/
theorem Attends.opens {connection epoch : Nat} (h : link.Attends connection epoch)
    {result : Except DeviceError Nat} (hopen : link.Opens result opened) :
    opened.Attends connection epoch := by
  cases hopen with
  | kept | failed => exact ⟨h.existing, h.begun, h.current⟩
  | opened hnone =>
    refine ⟨?_, h.begun, fun hsame => ?_⟩
    · simp only [List.length_append]
      exact Nat.lt_add_right _ h.existing
    · have hopen := h.current hsame
      rw [hnone] at hopen
      contradiction

/-! ## The invariant -/

/-- The calls of a link are in order, and only the first one in the queue can be at its exchange. -/
structure Coherent (link : Link) : Prop where
  lined : Lined link.queue link.calls
  newest : link.HasNewest
  reading : ∀ {index connection epoch : Nat} {assembler : Assembler},
    link.calls[index]? = some (.exchanging connection epoch assembler) →
      link.turn = some index ∧ link.Attends connection epoch

theorem coherent_of_unused (patience : Nat) : ({ patience } : Link).Coherent where
  lined := ⟨List.Pairwise.nil, by simp⟩
  newest _ h := by simp at h
  reading h := by simp at h

namespace Coherent

/-- The call whose turn it is, is the only one that can be at its exchange. -/
theorem eq_of_exchanging (h : link.Coherent) (hturn : link.turn = some index)
    {other connection epoch : Nat} {assembler : Assembler}
    (hother : link.calls[other]? = some (.exchanging connection epoch assembler)) :
    other = index :=
  Option.some.inj ((h.reading hother).1.symm.trans hturn)

theorem mem_of_turn (hturn : link.turn = some index) : index ∈ link.queue :=
  List.mem_of_head? hturn

/-- The line or the time changes, and the calls do not. -/
theorem still (h : link.Coherent) (hqueue : next.queue = link.queue)
    (hcalls : next.calls = link.calls) (hnewest : next.HasNewest)
    (hattends : ∀ {connection epoch : Nat}, link.Attends connection epoch →
      next.Attends connection epoch) : next.Coherent where
  lined := by rw [hqueue, hcalls]; exact h.lined
  newest := hnewest
  reading hstage := by
    obtain ⟨hturn, hold⟩ := h.reading (hcalls ▸ hstage)
    exact ⟨by rw [turn, hqueue]; exact hturn, hattends hold⟩

/-- A call starts and stands at the end of the queue. -/
theorem join (h : link.Coherent) (hgoing : stage.isGoing = true)
    (hwaits : ∀ connection epoch assembler, stage ≠ .exchanging connection epoch assembler) :
    (link.enqueue stage).Coherent where
  lined := h.lined.join hgoing
  newest := h.newest
  reading hstage := by
    rcases stage_cases_of_append hstage with hold | ⟨-, hnew⟩
    · obtain ⟨hturn, hattends⟩ := h.reading hold
      refine ⟨?_, hattends.existing, hattends.begun, hattends.current⟩
      simp only [turn] at hturn
      simp only [turn, enqueue, List.head?_append, hturn, Option.some_or]
    · exact absurd hnew (hwaits _ _ _)

/-- A call has failed as soon as it starts. -/
theorem answer (h : link.Coherent) (result : Except DeviceError Message) :
    (link.answer result).Coherent where
  lined := h.lined.answer rfl
  newest := h.newest
  reading hstage := by
    rcases stage_cases_of_append hstage with hold | ⟨-, hnew⟩
    · obtain ⟨hturn, hattends⟩ := h.reading hold
      exact ⟨hturn, hattends.existing, hattends.begun, hattends.current⟩
    · contradiction

/-- A call is over and leaves the queue. -/
theorem leave (h : link.Coherent) (hover : stage.isGoing = false)
    (hqueue : next.queue = link.queue.erase index)
    (hcalls : next.calls = link.calls.set index stage) (hnewest : next.HasNewest)
    (hattends : ∀ {other connection epoch : Nat} {assembler : Assembler}, other ≠ index →
      link.calls[other]? = some (.exchanging connection epoch assembler) →
        link.Attends connection epoch → next.Attends connection epoch) : next.Coherent where
  lined := by rw [hqueue, hcalls]; exact h.lined.leave hover index
  newest := hnewest
  reading hstage := by
    rw [hcalls] at hstage
    rcases stage_cases_of_set hstage with ⟨-, rfl⟩ | ⟨hne, hold⟩
    · contradiction
    · obtain ⟨hturn, hold'⟩ := h.reading hold
      exact ⟨by rw [turn, hqueue]; exact head?_erase_of_ne hturn (Ne.symm hne),
        hattends (Ne.symm hne) hold hold'⟩

/-- The call whose turn it is, is over.  No other one is at its exchange. -/
theorem leave_first (h : link.Coherent) (hturn : link.turn = some index)
    (hover : stage.isGoing = false) (hqueue : next.queue = link.queue.erase index)
    (hcalls : next.calls = link.calls.set index stage) (hnewest : next.HasNewest) :
    next.Coherent :=
  h.leave hover hqueue hcalls hnewest fun hne hother _ =>
    absurd (h.eq_of_exchanging hturn hother) hne

/-- The call whose turn it is begins its exchange, or goes on with it. -/
theorem stay (h : link.Coherent) (hturn : link.turn = some index) {connection epoch : Nat}
    {assembler : Assembler} (hqueue : next.queue = link.queue)
    (hcalls : next.calls = link.calls.set index (.exchanging connection epoch assembler))
    (hnewest : next.HasNewest) (hattends : next.Attends connection epoch) : next.Coherent where
  lined := by rw [hqueue, hcalls]; exact h.lined.stay (mem_of_turn hturn) rfl
  newest := hnewest
  reading hstage := by
    rw [hcalls] at hstage
    rcases stage_cases_of_set hstage with ⟨rfl, hnew⟩ | ⟨hne, hold⟩
    · obtain ⟨rfl, rfl, rfl⟩ := CallStage.exchanging.inj hnew
      exact ⟨by rw [turn, hqueue]; exact hturn, hattends⟩
    · exact absurd (h.eq_of_exchanging hturn hold).symm hne

theorem opens (h : link.Coherent) {result : Except DeviceError Nat}
    (hopen : link.Opens result opened) : opened.Coherent :=
  h.still hopen.queue_eq hopen.calls_eq (h.newest.opens hopen) (·.opens hopen)

theorem wrote (h : link.Coherent) (connection : Nat) (sent : List Packet)
    (writings : List (Option DeviceError)) :
    ({ link with line := link.line.wrote connection sent writings } : Link).Coherent :=
  h.still rfl rfl h.newest fun hattends => ⟨hattends.existing, hattends.begun, hattends.current⟩

/-- Every move keeps a link coherent. -/
theorem moves (h : link.Coherent) (hmoves : link.Moves event next) : next.Coherent := by
  cases hmoves with
  | call | cancel => exact h.join rfl (by simp)
  | unheard hbusy hopen => exact (h.opens (opens_of_eq hopen)).answer _
  | unsaid hbusy hopen => exact ((h.opens (opens_of_eq hopen)).wrote _ _ _).answer _
  | interrupt hbusy hopen =>
    exact ((h.opens (opens_of_eq hopen)).wrote _ _ _).join rfl (by simp)
  | drop other =>
    exact h.leave rfl (by rfl) (by rfl) h.newest fun _ _ hattends =>
      ⟨hattends.existing, hattends.begun, hattends.current⟩
  | disconnect =>
    refine h.still rfl rfl (fun _ hopen => by simp [close] at hopen) fun hattends => ?_
    refine ⟨hattends.existing, Nat.le_succ_of_le hattends.begun, fun hsame => ?_⟩
    have hbegun := hattends.begun
    simp only at hsame
    omega
  | @arrive arrivals older inbox hinboxes =>
    have hlength : link.line.inboxes.length = (older ++ [inbox ++ arrivals]).length := by
      simp [hinboxes]
    exact h.still rfl rfl (fun _ hopen => (h.newest _ hopen).trans hlength) fun hattends =>
      ⟨hlength ▸ hattends.existing, hattends.begun, hattends.current⟩
  | wait | expectOpenings | expectWritings =>
    exact h.still rfl rfl h.newest fun hattends =>
      ⟨hattends.existing, hattends.begun, hattends.current⟩
  | unreached hstage hturn hopen =>
    have hopens := opens_of_eq hopen
    have hopened := h.opens hopens
    exact hopened.leave_first (by rw [turn, hopens.queue_eq]; exact hturn) rfl (by rfl) (by rfl)
      hopened.newest
  | cut hstage hturn hopen =>
    have hopens := opens_of_eq hopen
    exact (h.opens hopens).leave_first (by rw [turn, hopens.queue_eq]; exact hturn) rfl (by rfl)
      (by rfl) fun _ hopen => by simp [close, finish] at hopen
  | ask hstage hturn hopen =>
    have hopens := opens_of_eq hopen
    have hopened := h.opens hopens
    have hepoch := hopens.epoch_eq
    refine hopened.stay (by rw [turn, hopens.queue_eq]; exact hturn) (by rfl) (by rfl)
      hopened.newest ⟨?_, Nat.le_of_eq hepoch.symm, fun _ => hopens.connection_eq⟩
    have hnewest := hopened.newest _ hopens.connection_eq
    exact Nat.lt_of_succ_le (Nat.le_of_eq hnewest)
  | read hstage hinbox =>
    obtain ⟨hturn, hattends⟩ := h.reading hstage
    exact h.stay hturn (by rfl) (by rfl)
      (fun _ hopen => (h.newest _ hopen).trans List.length_set.symm)
      ⟨Nat.lt_of_lt_of_eq hattends.existing List.length_set.symm, hattends.begun, hattends.current⟩
  | hear hstage hinbox =>
    exact h.leave_first (h.reading hstage).1 rfl (by rfl) (by rfl)
      fun _ hopen => (h.newest _ hopen).trans List.length_set.symm
  | abort hstage | fail hstage =>
    exact h.leave_first (h.reading hstage).1 rfl (by rfl) (by rfl)
      fun _ hopen => by simp [close, finish] at hopen
  | yield hstage hturn =>
    exact h.leave_first hturn rfl (by rfl) (by rfl) h.newest
  | giveUp hstage =>
    exact h.leave rfl (by rfl) (by rfl) h.newest fun _ _ hattends =>
      ⟨hattends.existing, hattends.begun, hattends.current⟩

theorem run {events : List LinkEvent} {last : Link} (h : link.Coherent)
    (hrun : link.run events = some last) : last.Coherent :=
  run_induction Coherent hrun h fun hlink hmoves => hlink.moves hmoves

end Coherent

end Link

end WalletGateway
