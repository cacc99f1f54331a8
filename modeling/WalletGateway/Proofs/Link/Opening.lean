import WalletGateway.Proofs.Link.Chronicle
import WalletGateway.Proofs.Link.Queue

/-!
# Attempts to open a connection

A link tries to open a connection when there is none and a call needs one, and at no other time.

* `asker?`: the call for which an event needs a connection.
* `Moves.asks` and `Moves.asks_nothing`: what an event does to the connections that were opened.
* `Begins`: the ways in which the exchange of a call can begin, each with its cause.
* `Moves.exchanging_cases`: an exchange is under way because it has begun, and in no other way.
-/

namespace WalletGateway

namespace Line

/-- A write fails as it was settled. -/
theorem mem_writings_of_write {line next : Line} {connection : Nat} {packets : List Packet}
    {error : DeviceError} (h : line.write connection packets = (some error, next)) :
    some error ∈ line.writings := by
  induction packets generalizing line with
  | nil => simp [write] at h
  | cons packet packets ih =>
    simp only [write] at h
    split at h
    · rename_i settled hnext
      obtain ⟨rfl, -⟩ := Option.some.inj (Prod.mk.inj h).1
      exact List.mem_of_head? (Option.join_eq_some_iff.1 hnext)
    · exact List.mem_of_mem_tail (ih h)

/-- Whether writing fails or not, it takes away from what was settled and nothing else. -/
theorem write_keeps {line next : Line} {connection : Nat} {packets : List Packet}
    {outcome : Option DeviceError} (h : line.write connection packets = (outcome, next)) :
    next.inboxes = line.inboxes ∧ next.openings = line.openings ∧
      next.attempts = line.attempts ∧ next.writings <:+ line.writings := by
  induction packets generalizing line with
  | nil =>
    obtain ⟨-, rfl⟩ := Prod.mk.inj h
    exact ⟨rfl, rfl, rfl, List.suffix_rfl⟩
  | cons packet packets ih =>
    simp only [write] at h
    split at h
    · obtain ⟨-, rfl⟩ := Prod.mk.inj h
      exact ⟨rfl, rfl, rfl, List.tail_suffix _⟩
    · obtain ⟨hinboxes, hopenings, hattempts, hwritings⟩ := ih h
      exact ⟨hinboxes, hopenings, hattempts, hwritings.trans (List.tail_suffix _)⟩

end Line

namespace Link

variable {link next opened : Link} {event : LinkEvent} {index : Nat} {error : DeviceError}

/-! ## One attempt -/

theorem open?_of_open {connection : Nat} (h : link.connection = some connection) :
    link.open? = (.ok connection, link) := by
  simp only [open?, h]

/-- An attempt that is settled to fail leaves no connection open. -/
theorem open?_of_error (hnone : link.connection = none)
    (hnext : link.line.openings.head?.join = some error) :
    link.open? = (.error error, { link with
      line := { link.line with
        attempts := link.line.attempts + 1, openings := link.line.openings.tail } }) := by
  simp only [open?, hnone, Line.connect, hnext]

theorem open?_of_none (hnone : link.connection = none)
    (hnext : link.line.openings.head?.join = none) :
    link.open? = (.ok link.line.inboxes.length, { link with
      line := { link.line with
        attempts := link.line.attempts + 1
        openings := link.line.openings.tail
        inboxes := link.line.inboxes ++ [[]] }
      connection := some link.line.inboxes.length }) := by
  simp only [open?, hnone, Line.connect, hnext]

/-- Having an open connection takes away from what was settled for the line, and nothing else. -/
theorem open?_keeps_line {result : Except DeviceError Nat} (h : link.open? = (result, opened)) :
    opened.line.writings = link.line.writings ∧ opened.line.openings <:+ link.line.openings := by
  cases hconnection : link.connection with
  | some connection =>
    obtain ⟨-, rfl⟩ := Prod.mk.inj ((open?_of_open hconnection).symm.trans h)
    exact ⟨rfl, List.suffix_rfl⟩
  | none =>
    cases hnext : link.line.openings.head?.join with
    | some error =>
      obtain ⟨-, rfl⟩ := Prod.mk.inj ((open?_of_error hconnection hnext).symm.trans h)
      exact ⟨rfl, List.tail_suffix _⟩
    | none =>
      obtain ⟨-, rfl⟩ := Prod.mk.inj ((open?_of_none hconnection hnext).symm.trans h)
      exact ⟨rfl, List.tail_suffix _⟩

theorem mem_openings_of_open? (h : link.open? = (.error error, opened)) :
    some error ∈ link.line.openings := by
  cases hconnection : link.connection with
  | some connection =>
    have hopen := (open?_of_open hconnection).symm.trans h
    simp at hopen
  | none =>
    cases hnext : link.line.openings.head?.join with
    | some settled =>
      have hopen := (open?_of_error hconnection hnext).symm.trans h
      obtain rfl := Except.error.inj (Prod.mk.inj hopen).1
      exact List.mem_of_head? (Option.join_eq_some_iff.1 hnext)
    | none =>
      have hopen := (open?_of_none hconnection hnext).symm.trans h
      simp at hopen

/-! ## The calls that need a connection -/

/-- The call for which an event needs a connection: one that begins its exchange, or a cancellation
that goes past the queue. -/
def asker? (link : Link) : LinkEvent → Option Nat
  | .proceed index =>
    match link.calls[index]? with
    | some (.queued _) => if link.turn = some index then some index else none
    | _ => none
  | .cancel => if link.queue.isEmpty then none else some link.calls.length
  | _ => none

/-- A call that needs a connection takes the open one or tries to open one.  If that fails, the call
has failed with the same error. -/
theorem Moves.asks (h : link.Moves event next) (hasker : link.asker? event = some index) :
    next.line.attempts = link.open?.2.line.attempts ∧
      next.line.inboxes = link.open?.2.line.inboxes ∧
      ∀ error, link.open?.1 = .error error →
        next.connection = link.open?.2.connection ∧
          next.calls[index]? = some (.ended (.error error)) := by
  cases h with
  | @unheard hbusy error opened hopen =>
    obtain rfl : link.calls.length = index := by simpa [asker?, hbusy] using hasker
    rw [hopen]
    refine ⟨rfl, rfl, fun other hsame => ⟨rfl, ?_⟩⟩
    obtain rfl := Except.error.inj hsame
    simp only [answer, (opens_of_eq hopen).calls_eq]
    exact List.getElem?_concat_length
  | unsaid hbusy hopen | interrupt hbusy hopen | cut _ _ hopen | ask _ _ hopen =>
    rw [hopen]
    exact ⟨rfl, rfl, fun other hsame => nomatch hsame⟩
  | @unreached other request error opened hstage hturn hopen =>
    obtain rfl : other = index := by simpa [asker?, hstage, hturn] using hasker
    rw [hopen]
    refine ⟨rfl, rfl, fun error hsame => ⟨rfl, ?_⟩⟩
    obtain rfl := Except.error.inj hsame
    refine List.getElem?_set_self ?_
    rw [(opens_of_eq hopen).calls_eq]
    exact (List.getElem?_eq_some_iff.1 hstage).1
  | cancel hidle => simp [asker?, hidle] at hasker
  | abort hstage | read hstage | hear hstage | fail hstage | yield hstage | giveUp hstage =>
    simp [asker?, hstage] at hasker
  | call | drop | disconnect | arrive | wait | expectOpenings | expectWritings => contradiction

/-! ## The beginning of an exchange -/

/-- The ways in which the exchange of a call can begin. -/
inductive Begins (link : Link) (index : Nat) (request : Message) : Link → Prop where
  /-- There is no connection and none can be opened. -/
  | unreached {error : DeviceError} {opened : Link} (hopen : link.open? = (.error error, opened)) :
      Begins link index request (opened.finish index (.error error))
  /-- The request cannot be written. -/
  | cut {connection : Nat} {error : DeviceError} {opened : Link} {line : Line}
      (hopen : link.open? = (.ok connection, opened))
      (hwrite : opened.line.write connection request.packets = (some error, line)) :
      Begins link index request
        (({ opened with line } : Link).close.finish index (.error error))
  | ask {connection : Nat} {opened : Link} {line : Line}
      (hopen : link.open? = (.ok connection, opened))
      (hwrite : opened.line.write connection request.packets = (none, line)) :
      Begins link index request
        (({ opened with line } : Link).stay index (.exchanging connection opened.epoch .empty))

/-- A call that waits goes on when it has its turn, by beginning its exchange. -/
theorem begins_of_step {request : Message} (hstage : link.calls[index]? = some (.queued request))
    (h : link.step (.proceed index) = some next) :
    link.turn = some index ∧ link.Begins index request next := by
  simp only [step, proceed?, hstage] at h
  split at h
  · rename_i hturn
    obtain rfl := Option.some.inj h
    refine ⟨hturn, ?_⟩
    unfold exchange
    split
    · rename_i error opened hopen
      exact .unreached hopen
    · rename_i connection opened hopen
      split
      · rename_i error line hwrite
        exact .cut hopen hwrite
      · rename_i line hwrite
        exact .ask hopen hwrite
  · contradiction

theorem begins?_eq_some {connection : Nat}
    (h : link.begins? event = some (connection, index)) :
    event = .proceed index ∧ (∃ request, link.calls[index]? = some (.queued request)) ∧
      link.open?.1 = .ok connection := by
  cases event with
  | proceed other =>
    simp only [begins?] at h
    split at h
    · rename_i request opened hstage hopen
      obtain ⟨rfl, rfl⟩ := Prod.mk.inj (Option.some.inj h)
      exact ⟨rfl, ⟨request, hstage⟩, hopen⟩
    · contradiction
  | call | cancel | drop | disconnect | arrive | wait | expectOpenings | expectWritings =>
    contradiction

/-- An exchange that is under way has been so before, or it begins. -/
theorem Moves.exchanging_cases (h : link.Moves event next) {connection epoch : Nat}
    {assembler : Assembler}
    (hstage : next.calls[index]? = some (.exchanging connection epoch assembler)) :
    (∃ before, link.calls[index]? = some (.exchanging connection epoch before)) ∨
      link.begins? event = some (connection, index) ∧ epoch = link.epoch := by
  have hadded : ∀ {calls : List CallStage} {new : CallStage}, calls = link.calls →
      (∀ connection epoch assembler, new ≠ .exchanging connection epoch assembler) →
      (calls ++ [new])[index]? = some (.exchanging connection epoch assembler) →
      ∃ before, link.calls[index]? = some (.exchanging connection epoch before) := by
    rintro calls new rfl hnew hset
    rcases stage_cases_of_append hset with hold | ⟨-, hsame⟩
    · exact ⟨assembler, hold⟩
    · exact absurd hsame (hnew _ _ _)
  have hset : ∀ {calls : List CallStage} {other : Nat} {new : CallStage}, calls = link.calls →
      (∀ connection epoch assembler, new ≠ .exchanging connection epoch assembler) →
      (calls.set other new)[index]? = some (.exchanging connection epoch assembler) →
      ∃ before, link.calls[index]? = some (.exchanging connection epoch before) := by
    rintro calls other new rfl hnew hset
    rcases stage_cases_of_set hset with ⟨-, hsame⟩ | ⟨-, hold⟩
    · exact absurd hsame (hnew _ _ _)
    · exact ⟨assembler, hold⟩
  cases h with
  | call | cancel => exact Or.inl (hadded rfl (by simp) hstage)
  | unheard _ hopen | unsaid _ hopen | interrupt _ hopen =>
    exact Or.inl (hadded (opens_of_eq hopen).calls_eq (by simp) hstage)
  | disconnect | arrive | wait | expectOpenings | expectWritings => exact Or.inl ⟨_, hstage⟩
  | drop | abort | hear | fail | yield | giveUp => exact Or.inl (hset rfl (by simp) hstage)
  | unreached _ _ hopen | cut _ _ hopen =>
    exact Or.inl (hset (opens_of_eq hopen).calls_eq (by simp) hstage)
  | ask hqueued _ hopen =>
    simp only [stay, (opens_of_eq hopen).calls_eq] at hstage
    rcases stage_cases_of_set hstage with ⟨rfl, hnew⟩ | ⟨-, hold⟩
    · obtain ⟨rfl, rfl, -⟩ := CallStage.exchanging.inj hnew
      exact Or.inr ⟨by simp only [begins?, hqueued, hopen], rfl⟩
    · exact Or.inl ⟨_, hold⟩
  | read hreading =>
    rcases stage_cases_of_set hstage with ⟨rfl, hnew⟩ | ⟨-, hold⟩
    · obtain ⟨rfl, rfl, -⟩ := CallStage.exchanging.inj hnew
      exact Or.inl ⟨_, hreading⟩
    · exact Or.inl ⟨_, hold⟩

end Link

end WalletGateway
