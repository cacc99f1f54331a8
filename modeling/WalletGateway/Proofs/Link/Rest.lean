import WalletGateway.Proofs.Link.Queue

/-!
# Links at rest

A link is at rest when no call can go on.  The first call in the queue is at its exchange then, on
the open connection, and has read everything that has arrived (`AtRest.first_stands`).

* `Leads`: what an event leads to when calls go on, in any order, until all of them wait.  Settling
  is one such order (`leads_of_after?`).
* `Course`: one event after the other, each of them when the link is at rest.
* What a move leaves alone: the stages of the other calls (`Moves.stage_eq`), the results of calls
  (`Moves.over_eq`), the order of the queue (`Moves.mem_queue`) and the time (`Moves.now_eq`).
* `Stands`: an exchange with nothing to read.  It goes on neither by itself nor by what other calls
  do (`Stands.proceeds`).
-/

namespace WalletGateway.Link

variable {link next last : Link} {event : LinkEvent} {index : Nat} {stage : CallStage}

/-! ## What a move leaves alone -/

/-- A call stays where it is, unless it goes on itself or is dropped. -/
theorem Moves.stage_eq (h : link.Moves event next) (hstage : link.calls[index]? = some stage)
    (hproceed : event ≠ .proceed index) (hdrop : event ≠ .drop index) :
    next.calls[index]? = some stage := by
  have hlt := (List.getElem?_eq_some_iff.1 hstage).1
  have hadded : ∀ {calls : List CallStage} {new : CallStage}, calls = link.calls →
      (calls ++ [new])[index]? = some stage := by
    rintro calls new rfl
    exact (List.getElem?_append_left hlt).trans hstage
  have hother : ∀ {calls : List CallStage} {other : Nat} {new : CallStage}, calls = link.calls →
      other ≠ index → (calls.set other new)[index]? = some stage := by
    rintro calls other new rfl hne
    exact (List.getElem?_set_ne hne).trans hstage
  cases h with
  | call | cancel => exact hadded rfl
  | unheard hbusy hopen | unsaid hbusy hopen | interrupt hbusy hopen =>
    exact hadded (opens_of_eq hopen).calls_eq
  | disconnect | arrive | wait | expectOpenings | expectWritings => exact hstage
  | drop other => exact hother rfl fun hsame => hdrop (hsame ▸ rfl)
  | unreached _ _ hopen | cut _ _ hopen | ask _ _ hopen =>
    exact hother (opens_of_eq hopen).calls_eq fun hsame => hproceed (hsame ▸ rfl)
  | abort | read | hear | fail | yield | giveUp =>
    exact hother rfl fun hsame => hproceed (hsame ▸ rfl)

/-- Only calls that are not over go on. -/
theorem Moves.going (h : link.Moves (.proceed index) next)
    (hstage : link.calls[index]? = some stage) : stage.isGoing = true := by
  cases h with
  | unreached hgoing | cut hgoing | ask hgoing | abort hgoing | read hgoing | hear hgoing
  | fail hgoing | yield hgoing | giveUp hgoing =>
    obtain rfl := Option.some.inj (hgoing.symm.trans hstage)
    rfl

/-- A call that is over keeps its result. -/
theorem Moves.over_eq (h : link.Moves event next) (hlink : link.Coherent)
    (hstage : link.calls[index]? = some stage) (hover : stage.isGoing = false) :
    next.calls[index]? = some stage := by
  refine h.stage_eq hstage ?_ ?_
  · rintro rfl
    rw [h.going hstage] at hover
    contradiction
  · rintro rfl
    cases h with
    | drop _ hindex =>
      obtain ⟨other, hother, hgoing⟩ := hlink.lined.mem_iff.1 hindex
      obtain rfl := Option.some.inj (hother.symm.trans hstage)
      rw [hgoing] at hover
      contradiction

theorem Moves.length_le (h : link.Moves event next) : link.calls.length ≤ next.calls.length := by
  rcases h.calls_cases with hsame | ⟨_, hadded, -⟩ | ⟨_, _, hset, -⟩
  · simp [hsame]
  · simp [hadded]
  · simp [hset]

/-- Calls enter the queue when they start, and at no other time. -/
theorem Moves.mem_queue (h : link.Moves event next) (hlt : index < link.calls.length)
    (hindex : index ∈ next.queue) : index ∈ link.queue := by
  have hnew : ∀ {queue : List Nat} {count : Nat}, queue = link.queue → count = link.calls.length →
      index ∈ queue ++ [count] → index ∈ link.queue := by
    rintro queue count rfl rfl hmem
    rcases List.mem_append.1 hmem with hold | hlast
    · exact hold
    · have := List.mem_singleton.1 hlast
      omega
  cases h with
  | call | cancel => exact hnew rfl rfl hindex
  | unheard hbusy hopen | unsaid hbusy hopen => exact (opens_of_eq hopen).queue_eq ▸ hindex
  | interrupt hbusy hopen =>
    have hopens := opens_of_eq hopen
    exact hnew hopens.queue_eq (congrArg List.length hopens.calls_eq) hindex
  | disconnect | arrive | wait | expectOpenings | expectWritings | read => exact hindex
  | drop | abort | hear | fail | yield | giveUp => exact List.mem_of_mem_erase hindex
  | unreached _ _ hopen | cut _ _ hopen =>
    exact (opens_of_eq hopen).queue_eq ▸ List.mem_of_mem_erase hindex
  | ask _ _ hopen => exact (opens_of_eq hopen).queue_eq ▸ hindex

theorem Opens.now_eq {opened : Link} {result : Except DeviceError Nat}
    (h : link.Opens result opened) : opened.now = link.now := by
  cases h <;> rfl

/-- Time passes by itself, and nothing else takes time. -/
theorem Moves.now_eq (h : link.Moves event next) :
    next.now = link.now ∨ ∃ milliseconds, event = .wait milliseconds ∧
      next = { link with now := link.now + milliseconds } := by
  cases h with
  | wait milliseconds => exact Or.inr ⟨milliseconds, rfl, rfl⟩
  | unheard _ hopen | unsaid _ hopen | interrupt _ hopen | unreached _ _ hopen | cut _ _ hopen
  | ask _ _ hopen => exact Or.inl (opens_of_eq hopen).now_eq
  | call | cancel | drop | disconnect | arrive | expectOpenings | expectWritings | abort | read
  | hear | fail | yield | giveUp => exact Or.inl rfl

/-! ## Rest -/

/-- No call can go on. -/
def AtRest (link : Link) : Prop :=
  ∀ index, link.proceed? index = none

theorem atRest_iff : link.AtRest ↔ link.advance? = none := by
  rw [advance?, List.findSome?_eq_none_iff]
  refine ⟨fun h index _ => h index, fun h index => ?_⟩
  by_cases hlt : index < link.calls.length
  · exact h index (List.mem_range.2 hlt)
  · simp [proceed?, List.getElem?_eq_none (Nat.not_lt.1 hlt)]

instance (link : Link) : Decidable link.AtRest :=
  decidable_of_iff (link.advance?.isNone = true) (by rw [Option.isNone_iff_eq_none, atRest_iff])

theorem atRest_settle (link : Link) : link.settle.AtRest := by
  fun_induction settle link with
  | case1 link hnone => exact atRest_iff.2 hnone
  | case2 link next hnext ih => exact ih

/-- A cancellation that waits has patience left. -/
theorem AtRest.lt_deadline (h : link.AtRest) {deadline : Nat}
    (hstage : link.calls[index]? = some (.yielding deadline)) : link.now < deadline := by
  have hwaits := h index
  simp only [proceed?, hstage] at hwaits
  refine Nat.lt_of_not_le fun hle => ?_
  split at hwaits <;> contradiction

/-- A call is at its exchange on the open connection, and there is nothing to read. -/
structure Stands (link : Link) (index connection : Nat) : Prop where
  first : link.turn = some index
  reading : ∃ assembler,
    link.calls[index]? = some (.exchanging connection link.epoch assembler)
  opened : link.connection = some connection
  read : link.line.inboxes[connection]? = some []

/-- Where all calls wait, the first of them is at its exchange. -/
theorem AtRest.first_stands (h : link.AtRest) (hlink : link.Coherent)
    (hturn : link.turn = some index) : ∃ connection, link.Stands index connection := by
  obtain ⟨stage, hstage, hgoing⟩ := hlink.lined.mem_iff.1 (Coherent.mem_of_turn hturn)
  have hwaits := h index
  cases stage with
  | ended | dropped => contradiction
  | queued | yielding =>
    simp only [proceed?, hstage, if_pos hturn] at hwaits
    contradiction
  | exchanging connection epoch assembler =>
    have hattends := (hlink.reading hstage).2
    simp only [proceed?, hstage] at hwaits
    split at hwaits
    · contradiction
    · rename_i hepoch
      obtain rfl := Decidable.not_not.1 hepoch
      refine ⟨connection, hturn, ⟨assembler, hstage⟩, hattends.current rfl, ?_⟩
      cases hinbox : link.line.inboxes[connection]? with
      | none => exact absurd hattends.existing (Nat.not_lt.2 (List.getElem?_eq_none_iff.1 hinbox))
      | some inbox =>
        cases inbox with
        | nil => rfl
        | cons arrival arrivals =>
          simp only [Line.receive, hinbox] at hwaits
          contradiction

/-- Where all calls wait, an exchange that is under way belongs to the first of them. -/
theorem AtRest.stands_of_exchanging (h : link.AtRest) (hlink : link.Coherent)
    {connection epoch : Nat} {assembler : Assembler}
    (hstage : link.calls[index]? = some (.exchanging connection epoch assembler)) :
    link.Stands index connection ∧ epoch = link.epoch := by
  obtain ⟨other, hstands⟩ := h.first_stands hlink (hlink.reading hstage).1
  obtain ⟨assembler', hother⟩ := hstands.reading
  obtain ⟨rfl, rfl, -⟩ := CallStage.exchanging.inj (Option.some.inj (hstage.symm.trans hother))
  exact ⟨hstands, rfl⟩

/-- A cancellation of an exchange that waits goes to the connection of that exchange. -/
theorem Stands.cancel_cases {connection : Nat} (h : link.Stands index connection) :
    ∃ (sent : List Packet) (writings : List (Option DeviceError)),
      sent <+: DeviceRequest.cancel.message.packets ∧
      ((sent = DeviceRequest.cancel.message.packets ∧
          link.cancel = ({ link with line := link.line.wrote connection sent writings } :
            Link).enqueue (.yielding (link.now + link.patience))) ∨
        ∃ error, sent ≠ DeviceRequest.cancel.message.packets ∧
          link.cancel = ({ link with line := link.line.wrote connection sent writings } :
            Link).answer (.error error)) := by
  have hopen : link.open? = (.ok connection, link) := by simp only [open?, h.opened]
  have hbusy : link.queue.isEmpty = false := by
    simpa using List.ne_nil_of_mem (Coherent.mem_of_turn h.first)
  obtain ⟨sent, writings, hsent, ⟨hwhole, hwrite⟩ | ⟨error, hcut, hwrite⟩⟩ :=
    link.line.write_cases connection DeviceRequest.cancel.message.packets
  · refine ⟨sent, writings, hsent, Or.inl ⟨hwhole, ?_⟩⟩
    simp only [cancel, hbusy, hopen, hwrite, Bool.false_eq_true, if_false]
  · refine ⟨sent, writings, hsent, Or.inr ⟨error, hcut, ?_⟩⟩
    simp only [cancel, hbusy, hopen, hwrite, Bool.false_eq_true, if_false]

theorem Stands.cancel {connection : Nat} (h : link.Stands index connection) :
    link.cancel.Stands index connection := by
  obtain ⟨hfirst, ⟨assembler, hreading⟩, hopened, hread⟩ := h
  have hlt := (List.getElem?_eq_some_iff.1 hreading).1
  have hstill : ∀ new : CallStage, (link.calls ++ [new])[index]?
      = some (.exchanging connection link.epoch assembler) :=
    fun _ => (List.getElem?_append_left hlt).trans hreading
  obtain ⟨sent, writings, -, ⟨-, hcancel⟩ | ⟨error, -, hcancel⟩⟩ :=
    Stands.cancel_cases ⟨hfirst, ⟨assembler, hreading⟩, hopened, hread⟩
  · rw [hcancel]
    refine ⟨?_, ⟨assembler, hstill _⟩, hopened, hread⟩
    simp only [turn] at hfirst
    simp only [turn, enqueue, List.head?_append, hfirst, Option.some_or]
  · rw [hcancel]
    exact ⟨hfirst, ⟨assembler, hstill _⟩, hopened, hread⟩

/-! ## What events lead to -/

/-- After an event, calls go on in some order until all of them wait. -/
def Leads (link : Link) (event : LinkEvent) (next : Link) : Prop :=
  ∃ order : List Nat, link.run (event :: order.map .proceed) = some next ∧ next.AtRest

theorem exists_run_settle (link : Link) :
    ∃ order : List Nat, link.run (order.map .proceed) = some link.settle := by
  fun_induction settle link with
  | case1 link hnone => exact ⟨[], rfl⟩
  | case2 link next hnext ih =>
    obtain ⟨index, -, hindex⟩ := List.exists_of_findSome?_eq_some hnext
    obtain ⟨order, horder⟩ := ih
    refine ⟨index :: order, ?_⟩
    simp only [List.map_cons, run, step, hindex, Option.bind_some, horder]

/-- Settling lets the calls go on in one of the possible orders. -/
theorem leads_of_after? (h : link.after? event = some next) : link.Leads event next := by
  obtain ⟨middle, hmiddle, rfl⟩ := Option.map_eq_some_iff.1 h
  obtain ⟨order, horder⟩ := exists_run_settle middle
  exact ⟨order, by simp only [run, hmiddle, Option.bind_some, horder], atRest_settle middle⟩

/-- What an event does, and then a run in which calls go on. -/
theorem Leads.moves (h : link.Leads event next) :
    ∃ (middle : Link) (order : List Nat), link.step event = some middle ∧
      middle.run (order.map .proceed) = some next ∧ next.AtRest := by
  obtain ⟨order, hrun, hrest⟩ := h
  obtain ⟨middle, hmiddle, horder⟩ := Option.bind_eq_some_iff.1 hrun
  exact ⟨middle, order, hmiddle, horder, hrest⟩

/-- What holds at the start and is kept whenever a call goes on holds when calls have gone on. -/
theorem proceeds_induction (property : Link → Prop) {order : List Nat}
    (hrun : link.run (order.map .proceed) = some last) (hlink : property link)
    (hmoves : ∀ {link next : Link} {index : Nat}, property link →
      link.Moves (.proceed index) next → property next) : property last := by
  induction order generalizing link with
  | nil => exact Option.some.inj hrun ▸ hlink
  | cons index order ih =>
    obtain ⟨next, hnext, hrest⟩ := Option.bind_eq_some_iff.1 hrun
    exact ih hrest (hmoves hlink (moves_of_step hnext))

theorem Coherent.leads (h : link.Coherent) (hleads : link.Leads event next) : next.Coherent := by
  obtain ⟨order, hrun, -⟩ := hleads
  exact h.run hrun

/-- One event after the other, each of them when all calls wait. -/
inductive Course (link : Link) : List LinkEvent → Link → Prop where
  | start : Course link [] link
  | event {events : List LinkEvent} {middle next : Link} {event : LinkEvent}
      (hcourse : Course link events middle) (hleads : middle.Leads event next) :
      Course link (events ++ [event]) next

/-- An exchange with nothing to read stays as it is when other calls go on. -/
theorem Stands.proceeds {connection : Nat} (h : link.Stands index connection)
    (hlink : link.Coherent) {order : List Nat}
    (hrun : link.run (order.map .proceed) = some last) : last.Stands index connection := by
  refine (proceeds_induction (fun other => other.Coherent ∧ other.Stands index connection) hrun
    ⟨hlink, h⟩ ?_).2
  rintro link next other ⟨hlink, hstands⟩ hmoves
  refine ⟨hlink.moves hmoves, ?_⟩
  obtain ⟨hfirst, ⟨assembler, hreading⟩, hopened, hread⟩ := hstands
  have hself : ∀ {other connection epoch : Nat} {assembler : Assembler},
      link.calls[other]? = some (.exchanging connection epoch assembler) → other = index :=
    hlink.eq_of_exchanging hfirst
  have hturn : ∀ {other : Nat}, link.turn = some other → other = index :=
    fun hother => Option.some.inj (hother.symm.trans hfirst)
  cases hmoves with
  | unreached hstage hother | cut hstage hother | ask hstage hother | yield hstage hother =>
    obtain rfl := hturn hother
    rw [hreading] at hstage
    simp at hstage
  | abort hstage hepoch =>
    obtain rfl := hself hstage
    obtain ⟨-, rfl, -⟩ := CallStage.exchanging.inj (Option.some.inj (hstage.symm.trans hreading))
    contradiction
  | read hstage hinbox | hear hstage hinbox | fail hstage hinbox =>
    obtain rfl := hself hstage
    obtain ⟨rfl, -, -⟩ := CallStage.exchanging.inj (Option.some.inj (hstage.symm.trans hreading))
    rw [hread] at hinbox
    simp at hinbox
  | giveUp hstage =>
    have hne : other ≠ index := by
      rintro rfl
      rw [hreading] at hstage
      simp at hstage
    exact ⟨head?_erase_of_ne hfirst (Ne.symm hne),
      ⟨assembler, (List.getElem?_set_ne hne).trans hreading⟩, hopened, hread⟩

end WalletGateway.Link
