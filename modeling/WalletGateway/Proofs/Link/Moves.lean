import WalletGateway.Link.Basic

/-!
# The moves of a link

Everything that an event can do to a link, on a line on which anything may fail.

* `Line.write_cases`: a message is written whole, or it is cut off at a failure.
* `Link.Opens`: the open connection is used, or a new one is opened, or the attempt fails.
* `Link.Moves`: one constructor for each way in which a call or the line goes on, with what is known
  of the link then; `Link.moves_of_step` says that there are no others.
-/

namespace WalletGateway

/-- The message that an event asks to write. -/
def LinkEvent.message? : LinkEvent → Option Message
  | .call request => some request
  | .cancel => some DeviceRequest.cancel.message
  | _ => none

/-- What stands under a key, in order. -/
def entriesAt {γ : Type} (list : List (Nat × γ)) (key : Nat) : List γ :=
  list.filterMap fun (other, entry) => if other = key then some entry else none

section Entries

variable {γ : Type} {key other : Nat}

@[simp] theorem entriesAt_nil : entriesAt ([] : List (Nat × γ)) key = [] := rfl

@[simp] theorem entriesAt_append (first second : List (Nat × γ)) :
    entriesAt (first ++ second) key = entriesAt first key ++ entriesAt second key :=
  List.filterMap_append

theorem entriesAt_map_self (entries : List γ) :
    entriesAt (entries.map fun entry => (key, entry)) key = entries := by
  rw [entriesAt, List.filterMap_map]
  show (entries.filterMap fun entry => if key = key then some entry else none) = entries
  simp

theorem entriesAt_map_of_ne (h : other ≠ key) (entries : List γ) :
    entriesAt (entries.map fun entry => (other, entry)) key = [] := by
  rw [entriesAt, List.filterMap_map]
  show (entries.filterMap fun entry => if other = key then some entry else none) = []
  simp [h]

theorem entriesAt_map (entries : List γ) :
    entriesAt (entries.map fun entry => (other, entry)) key
      = if key = other then entries else [] := by
  split
  · rename_i hsame
    exact hsame ▸ entriesAt_map_self entries
  · rename_i hne
    exact entriesAt_map_of_ne (Ne.symm hne) entries

theorem entriesAt_concat (list : List (Nat × γ)) (entry : γ) :
    entriesAt (list ++ [(other, entry)]) key
      = entriesAt list key ++ if key = other then [entry] else [] := by
  rw [entriesAt_append]
  exact congrArg (entriesAt list key ++ ·) (entriesAt_map [entry])

theorem entriesAt_eq_nil {list : List (Nat × γ)} (h : ∀ entry, (key, entry) ∉ list) :
    entriesAt list key = [] := by
  refine List.eq_nil_iff_forall_not_mem.2 fun entry hentry => h entry ?_
  simpa [entriesAt, List.mem_filterMap] using hentry

theorem entriesAt_sublist (list : List (Nat × γ)) (key : Nat) :
    (entriesAt list key).Sublist (list.map Prod.snd) := by
  have hfilter : entriesAt list key = (list.filter fun entry => entry.1 = key).map Prod.snd := by
    induction list with
    | nil => rfl
    | cons entry list ih =>
      by_cases hkey : entry.1 = key
      · simpa [entriesAt, hkey] using ih
      · simpa [entriesAt, hkey] using ih
  rw [hfilter]
  exact List.filter_sublist.map _

theorem mem_entriesAt {list : List (Nat × γ)} {entry : γ} :
    entry ∈ entriesAt list key ↔ (key, entry) ∈ list := by
  simp [entriesAt, List.mem_filterMap]

end Entries

/-! ## The line -/

namespace Line

/-- The line after packets have been written. -/
def wrote (line : Line) (connection : Nat) (packets : List Packet)
    (writings : List (Option DeviceError)) : Line :=
  { line with
    writings
    written := (packets.map fun packet => (connection, packet)).reverse ++ line.written }

/-- A message is written whole, or it is cut off at a failure. -/
theorem write_cases (line : Line) (connection : Nat) (packets : List Packet) :
    ∃ sent writings, sent <+: packets ∧
      ((sent = packets ∧ line.write connection packets
          = (none, line.wrote connection sent writings)) ∨
        ∃ error, sent ≠ packets ∧ line.write connection packets
          = (some error, line.wrote connection sent writings)) := by
  induction packets generalizing line with
  | nil => exact ⟨[], line.writings, List.prefix_rfl, Or.inl ⟨rfl, rfl⟩⟩
  | cons packet packets ih =>
    cases hnext : line.writings.head?.join with
    | some error =>
      refine ⟨[], line.writings.tail, List.nil_prefix, Or.inr ⟨error, by simp, ?_⟩⟩
      simp only [write, hnext]
      rfl
    | none =>
      obtain ⟨sent, writings, hsent, hwrite⟩ := ih { line with
        writings := line.writings.tail, written := (connection, packet) :: line.written }
      have hwrote : wrote { line with
            writings := line.writings.tail, written := (connection, packet) :: line.written }
              connection sent writings
          = line.wrote connection (packet :: sent) writings := by
        simp [wrote]
      rw [hwrote] at hwrite
      refine ⟨packet :: sent, writings, List.cons_prefix_cons.2 ⟨rfl, hsent⟩, ?_⟩
      simp only [write, hnext]
      rcases hwrite with ⟨rfl, hwrite⟩ | ⟨error, hcut, hwrite⟩
      · exact Or.inl ⟨rfl, hwrite⟩
      · exact Or.inr ⟨error, fun hsame => hcut (List.cons.inj hsame).2, hwrite⟩

theorem connect_cases (line : Line) :
    (∃ error, line.connect = (.error error, { line with
        attempts := line.attempts + 1, openings := line.openings.tail })) ∨
      line.connect = (.ok line.inboxes.length, { line with
        attempts := line.attempts + 1
        openings := line.openings.tail
        inboxes := line.inboxes ++ [[]] }) := by
  unfold connect
  split
  · rename_i error hnext
    exact Or.inl ⟨error, rfl⟩
  · exact Or.inr rfl

theorem receive_eq_some {line next : Line} {connection : Nat} {arrival : Arrival}
    (h : line.receive connection = some (arrival, next)) :
    ∃ arrivals, line.inboxes[connection]? = some (arrival :: arrivals) ∧
      next = { line with inboxes := line.inboxes.set connection arrivals } := by
  unfold receive at h
  split at h
  · rename_i first arrivals hinbox
    obtain ⟨rfl, rfl⟩ := Prod.mk.inj (Option.some.inj h)
    exact ⟨arrivals, hinbox, rfl⟩
  · contradiction

theorem arrive_eq_some {line next : Line} {arrivals : List Arrival}
    (h : line.arrive arrivals = some next) :
    ∃ older inbox, line.inboxes = older ++ [inbox] ∧
      next = { line with inboxes := older ++ [inbox ++ arrivals] } := by
  unfold arrive at h
  split at h
  · contradiction
  · rename_i inbox hnewest
    obtain ⟨older, holder⟩ := List.getLast?_eq_some_iff.1 hnewest
    refine ⟨older, inbox, holder, ?_⟩
    rw [← Option.some.inj h, holder, List.dropLast_concat]

end Line

namespace Link

/-! ## Calls -/

/-- A call after a change of stage: it is the one that changed, or another one as before. -/
theorem stage_cases_of_set {calls : List CallStage} {index other : Nat} {new stage : CallStage}
    (h : (calls.set index new)[other]? = some stage) :
    index = other ∧ new = stage ∨ index ≠ other ∧ calls[other]? = some stage := by
  by_cases hsame : index = other
  · subst hsame
    rw [List.getElem?_set_self (by simpa using (List.getElem?_eq_some_iff.1 h).1)] at h
    exact Or.inl ⟨rfl, Option.some.inj h⟩
  · rw [List.getElem?_set_ne hsame] at h
    exact Or.inr ⟨hsame, h⟩

/-- A call after another one has been added. -/
theorem stage_cases_of_append {calls : List CallStage} {index : Nat} {new stage : CallStage}
    (h : (calls ++ [new])[index]? = some stage) :
    calls[index]? = some stage ∨ index = calls.length ∧ new = stage := by
  by_cases hlt : index < calls.length
  · rw [List.getElem?_append_left hlt] at h
    exact Or.inl h
  · rw [List.getElem?_append_right (Nat.not_lt.1 hlt), List.getElem?_singleton] at h
    split at h
    · exact Or.inr ⟨by omega, Option.some.inj h⟩
    · contradiction

/-! ## Opening a connection -/

/-- What an attempt to have an open connection leads to. -/
inductive Opens (link : Link) : Except DeviceError Nat → Link → Prop where
  /-- There is one. -/
  | kept {connection : Nat} (h : link.connection = some connection) :
      Opens link (.ok connection) link
  /-- A new one is opened. -/
  | opened (h : link.connection = none) (attempts : Nat) (openings : List (Option DeviceError)) :
      Opens link (.ok link.line.inboxes.length)
        { link with
          line := { link.line with attempts, openings, inboxes := link.line.inboxes ++ [[]] }
          connection := some link.line.inboxes.length }
  | failed (h : link.connection = none) (error : DeviceError) (attempts : Nat)
      (openings : List (Option DeviceError)) :
      Opens link (.error error) { link with line := { link.line with attempts, openings } }

theorem opens_of_eq {link opened : Link} {result : Except DeviceError Nat}
    (h : link.open? = (result, opened)) : link.Opens result opened := by
  unfold open? at h
  split at h
  · rename_i connection hconnection
    obtain ⟨rfl, rfl⟩ := Prod.mk.inj h
    exact .kept hconnection
  · rename_i hconnection
    rcases link.line.connect_cases with ⟨error, hconnect⟩ | hconnect
    · rw [hconnect] at h
      obtain ⟨rfl, rfl⟩ := Prod.mk.inj h
      exact .failed hconnection error _ _
    · rw [hconnect] at h
      obtain ⟨rfl, rfl⟩ := Prod.mk.inj h
      exact .opened hconnection _ _

theorem Opens.calls_eq {link opened : Link} {result : Except DeviceError Nat}
    (h : link.Opens result opened) : opened.calls = link.calls := by
  cases h <;> rfl

theorem Opens.queue_eq {link opened : Link} {result : Except DeviceError Nat}
    (h : link.Opens result opened) : opened.queue = link.queue := by
  cases h <;> rfl

theorem Opens.connection_eq {link opened : Link} {connection : Nat}
    (h : link.Opens (.ok connection) opened) : opened.connection = some connection := by
  cases h with
  | kept hconnection => exact hconnection
  | opened => rfl

/-- No connection is opened: what is open has been open before. -/
theorem was_open {link next : Link} {connection : Nat}
    (h : next.connection = link.connection ∨ next.connection = none)
    (hopen : next.connection = some connection) : link.connection = some connection := by
  rcases h with hsame | hnone
  · exact hsame ▸ hopen
  · rw [hnone] at hopen
    contradiction

/-! ## Moves -/

/-- The events of a link and what they lead to. -/
inductive Moves (link : Link) : LinkEvent → Link → Prop where
  /-- A call queues up. -/
  | call (request : Message) : Moves link (.call request) (link.enqueue (.queued request))
  /-- A cancellation that is alone is a call like any other. -/
  | cancel (hidle : link.queue = []) :
      Moves link .cancel (link.enqueue (.queued DeviceRequest.cancel.message))
  /-- A cancellation of other calls finds no connection. -/
  | unheard (hbusy : link.queue ≠ []) {error : DeviceError} {opened : Link}
      (hopen : link.open? = (.error error, opened)) :
      Moves link .cancel (opened.answer (.error error))
  /-- A cancellation of other calls is not written. -/
  | unsaid (hbusy : link.queue ≠ []) {connection : Nat} {opened : Link} {error : DeviceError}
      {sent : List Packet} {writings : List (Option DeviceError)}
      (hopen : link.open? = (.ok connection, opened))
      (hsent : sent <+: DeviceRequest.cancel.message.packets)
      (hcut : sent ≠ DeviceRequest.cancel.message.packets) :
      Moves link .cancel
        (({ opened with line := opened.line.wrote connection sent writings } : Link).answer
          (.error error))
  /-- A cancellation of other calls is written past the queue. -/
  | interrupt (hbusy : link.queue ≠ []) {connection : Nat} {opened : Link}
      {writings : List (Option DeviceError)} (hopen : link.open? = (.ok connection, opened)) :
      Moves link .cancel
        (({ opened with
          line := opened.line.wrote connection DeviceRequest.cancel.message.packets
            writings } : Link).enqueue (.yielding (link.now + link.patience)))
  | drop (index : Nat) (hindex : index ∈ link.queue) :
      Moves link (.drop index)
        { link with queue := link.queue.erase index, calls := link.calls.set index .dropped }
  | disconnect : Moves link .disconnect { link.close with epoch := link.epoch + 1 }
  | arrive (arrivals : List Arrival) {older : List (List Arrival)} {inbox : List Arrival}
      (hinboxes : link.line.inboxes = older ++ [inbox]) :
      Moves link (.arrive arrivals)
        { link with line := { link.line with inboxes := older ++ [inbox ++ arrivals] } }
  | wait (milliseconds : Nat) :
      Moves link (.wait milliseconds) { link with now := link.now + milliseconds }
  | expectOpenings (outcomes : List (Option DeviceError)) :
      Moves link (.expectOpenings outcomes)
        { link with line := { link.line with openings := link.line.openings ++ outcomes } }
  | expectWritings (outcomes : List (Option DeviceError)) :
      Moves link (.expectWritings outcomes)
        { link with line := { link.line with writings := link.line.writings ++ outcomes } }
  /-- A call finds no connection for its exchange. -/
  | unreached {index : Nat} {request : Message} {error : DeviceError} {opened : Link}
      (hstage : link.calls[index]? = some (.queued request)) (hturn : link.turn = some index)
      (hopen : link.open? = (.error error, opened)) :
      Moves link (.proceed index) (opened.finish index (.error error))
  /-- The request of a call is cut off. -/
  | cut {index : Nat} {request : Message} {connection : Nat} {opened : Link} {error : DeviceError}
      {sent : List Packet} {writings : List (Option DeviceError)}
      (hstage : link.calls[index]? = some (.queued request)) (hturn : link.turn = some index)
      (hopen : link.open? = (.ok connection, opened))
      (hsent : sent <+: request.packets) (hcut : sent ≠ request.packets) :
      Moves link (.proceed index)
        (({ opened with
          line := opened.line.wrote connection sent writings } : Link).close.finish index
            (.error error))
  /-- A call writes its request and reads from now on. -/
  | ask {index : Nat} {request : Message} {connection : Nat} {opened : Link}
      {writings : List (Option DeviceError)}
      (hstage : link.calls[index]? = some (.queued request)) (hturn : link.turn = some index)
      (hopen : link.open? = (.ok connection, opened)) :
      Moves link (.proceed index)
        (({ opened with
          line := opened.line.wrote connection request.packets writings } : Link).stay index
            (.exchanging connection link.epoch .empty))
  /-- An exchange was disconnected. -/
  | abort {index connection epoch : Nat} {assembler : Assembler}
      (hstage : link.calls[index]? = some (.exchanging connection epoch assembler))
      (hepoch : epoch ≠ link.epoch) :
      Moves link (.proceed index) (link.close.finish index (.error .disconnected))
  /-- An exchange reads a packet, and goes on reading. -/
  | read {index connection : Nat} {assembler next : Assembler} {packet : Packet}
      {arrivals : List Arrival}
      (hstage : link.calls[index]? = some (.exchanging connection link.epoch assembler))
      (hinbox : link.line.inboxes[connection]? = some (.ok packet :: arrivals))
      (hpush : assembler.push packet = (.ok none, next)) :
      Moves link (.proceed index)
        (({ link with
          line := { link.line with
            inboxes := link.line.inboxes.set connection arrivals } } : Link).stay index
              (.exchanging connection link.epoch next))
  /-- An exchange reads the last packet of a message. -/
  | hear {index connection : Nat} {assembler next : Assembler} {packet : Packet}
      {arrivals : List Arrival} {message : Message}
      (hstage : link.calls[index]? = some (.exchanging connection link.epoch assembler))
      (hinbox : link.line.inboxes[connection]? = some (.ok packet :: arrivals))
      (hpush : assembler.push packet = (.ok (some message), next)) :
      Moves link (.proceed index)
        (({ link with
          line := { link.line with
            inboxes := link.line.inboxes.set connection arrivals } } : Link).finish index
              (.ok message))
  /-- An exchange reads an error, or a packet that it cannot take. -/
  | fail {index connection : Nat} {assembler : Assembler} {arrival : Arrival}
      {arrivals : List Arrival} {error : DeviceError}
      (hstage : link.calls[index]? = some (.exchanging connection link.epoch assembler))
      (hinbox : link.line.inboxes[connection]? = some (arrival :: arrivals)) :
      Moves link (.proceed index)
        (({ link with
          line := { link.line with
            inboxes := link.line.inboxes.set connection arrivals } } : Link).close.finish index
              (.error error))
  /-- A cancellation has its turn. -/
  | yield {index deadline : Nat} (hstage : link.calls[index]? = some (.yielding deadline))
      (hturn : link.turn = some index) :
      Moves link (.proceed index) (link.finish index (.ok cancelled))
  /-- A cancellation has waited too long. -/
  | giveUp {index deadline : Nat} (hstage : link.calls[index]? = some (.yielding deadline))
      (hdeadline : deadline ≤ link.now) :
      Moves link (.proceed index) (link.finish index (.error .timeout))

variable {link next : Link}

/-- A call that has its turn begins its exchange. -/
theorem moves_of_exchange {index : Nat} {request : Message}
    (hstage : link.calls[index]? = some (.queued request)) (hturn : link.turn = some index) :
    link.Moves (.proceed index) (link.exchange index request) := by
  unfold exchange
  split
  · rename_i error opened hopen
    exact .unreached hstage hturn hopen
  · rename_i connection opened hopen
    have hstart : CallStage.exchanging connection opened.epoch .empty
        = .exchanging connection link.epoch .empty := by
      cases opens_of_eq hopen <;> rfl
    obtain ⟨sent, writings, hsent, ⟨rfl, hwrite⟩ | ⟨error, hcut, hwrite⟩⟩ :=
      opened.line.write_cases connection request.packets
    · rw [hwrite, hstart]
      exact .ask hstage hturn hopen
    · rw [hwrite]
      exact .cut hstage hturn hopen hsent hcut

theorem moves_of_cancel (hbusy : link.queue ≠ []) : link.Moves .cancel link.cancel := by
  have hempty : link.queue.isEmpty = false := by simpa using hbusy
  unfold cancel
  rw [hempty, if_neg Bool.false_ne_true]
  split
  · rename_i error opened hopen
    exact .unheard hbusy hopen
  · rename_i connection opened hopen
    have htime : opened.now + opened.patience = link.now + link.patience := by
      cases opens_of_eq hopen <;> rfl
    obtain ⟨sent, writings, hsent, ⟨rfl, hwrite⟩ | ⟨error, hcut, hwrite⟩⟩ :=
      opened.line.write_cases connection DeviceRequest.cancel.message.packets
    · rw [hwrite]
      simp only [htime]
      exact .interrupt hbusy hopen
    · rw [hwrite]
      exact .unsaid hbusy hopen hsent hcut

theorem moves_of_proceed {index : Nat} (h : link.proceed? index = some next) :
    link.Moves (.proceed index) next := by
  unfold proceed? at h
  split at h
  · rename_i request hstage
    split at h
    · rename_i hturn
      obtain rfl := Option.some.inj h
      exact moves_of_exchange hstage hturn
    · contradiction
  · rename_i connection epoch assembler hstage
    split at h
    · rename_i hepoch
      obtain rfl := Option.some.inj h
      exact .abort hstage hepoch
    · rename_i hepoch
      obtain rfl : epoch = link.epoch := Decidable.not_not.1 hepoch
      split at h
      · contradiction
      · rename_i arrival line hreceive
        obtain rfl := Option.some.inj h
        obtain ⟨arrivals, hinbox, rfl⟩ := Line.receive_eq_some hreceive
        unfold take
        split
        · exact .fail hstage hinbox
        · rename_i packet
          split
          · rename_i assembler hpush
            exact .read hstage hinbox hpush
          · rename_i message assembler hpush
            exact .hear hstage hinbox hpush
          · exact .fail hstage hinbox
  · rename_i deadline hstage
    split at h
    · rename_i hturn
      obtain rfl := Option.some.inj h
      exact .yield hstage hturn
    · split at h
      · rename_i hdeadline
        obtain rfl := Option.some.inj h
        exact .giveUp hstage hdeadline
      · contradiction
  · contradiction

/-- There are no other moves. -/
theorem moves_of_step {event : LinkEvent} (h : link.step event = some next) :
    link.Moves event next := by
  cases event with
  | call request => exact Option.some.inj h ▸ .call request
  | cancel =>
    obtain rfl := Option.some.inj h
    by_cases hidle : link.queue = []
    · have hcancel : link.cancel = link.enqueue (.queued DeviceRequest.cancel.message) := by
        simp [cancel, hidle]
      exact hcancel ▸ .cancel hidle
    · exact moves_of_cancel hidle
  | drop index =>
    simp only [step, drop?] at h
    split at h
    · rename_i hindex
      exact Option.some.inj h ▸ .drop index hindex
    · contradiction
  | disconnect => exact Option.some.inj h ▸ .disconnect
  | arrive arrivals =>
    obtain ⟨line, harrive, rfl⟩ := Option.map_eq_some_iff.1 h
    obtain ⟨older, inbox, hinboxes, rfl⟩ := Line.arrive_eq_some harrive
    exact .arrive arrivals hinboxes
  | wait milliseconds => exact Option.some.inj h ▸ .wait milliseconds
  | expectOpenings outcomes => exact Option.some.inj h ▸ .expectOpenings outcomes
  | expectWritings outcomes => exact Option.some.inj h ▸ .expectWritings outcomes
  | proceed index => exact moves_of_proceed h

/-- What a move does to the calls: nothing, or a call is added, or one call goes on.  Only calls
that are added wait for an exchange. -/
theorem Moves.calls_cases {event : LinkEvent} (h : link.Moves event next) :
    next.calls = link.calls ∨
      (∃ stage, next.calls = link.calls ++ [stage] ∧
        ∀ request, stage = .queued request → event.message? = some request) ∨
      ∃ index stage, next.calls = link.calls.set index stage ∧
        ∀ request, stage ≠ .queued request := by
  cases h with
  | call request =>
    exact Or.inr (Or.inl ⟨_, rfl, fun _ hsame => congrArg some (CallStage.queued.inj hsame)⟩)
  | cancel =>
    exact Or.inr (Or.inl ⟨_, rfl, fun _ hsame => congrArg some (CallStage.queued.inj hsame)⟩)
  | unheard hbusy hopen | unsaid hbusy hopen | interrupt hbusy hopen =>
    exact Or.inr (Or.inl ⟨_, by rw [← (opens_of_eq hopen).calls_eq]; rfl, by simp⟩)
  | disconnect | arrive | wait | expectOpenings | expectWritings => exact Or.inl rfl
  | drop | abort | read | hear | fail | yield | giveUp =>
    exact Or.inr (Or.inr ⟨_, _, rfl, by simp⟩)
  | unreached hstage hturn hopen | cut hstage hturn hopen | ask hstage hturn hopen =>
    exact Or.inr (Or.inr ⟨_, _, by rw [← (opens_of_eq hopen).calls_eq]; rfl, by simp⟩)

/-- What holds at the start and is kept by every move holds at the end. -/
theorem run_induction (property : Link → Prop) {first last : Link} {events : List LinkEvent}
    (hrun : first.run events = some last) (hfirst : property first)
    (hmoves : ∀ {link event next}, property link → link.Moves event next → property next) :
    property last := by
  induction events generalizing first with
  | nil => exact Option.some.inj hrun ▸ hfirst
  | cons event events ih =>
    obtain ⟨next, hnext, hrest⟩ := Option.bind_eq_some_iff.1 hrun
    exact ih hrest (hmoves hfirst (moves_of_step hnext))

end Link

end WalletGateway
