import WalletGateway.Proofs.Link.Moves
import WalletGateway.Proofs.Packet.Stream

/-!
# What is written to a connection

Whatever fails and whoever gives up, a device can tell apart the messages that it receives: the
packets on a connection are those of whole messages, and perhaps a part of one more.  Behind such a
part nothing is written any more (`writes_whole_messages`).

The reason is that an exchange closes the connection when its request is cut off (`IsFramed.cut`).
A cancellation that is not written leaves the connection open, but its message is one packet
(`prefix_cancel`), so that it leaves no part behind.
-/

namespace WalletGateway

/-- The packets that were written to a connection, in order. -/
def Line.packetsOn (line : Line) (connection : Nat) : List Packet :=
  entriesAt line.written.reverse connection

namespace Line

variable {line : Line} {connection : Nat} {sent : List Packet}
  {writings : List (Option DeviceError)}

theorem packetsOn_wrote_self :
    (line.wrote connection sent writings).packetsOn connection
      = line.packetsOn connection ++ sent := by
  simp [packetsOn, wrote, entriesAt_map_self]

theorem packetsOn_wrote_of_ne {other : Nat} (h : other ≠ connection) :
    (line.wrote connection sent writings).packetsOn other = line.packetsOn other := by
  simp [packetsOn, wrote, entriesAt_map_of_ne h.symm]

end Line

/-- A cancellation is one packet: a part of it is nothing. -/
theorem eq_nil_of_prefix_cancel {sent : List Packet}
    (h : sent <+: DeviceRequest.cancel.message.packets)
    (hcut : sent ≠ DeviceRequest.cancel.message.packets) : sent = [] := by
  have hsingle : DeviceRequest.cancel.message.packets.length = 1 := by
    rw [Message.length_packets]
    rfl
  have hlt : sent.length < 1 := by
    refine Nat.lt_of_le_of_ne (hsingle ▸ h.length_le) fun hlength => hcut ?_
    exact h.eq_of_length (hlength.trans hsingle.symm)
  exact List.length_eq_zero_iff.1 (by omega)

namespace Link

variable {link next opened : Link} {messages : List Message} {connection : Nat}

/-! ## What a move writes -/

/-- Nothing is written, and no connection is opened. -/
structure Rests (link next : Link) : Prop where
  written : next.line.written = link.line.written
  inboxes : next.line.inboxes.length = link.line.inboxes.length
  connection : next.connection = link.connection ∨ next.connection = none

/-- A message may be written in a move: the event asks for it, or a call that waits. -/
def Asks (link : Link) (event : LinkEvent) (message : Message) : Prop :=
  event.message? = some message ∨ ∃ index : Nat, link.calls[index]? = some (.queued message)

/-- What a move writes: nothing, or a whole message, or a part of a message whose connection is
closed then. -/
inductive Writes (link : Link) (event : LinkEvent) (next : Link) : Prop where
  | nothing (h : link.Rests next)
  | opened {result : Except DeviceError Nat} {opened : Link} (hopen : link.Opens result opened)
      (h : opened.Rests next)
  | whole {connection : Nat} {opened : Link} {message : Message}
      {writings : List (Option DeviceError)} (hopen : link.Opens (.ok connection) opened)
      (hasks : link.Asks event message)
      (hline : next.line = opened.line.wrote connection message.packets writings)
      (hconnection : next.connection = opened.connection)
  | part {connection : Nat} {opened : Link} {message : Message} {sent : List Packet}
      {writings : List (Option DeviceError)} (hopen : link.Opens (.ok connection) opened)
      (hasks : link.Asks event message) (hsent : sent <+: message.packets)
      (hcut : sent ≠ message.packets)
      (hline : next.line = opened.line.wrote connection sent writings)
      (hconnection : next.connection = none)

theorem Moves.writes {event : LinkEvent} (h : link.Moves event next) : link.Writes event next := by
  cases h with
  | call | cancel | drop | wait | expectOpenings | expectWritings | yield | giveUp =>
    exact .nothing ⟨rfl, rfl, Or.inl rfl⟩
  | disconnect | abort => exact .nothing ⟨rfl, rfl, Or.inr rfl⟩
  | arrive arrivals hinboxes => exact .nothing ⟨rfl, by simp [hinboxes], Or.inl rfl⟩
  | read | hear => exact .nothing ⟨rfl, List.length_set, Or.inl rfl⟩
  | fail => exact .nothing ⟨rfl, List.length_set, Or.inr rfl⟩
  | unheard hbusy hopen => exact .opened (opens_of_eq hopen) ⟨rfl, rfl, Or.inl rfl⟩
  | unreached hstage hturn hopen => exact .opened (opens_of_eq hopen) ⟨rfl, rfl, Or.inl rfl⟩
  | unsaid hbusy hopen hsent hcut =>
    obtain rfl := eq_nil_of_prefix_cancel hsent hcut
    exact .opened (opens_of_eq hopen) ⟨rfl, rfl, Or.inl rfl⟩
  | interrupt hbusy hopen => exact .whole (opens_of_eq hopen) (Or.inl rfl) rfl rfl
  | ask hstage hturn hopen => exact .whole (opens_of_eq hopen) (Or.inr ⟨_, hstage⟩) rfl rfl
  | cut hstage hturn hopen hsent hcut =>
    exact .part (opens_of_eq hopen) (Or.inr ⟨_, hstage⟩) hsent hcut rfl rfl

/-! ## Closed connections -/

/-- A connection was open once, and is open no more. -/
def IsOver (link : Link) (connection : Nat) : Prop :=
  link.connection ≠ some connection ∧ connection < link.line.inboxes.length

namespace IsOver

/-- A connection that is opened is another one. -/
theorem opens (h : link.IsOver connection) {result : Except DeviceError Nat}
    (hopen : link.Opens result opened) :
    opened.IsOver connection ∧ result ≠ .ok connection ∧
      opened.line.written = link.line.written := by
  obtain ⟨hclosed, hlt⟩ := h
  cases hopen with
  | kept hconnection =>
    refine ⟨⟨hclosed, hlt⟩, ?_, rfl⟩
    rintro ⟨⟩
    exact hclosed hconnection
  | opened hnone attempts openings =>
    refine ⟨⟨?_, ?_⟩, ?_, rfl⟩
    · simp only [ne_eq, Option.some.injEq]
      omega
    · simp only [List.length_append]
      omega
    · simp only [ne_eq, Except.ok.injEq]
      omega
  | failed hnone error attempts openings => exact ⟨⟨hclosed, hlt⟩, by simp, rfl⟩

theorem rests (h : link.IsOver connection) (hrests : link.Rests next) : next.IsOver connection := by
  refine ⟨?_, hrests.inboxes ▸ h.2⟩
  rcases hrests.connection with hsame | hnone
  · exact hsame ▸ h.1
  · simp [hnone]

/-- Nothing is written to a connection that is over. -/
theorem writes (h : link.IsOver connection) {event : LinkEvent}
    (hwrites : link.Writes event next) :
    next.IsOver connection ∧
      next.line.packetsOn connection = link.line.packetsOn connection := by
  cases hwrites with
  | nothing hrests =>
    exact ⟨h.rests hrests, by rw [Line.packetsOn, hrests.written, Line.packetsOn]⟩
  | opened hopen hrests =>
    obtain ⟨hover, -, hwritten⟩ := h.opens hopen
    refine ⟨hover.rests hrests, ?_⟩
    rw [Line.packetsOn, hrests.written, hwritten, Line.packetsOn]
  | whole hopen hasks hline hconnection =>
    obtain ⟨⟨hclosed, hlt⟩, hother, hwritten⟩ := h.opens hopen
    refine ⟨⟨hconnection ▸ hclosed, by rw [hline]; exact hlt⟩, ?_⟩
    rw [hline, Line.packetsOn_wrote_of_ne fun heq => hother (congrArg _ heq.symm), Line.packetsOn,
      hwritten, Line.packetsOn]
  | part hopen hasks hsent hcut hline hconnection =>
    obtain ⟨⟨hclosed, hlt⟩, hother, hwritten⟩ := h.opens hopen
    refine ⟨⟨by simp [hconnection], by rw [hline]; exact hlt⟩, ?_⟩
    rw [hline, Line.packetsOn_wrote_of_ne fun heq => hother (congrArg _ heq.symm), Line.packetsOn,
      hwritten, Line.packetsOn]

theorem run {events : List LinkEvent} {last : Link} (h : link.IsOver connection)
    (hrun : link.run events = some last) :
    last.line.packetsOn connection = link.line.packetsOn connection := by
  refine (run_induction (fun other => other.IsOver connection ∧
    other.line.packetsOn connection = link.line.packetsOn connection) hrun ⟨h, rfl⟩ ?_).2
  rintro middle event next ⟨hover, hsame⟩ hmoves
  obtain ⟨hnext, hkept⟩ := hover.writes hmoves.writes
  exact ⟨hnext, hkept.trans hsame⟩

end IsOver

/-! ## Whole messages -/

/-- Every call that waits has one of the messages as its request. -/
def Queues (link : Link) (messages : List Message) : Prop :=
  ∀ {index : Nat} {request : Message},
    link.calls[index]? = some (.queued request) → request ∈ messages

/-- Packets are those of whole messages, and the part of one more. -/
def IsCutAfter (packets : List Packet) (messages : List Message) (cut : List Packet) : Prop :=
  ∃ whole : List Message, packets = whole.flatMap Message.packets ++ cut ∧
    (∀ message ∈ whole, message ∈ messages) ∧
    (cut ≠ [] → ∃ message ∈ messages, cut <+: message.packets ∧ cut ≠ message.packets)

/-- What was written to each connection are packets of whole messages, and perhaps a part of one
more, if the connection is over. -/
structure IsFramed (link : Link) (messages : List Message) : Prop where
  existing : ∀ {connection : Nat}, link.connection = some connection →
    connection < link.line.inboxes.length
  packets : ∀ connection, ∃ cut, IsCutAfter (link.line.packetsOn connection) messages cut ∧
    (cut ≠ [] → link.IsOver connection)

namespace IsFramed

theorem opens (h : link.IsFramed messages) {result : Except DeviceError Nat}
    (hopen : link.Opens result opened) : opened.IsFramed messages := by
  have hpackets : ∀ connection, opened.line.packetsOn connection
      = link.line.packetsOn connection := by
    intro connection
    cases hopen <;> rfl
  refine ⟨?_, fun connection => ?_⟩
  · cases hopen with
    | kept | failed => exact h.existing
    | opened hnone attempts openings =>
      intro connection hconnection
      obtain rfl := Option.some.inj hconnection
      simp
  · obtain ⟨cut, hcut, hover⟩ := h.packets connection
    exact ⟨cut, hpackets connection ▸ hcut, fun hsome => ((hover hsome).opens hopen).1⟩

theorem rests (h : link.IsFramed messages) (hrests : link.Rests next) : next.IsFramed messages := by
  have hpackets : ∀ connection, next.line.packetsOn connection
      = link.line.packetsOn connection := by
    intro connection
    rw [Line.packetsOn, hrests.written, Line.packetsOn]
  refine ⟨?_, fun connection => ?_⟩
  · intro connection hconnection
    rw [hrests.inboxes]
    rcases hrests.connection with hsame | hnone
    · exact h.existing (hsame ▸ hconnection)
    · rw [hnone] at hconnection
      contradiction
  · obtain ⟨cut, hcut, hover⟩ := h.packets connection
    exact ⟨cut, hpackets connection ▸ hcut, fun hsome => (hover hsome).rests hrests⟩

/-- On the open connection there is nothing but whole messages. -/
theorem whole_of_open (h : link.IsFramed messages) (hopen : link.connection = some connection) :
    IsCutAfter (link.line.packetsOn connection) messages [] := by
  obtain ⟨cut, hcut, hover⟩ := h.packets connection
  obtain rfl : cut = [] := Decidable.byContradiction fun hsome => (hover hsome).1 hopen
  exact hcut

theorem writes (h : link.IsFramed messages) {event : LinkEvent}
    (hasks : ∀ message, link.Asks event message → message ∈ messages)
    (hwrites : link.Writes event next) : next.IsFramed messages := by
  cases hwrites with
  | nothing hrests => exact h.rests hrests
  | opened hopen hrests => exact (h.opens hopen).rests hrests
  | whole hopen hasked hline hconnection =>
    rename_i connection opened message writings
    have hopened := h.opens hopen
    have hinboxes : next.line.inboxes = opened.line.inboxes := by rw [hline, Line.wrote]
    refine ⟨fun hnext => hinboxes ▸ hopened.existing (hconnection ▸ hnext), fun other => ?_⟩
    by_cases hsame : other = connection
    · subst hsame
      obtain ⟨whole, hpackets, hwhole, -⟩ := hopened.whole_of_open hopen.connection_eq
      refine ⟨[], ⟨whole ++ [message], ?_, ?_, fun hsome => absurd rfl hsome⟩,
        fun hsome => absurd rfl hsome⟩
      · rw [hline, Line.packetsOn_wrote_self, hpackets]
        simp
      · intro written hwritten
        rcases List.mem_append.1 hwritten with hold | hnew
        · exact hwhole written hold
        · exact List.mem_singleton.1 hnew ▸ hasks message hasked
    · obtain ⟨cut, hcut, hover⟩ := hopened.packets other
      refine ⟨cut, ?_, fun hsome => ⟨hconnection ▸ (hover hsome).1, hinboxes ▸ (hover hsome).2⟩⟩
      rw [hline, Line.packetsOn_wrote_of_ne hsame]
      exact hcut
  | part hopen hasked hsent hcut hline hconnection =>
    rename_i connection opened message sent writings
    have hopened := h.opens hopen
    have hinboxes : next.line.inboxes = opened.line.inboxes := by rw [hline, Line.wrote]
    have hclosed : ∀ {other : Nat}, other < opened.line.inboxes.length → next.IsOver other :=
      fun hlt => ⟨by simp [hconnection], hinboxes ▸ hlt⟩
    refine ⟨fun hnext => by simp [hconnection] at hnext, fun other => ?_⟩
    by_cases hsame : other = connection
    · subst hsame
      obtain ⟨whole, hpackets, hwhole, -⟩ := hopened.whole_of_open hopen.connection_eq
      refine ⟨sent, ⟨whole, ?_, hwhole, fun _ => ⟨message, hasks message hasked, hsent, hcut⟩⟩,
        fun _ => hclosed (hopened.existing hopen.connection_eq)⟩
      rw [hline, Line.packetsOn_wrote_self, hpackets, List.append_nil]
    · obtain ⟨cut, hcut, hover⟩ := hopened.packets other
      refine ⟨cut, ?_, fun hsome => hclosed (hover hsome).2⟩
      rw [hline, Line.packetsOn_wrote_of_ne hsame]
      exact hcut

end IsFramed

/-- A call that waits after a move has waited before, or starts with the event. -/
theorem Moves.queued_cases {event : LinkEvent} (h : link.Moves event next) {index : Nat}
    {request : Message} (hqueued : next.calls[index]? = some (.queued request)) :
    link.calls[index]? = some (.queued request) ∨ event.message? = some request := by
  rcases h.calls_cases with hsame | ⟨stage, hadded, hasks⟩ | ⟨other, stage, hset, hstage⟩
  · exact Or.inl (hsame ▸ hqueued)
  · rw [hadded] at hqueued
    rcases stage_cases_of_append hqueued with hold | ⟨-, hnew⟩
    · exact Or.inl hold
    · exact Or.inr (hasks request hnew)
  · rw [hset] at hqueued
    rcases stage_cases_of_set hqueued with ⟨-, hnew⟩ | ⟨-, hold⟩
    · exact absurd hnew (hstage request)
    · exact Or.inl hold

theorem IsFramed.run {events : List LinkEvent} {last : Link} (h : link.IsFramed messages)
    (hqueues : link.Queues messages)
    (hevents : ∀ event ∈ events, ∀ message, event.message? = some message → message ∈ messages)
    (hrun : link.run events = some last) : last.IsFramed messages := by
  induction events generalizing link with
  | nil => exact Option.some.inj hrun ▸ h
  | cons event events ih =>
    obtain ⟨next, hnext, hrest⟩ := Option.bind_eq_some_iff.1 hrun
    have hmoves := moves_of_step hnext
    have hevent := hevents event List.mem_cons_self
    refine ih (h.writes (fun message hasks => ?_) hmoves.writes) (fun hqueued => ?_)
      (fun other hother => hevents other (List.mem_cons_of_mem _ hother)) hrest
    · rcases hasks with hasked | ⟨index, hqueued⟩
      · exact hevent message hasked
      · exact hqueues hqueued
    · rcases hmoves.queued_cases hqueued with hold | hnew
      · exact hqueues hold
      · exact hevent _ hnew

end Link

end WalletGateway
