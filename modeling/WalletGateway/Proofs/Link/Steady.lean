import WalletGateway.Link.Basic

/-!
# Links that do not fail

On a line where nothing fails, a link opens one connection when it first needs it and keeps it.
`IsSteady` describes such a link.  On a steady link a message can always be written; `send` is the
link after that, and `IsSteady.send_eq` says what has changed.
-/

namespace WalletGateway

/-- Where no attempt fails, all packets are written. -/
theorem Line.write_of_writings_eq_nil {line : Line} (h : line.writings = []) (connection : Nat)
    (packets : List Packet) :
    line.write connection packets
      = (none, { line with
          written := (packets.map fun packet => (connection, packet)).reverse
            ++ line.written }) := by
  induction packets generalizing line with
  | nil => rfl
  | cons packet packets ih =>
    obtain ⟨openings, writings, attempts, inboxes, written⟩ := line
    obtain rfl : writings = [] := h
    simp only [write, List.head?_nil, Option.join_none, List.tail_nil]
    rw [ih rfl]
    simp only [List.map_cons, List.reverse_cons, List.append_assoc, List.singleton_append]

namespace Link

/-- What has arrived and is not read, on all connections. -/
def inbox (link : Link) : List Arrival :=
  link.line.inboxes.flatten

/-- A message is written to the connection, which is opened where there is none. -/
def send (link : Link) (message : Message) : Link :=
  { link.open?.2 with line := (link.open?.2.line.write 0 message.packets).2 }

/-- Nothing has failed or is going to fail, and there is one connection at the most. -/
structure IsSteady (link : Link) : Prop where
  openings : link.line.openings = []
  writings : link.line.writings = []
  epoch : link.epoch = 0
  connection : link.connection = none ∧ link.line.inboxes = [] ∨
    link.connection = some 0 ∧ ∃ inbox, link.line.inboxes = [inbox]

namespace IsSteady

variable {link : Link}

/-- A link stays steady as long as nothing is done to its line. -/
theorem stay (h : link.IsSteady) (index : Nat) (stage : CallStage) :
    (link.stay index stage).IsSteady :=
  ⟨h.openings, h.writings, h.epoch, h.connection⟩

theorem finish (h : link.IsSteady) (index : Nat) (result : Except DeviceError Message) :
    (link.finish index result).IsSteady :=
  ⟨h.openings, h.writings, h.epoch, h.connection⟩

theorem enqueue (h : link.IsSteady) (stage : CallStage) : (link.enqueue stage).IsSteady :=
  ⟨h.openings, h.writings, h.epoch, h.connection⟩

/-- The connection of a steady link can be opened, and is the first one. -/
theorem open?_eq (h : link.IsSteady) :
    ∃ attempts inboxes inbox, inboxes = [inbox] ∧ inboxes.flatten = link.inbox ∧
      link.open? = (.ok 0, { link with
        connection := some 0
        line := { link.line with attempts, inboxes } }) := by
  obtain ⟨patience, now, line, connection, epoch, queue, calls⟩ := link
  obtain ⟨openings, writings, attempts, inboxes, written⟩ := line
  obtain ⟨rfl, rfl, rfl, ⟨rfl, rfl⟩ | ⟨rfl, inbox, rfl⟩⟩ := h
  · exact ⟨attempts + 1, [[]], [], rfl, rfl, rfl⟩
  · exact ⟨attempts, [inbox], inbox, rfl, rfl, rfl⟩

/-- Sending a message changes the connection and the account of what was written. -/
theorem send_eq (h : link.IsSteady) (message : Message) :
    ∃ attempts inboxes inbox, inboxes = [inbox] ∧ inboxes.flatten = link.inbox ∧
      link.send message = { link with
        connection := some 0
        line := { link.line with
          attempts, inboxes
          written := (message.packets.map fun packet => (0, packet)).reverse
            ++ link.line.written } } := by
  obtain ⟨attempts, inboxes, inbox, hinboxes, hinbox, hopen⟩ := h.open?_eq
  refine ⟨attempts, inboxes, inbox, hinboxes, hinbox, ?_⟩
  simp only [Link.send, hopen]
  rw [Line.write_of_writings_eq_nil]
  exact h.writings

theorem send (h : link.IsSteady) (message : Message) : (link.send message).IsSteady := by
  obtain ⟨attempts, inboxes, inbox, hinboxes, -, hsend⟩ := h.send_eq message
  rw [hsend]
  exact ⟨h.openings, h.writings, h.epoch, Or.inr ⟨rfl, inbox, hinboxes⟩⟩

theorem send_inbox (h : link.IsSteady) (message : Message) :
    (link.send message).inbox = link.inbox := by
  obtain ⟨attempts, inboxes, inbox, -, hinbox, hsend⟩ := h.send_eq message
  rw [hsend]
  exact hinbox

theorem send_calls (h : link.IsSteady) (message : Message) :
    (link.send message).calls = link.calls := by
  obtain ⟨_, _, _, -, -, hsend⟩ := h.send_eq message
  rw [hsend]

theorem send_queue (h : link.IsSteady) (message : Message) :
    (link.send message).queue = link.queue := by
  obtain ⟨_, _, _, -, -, hsend⟩ := h.send_eq message
  rw [hsend]

/-- What was written, in order. -/
theorem send_written (h : link.IsSteady) (message : Message) :
    (link.send message).line.written.reverse.map Prod.snd
      = link.line.written.reverse.map Prod.snd ++ message.packets := by
  obtain ⟨_, _, _, -, -, hsend⟩ := h.send_eq message
  rw [hsend]
  simp [Function.comp_def]

/-- An exchange writes its request and waits for the reply. -/
theorem exchange_eq (h : link.IsSteady) (index : Nat) (request : Message) :
    link.exchange index request = (link.send request).stay index (.exchanging 0 0 .empty) := by
  obtain ⟨attempts, inboxes, inbox, -, -, hopen⟩ := h.open?_eq
  simp only [exchange, Link.send, hopen, h.epoch]
  rw [Line.write_of_writings_eq_nil]
  exact h.writings

/-- A cancellation of a call that is under way writes its request and waits for its turn. -/
theorem cancel_eq (h : link.IsSteady) (hbusy : link.queue ≠ []) :
    link.cancel = (link.send DeviceRequest.cancel.message).enqueue
      (.yielding (link.now + link.patience)) := by
  obtain ⟨attempts, inboxes, inbox, -, -, hopen⟩ := h.open?_eq
  have hempty : link.queue.isEmpty = false := by simpa using hbusy
  simp only [cancel, Link.send, hempty, hopen, Bool.false_eq_true, if_false]
  rw [Line.write_of_writings_eq_nil]
  exact h.writings

/-- What is read is the oldest arrival. -/
theorem receive_eq (h : link.IsSteady) {arrival : Arrival} {line : Line}
    (hreceive : link.line.receive 0 = some (arrival, line)) :
    ({ link with line } : Link).IsSteady ∧
      link.inbox = arrival :: ({ link with line } : Link).inbox ∧
      line.written = link.line.written := by
  obtain ⟨patience, now, ⟨openings, writings, attempts, inboxes, written⟩, connection, epoch, queue,
    calls⟩ := link
  obtain ⟨rfl, rfl, rfl, ⟨rfl, rfl⟩ | ⟨rfl, inbox, rfl⟩⟩ := h
  · contradiction
  · cases inbox with
    | nil => contradiction
    | cons first rest =>
      obtain ⟨rfl, rfl⟩ := Prod.mk.inj (Option.some.inj hreceive)
      exact ⟨⟨rfl, rfl, rfl, Or.inr ⟨rfl, rest, rfl⟩⟩, by simp [Link.inbox], rfl⟩

/-- What arrives is read after everything that has arrived before. -/
theorem arrive_eq (h : link.IsSteady) {arrivals : List Arrival} {line : Line}
    (harrive : link.line.arrive arrivals = some line) :
    ({ link with line } : Link).IsSteady ∧
      ({ link with line } : Link).inbox = link.inbox ++ arrivals ∧
      line.written = link.line.written := by
  obtain ⟨patience, now, ⟨openings, writings, attempts, inboxes, written⟩, connection, epoch, queue,
    calls⟩ := link
  obtain ⟨rfl, rfl, rfl, ⟨rfl, rfl⟩ | ⟨rfl, inbox, rfl⟩⟩ := h
  · contradiction
  · obtain rfl := Option.some.inj harrive
    exact ⟨⟨rfl, rfl, rfl, Or.inr ⟨rfl, _, rfl⟩⟩, by simp [Link.inbox], rfl⟩

end IsSteady

end Link

end WalletGateway
