import WalletGateway.Proofs.Packet.Stream

/-!
# The messages of a stream

Packets that are read from the start, by an assembler that is never replaced.  `IsPart` and
`IsWhole` say of some packets that they begin a message or are one, and `EndsMessage` that a message
with some number ends with them.

`EndsWith` covers refusals as well: the last packet is the first one that has an answer, a message
or an error.  Two beginnings of one stream that end with an answer are the same
(`EndsWith.eq_of_isPrefix`).
-/

namespace WalletGateway

namespace Assembler

/-- The message in the answer to a packet. -/
def said? : Except FramingError (Option Message) → Option Message
  | .ok message => message
  | .error _ => none

/-- The messages that packets hold, read from the start. -/
def messages (packets : List Packet) : List Message :=
  (empty.feed packets).1.filterMap said?

/-- The packets begin a message and do not complete it. -/
def IsPart (packets : List Packet) (assembler : Assembler) : Prop :=
  empty.feed packets = (List.replicate packets.length (.ok none), assembler)

/-- The last one of the packets completes a message, and the others do not. -/
def IsWhole (packets : List Packet) (message : Message) : Prop :=
  empty.feed packets = (announcement packets.length message, empty)

variable {packets : List Packet} {assembler next : Assembler} {packet : Packet} {message : Message}

theorem isPart_nil : IsPart [] empty := rfl

theorem IsPart.push_none (h : IsPart packets assembler)
    (hpush : assembler.push packet = (.ok none, next)) : IsPart (packets ++ [packet]) next := by
  rw [IsPart, feed_append, h, List.length_append, List.length_singleton,
    List.replicate_succ']
  simp [feed, hpush]

theorem IsPart.push_some (h : IsPart packets assembler)
    (hpush : assembler.push packet = (.ok (some message), next)) :
    IsWhole (packets ++ [packet]) message := by
  obtain rfl := eq_empty_of_push hpush
  rw [IsWhole, feed_append, h, List.length_append, List.length_singleton, announcement,
    Nat.add_sub_cancel]
  simp [feed, hpush]

theorem messages_append {first : List Packet} (h : (empty.feed first).2 = empty)
    (second : List Packet) : messages (first ++ second) = messages first ++ messages second := by
  rw [messages, feed_append, h, List.filterMap_append, messages, messages]

theorem said?_announcement (count : Nat) (message : Message) :
    (announcement count message).filterMap said? = [message] := by
  have hnone : ((List.replicate (count - 1) (.ok none) :
      List (Except FramingError (Option Message))).filterMap said?) = [] := by
    simp [List.filterMap_replicate, said?]
  rw [announcement, List.filterMap_append, hnone]
  rfl

/-- One message for each of several runs of packets. -/
theorem feed_flatMap_whole {γ : Type} (runs : List γ) (packetsOf : γ → List Packet)
    (h : ∀ run ∈ runs, ∃ message, IsWhole (packetsOf run) message) :
    (empty.feed (runs.flatMap packetsOf)).2 = empty ∧
      (messages (runs.flatMap packetsOf)).length = runs.length := by
  induction runs with
  | nil => exact ⟨rfl, rfl⟩
  | cons run runs ih =>
    obtain ⟨message, hwhole⟩ := h run List.mem_cons_self
    obtain ⟨hempty, hlength⟩ := ih fun other hother => h other (List.mem_cons_of_mem _ hother)
    have hfirst : (empty.feed (packetsOf run)).2 = empty := by rw [hwhole]
    have hone : messages (packetsOf run) = [message] := by
      rw [messages, hwhole, said?_announcement]
    refine ⟨?_, ?_⟩
    · rw [List.flatMap_cons, feed_append, hfirst, hempty]
    · rw [List.flatMap_cons, messages_append hfirst, hone, List.length_append, hlength,
        List.length_singleton, List.length_cons, Nat.add_comm]

/-- The last one of the packets completes the message with the given number. -/
def EndsMessage (packets : List Packet) (number : Nat) (message : Message) : Prop :=
  ∃ answers, empty.feed packets = (answers ++ [.ok (some message)], empty) ∧
    (answers.filterMap said?).length = number

theorem IsWhole.endsMessage {first : List Packet} (h : IsWhole packets message)
    (hfirst : (empty.feed first).2 = empty) :
    EndsMessage (first ++ packets) (messages first).length message := by
  refine ⟨(empty.feed first).1 ++ List.replicate (packets.length - 1) (.ok none), ?_, ?_⟩
  · rw [feed_append, hfirst, h, announcement, List.append_assoc]
  · simp [messages, List.filterMap_append, List.filterMap_replicate, said?]

/-- A message has its number among all messages of the stream, whatever stands behind it. -/
theorem EndsMessage.messages_getElem? {number : Nat} (h : EndsMessage packets number message)
    (rest : List Packet) : (messages (packets ++ rest))[number]? = some message := by
  obtain ⟨answers, hfeed, rfl⟩ := h
  have hfirst : messages packets = answers.filterMap said? ++ [message] := by
    rw [messages, hfeed, List.filterMap_append]
    rfl
  rw [messages_append (by rw [hfeed]), hfirst, List.append_assoc,
    List.getElem?_append_right (Nat.le_refl _), Nat.sub_self]
  rfl

/-! ## The first answer -/

/-- The last one of the packets has an answer, and the others have none. -/
def EndsWith (packets : List Packet) (answer : Except FramingError (Option Message)) : Prop :=
  (empty.feed packets).1 = List.replicate (packets.length - 1) (.ok none) ++ [answer]

variable {first : List Packet} {answer other : Except FramingError (Option Message)}

theorem length_feed (assembler : Assembler) (packets : List Packet) :
    (assembler.feed packets).1.length = packets.length := by
  induction packets generalizing assembler with
  | nil => rfl
  | cons packet packets ih => simp only [feed, List.length_cons, ih]

theorem EndsWith.ne_nil (h : EndsWith packets answer) : packets ≠ [] := by
  rintro rfl
  have hlength := congrArg List.length h
  simp [length_feed] at hlength

theorem IsWhole.endsWith (h : IsWhole packets message) : EndsWith packets (.ok (some message)) := by
  rw [EndsWith, h, announcement]

/-- A packet that cannot be taken is refused. -/
theorem IsPart.push_error {error : FramingError} (h : IsPart packets assembler)
    (hpush : (assembler.push packet).1 = .error error) :
    EndsWith (packets ++ [packet]) (.error error) := by
  rw [EndsWith, feed_append, h, List.length_append, List.length_singleton, Nat.add_sub_cancel]
  simp [feed, hpush]

theorem endsWith_packets (h : message.payload.length ≤ Packet.maxPayload) :
    EndsWith message.packets (.ok (some message)) := by
  rw [EndsWith, feed_message h, announcement]

theorem feed_isPrefix (h : first <+: packets) :
    (empty.feed first).1 <+: (empty.feed packets).1 := by
  obtain ⟨rest, rfl⟩ := h
  rw [feed_append]
  exact List.prefix_append _ _

/-- Packets without an answer do not begin with packets that have one. -/
theorem IsPart.not_isPrefix (h : IsPart packets assembler) (hfirst : EndsWith first answer)
    (hanswer : answer ≠ .ok none) : ¬ first <+: packets := by
  intro hpre
  have hanswers := feed_isPrefix hpre
  rw [hfirst, h] at hanswers
  have hmem := hanswers.subset (List.mem_append_right _ (List.mem_singleton_self answer))
  exact hanswer (List.eq_of_mem_replicate hmem)

/-- There is nothing behind the first answer. -/
theorem EndsWith.eq_of_isPrefix (h : EndsWith packets other) (hfirst : EndsWith first answer)
    (hanswer : answer ≠ .ok none) (hpre : first <+: packets) :
    first = packets ∧ answer = other := by
  have hanswers := feed_isPrefix hpre
  rw [hfirst, h] at hanswers
  rcases List.prefix_concat_iff.1 hanswers with hsame | hbefore
  · obtain ⟨hnothing, hlast⟩ := List.append_inj' hsame rfl
    have hlength := congrArg List.length hnothing
    have hfirstPos := List.length_pos_iff.2 hfirst.ne_nil
    have hpos := List.length_pos_iff.2 h.ne_nil
    simp only [List.length_replicate] at hlength
    exact ⟨hpre.eq_of_length (by omega), List.singleton_inj.1 hlast⟩
  · have hmem := hbefore.subset (List.mem_append_right _ (List.mem_singleton_self answer))
    exact absurd (List.eq_of_mem_replicate hmem) hanswer

/-! ## Packets that begin no message -/

/-- A packet has the marks of a first packet. -/
def Opens (packet : Packet) : Prop :=
  (packet.bytes.drop 1).take 2 = [Packet.headerMark, Packet.headerMark]

instance (packet : Packet) : Decidable (Opens packet) :=
  inferInstanceAs (Decidable (_ = _))

theorem headD_packets (h : packet ∈ message.packets) :
    packet.bytes.headD 0 = Packet.reportMark := by
  have hrest : ∀ payload : List UInt8, ∀ other ∈ Packet.continuations payload,
      other.bytes.headD 0 = Packet.reportMark := by
    intro payload
    fun_induction Packet.continuations payload with
    | case1 => exact fun other hother => absurd hother List.not_mem_nil
    | case2 payload hsome ih =>
      intro other hother
      rcases List.mem_cons.1 hother with rfl | hrest
      · rfl
      · exact ih other hrest
  rcases List.mem_cons.1 h with rfl | hcontinues
  · rfl
  · exact hrest _ packet hcontinues

/-- What stands in the middle of a message is refused where a message begins, unless it has the
marks. -/
theorem endsWith_of_not_opens (hpacket : packet ∈ message.packets) (hplain : ¬ Opens packet) :
    EndsWith [packet] (.error .invalidHeader) := by
  have hstart : start packet.bytes = .error .invalidHeader := if_pos hplain
  refine isPart_nil.push_error ?_
  simp only [push, headD_packets hpacket, ne_eq, not_true_eq_false, if_false, empty, hstart]

end Assembler

end WalletGateway
