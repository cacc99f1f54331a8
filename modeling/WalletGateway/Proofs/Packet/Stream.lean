import WalletGateway.Packet.Assembler

/-!
# Streams of packets

Messages that are cut into packets, one after the other, come out of an assembler as they went in.

* What stands in a packet.  `bytes_first` and `drop_one_ofBytes_cons` give the bytes behind the
  marks, and `start_header` reads the header back.
* One message.  `accept_fill` says what a pending message does with the next part of its own
  payload, whatever follows that part as padding; `feed_continuations` follows the parts of one
  payload by induction, and `feed_message` is the message as a whole.
* Many messages.  `feed_flatMap_packets` joins them: every message comes out at its own last
  packet, nothing comes out anywhere else, and the assembler is empty again.
* A stream under way.  `Delivers` says which messages the packets still to come will complete, and
  how that changes with every packet that is pushed and every message that is sent.
-/

namespace WalletGateway

/-! ## What stands in a packet -/

theorem BigEndian.value_word16 (word : UInt16) : value (word16 word) = word.toNat := by
  have hlt := word.toNat_lt
  simp only [value, word16, List.foldl_cons, List.foldl_nil, UInt16.toNat_toUInt8,
    UInt16.toNat_shiftRight, show (8 : UInt16).toNat % 16 = 8 from rfl, Nat.shiftRight_eq_div_pow]
  omega

theorem BigEndian.value_word32 (word : UInt32) : value (word32 word) = word.toNat := by
  have hlt := word.toNat_lt
  simp only [value, word32, List.foldl_cons, List.foldl_nil, UInt32.toNat_toUInt8,
    UInt32.toNat_shiftRight, show (8 : UInt32).toNat % 32 = 8 from rfl,
    show (16 : UInt32).toNat % 32 = 16 from rfl, show (24 : UInt32).toNat % 32 = 24 from rfl,
    Nat.shiftRight_eq_div_pow]
  omega

namespace Packet

/-- A packet carries at most 63 bytes behind its mark, and zeros where there are fewer. -/
theorem drop_one_ofBytes_cons (mark : UInt8) (payload : List UInt8) :
    (ofBytes (mark :: payload.take 63)).bytes.drop 1
      = payload.take 63 ++ List.replicate (63 - payload.length) 0 := by
  have hpad : 64 - (mark :: payload.take 63).length = 63 - payload.length := by
    simp only [List.length_cons, List.length_take]
    omega
  simp only [ofBytes, hpad, List.take_succ_cons, List.take_take, Nat.min_self, List.cons_append,
    List.drop_succ_cons, List.drop_zero]

theorem continuations_nil : continuations [] = [] := by
  rw [continuations]
  rfl

theorem continuations_ne_nil {payload : List UInt8} (h : payload ≠ []) :
    continuations payload ≠ [] := by
  rw [continuations, if_neg (by simpa using h)]
  exact List.cons_ne_nil _ _

theorem length_continuations (payload : List UInt8) :
    (continuations payload).length = (payload.length + 62) / 63 := by
  fun_induction continuations payload with
  | case1 payload hempty => simp [List.isEmpty_iff.1 hempty]
  | case2 payload hempty ih =>
    have hpos : payload.length ≠ 0 := by simpa using hempty
    simp only [List.length_cons, ih, List.length_drop]
    omega

/-- The first packet has room for 55 bytes behind the header. -/
theorem bytes_first (message : Message) :
    (ofBytes (header message ++ message.payload.take 55)).bytes
      = header message
        ++ (message.payload.take 55 ++ List.replicate (55 - message.payload.length) 0) := by
  have hpad : 64 - (header message ++ message.payload.take 55).length
      = 55 - message.payload.length := by
    simp only [List.length_append, length_header, headerSize, List.length_take]
    omega
  have htake : (header message ++ message.payload.take 55).take 64
      = header message ++ message.payload.take 55 := by
    apply List.take_of_length_le
    simp only [List.length_append, length_header, headerSize, List.length_take]
    omega
  simp only [ofBytes, hpad, htake, List.append_assoc]

end Packet

theorem Message.length_packets (message : Message) :
    message.packets.length = (message.payload.length - 55 + 62) / 63 + 1 := by
  simp only [packets, List.length_cons, Packet.length_continuations, List.length_drop]

namespace Assembler

/-- The header of a message is read back, whatever stands behind it. -/
theorem start_header {message : Message} (h : message.payload.length ≤ Packet.maxPayload)
    (rest : List UInt8) :
    start (Packet.header message ++ rest) = .ok ⟨message.code, message.payload.length, []⟩ := by
  have hlt : message.payload.length < UInt32.size := by
    simp only [Packet.maxPayload, UInt32.size] at *
    omega
  have hcode : ((Packet.header message ++ rest).drop 3).take 2 = BigEndian.word16 message.code :=
    rfl
  have hlength : ((Packet.header message ++ rest).drop 5).take 4
      = BigEndian.word32 (UInt32.ofNat message.payload.length) := rfl
  have hmarks : ((Packet.header message ++ rest).drop 1).take 2
      = [Packet.headerMark, Packet.headerMark] := rfl
  simp only [start, hmarks, hcode, hlength, BigEndian.value_word16, BigEndian.value_word32,
    UInt32.toNat_ofNat_of_lt' hlt, ne_eq, not_true_eq_false, if_false, UInt16.ofNat_toNat]
  rw [if_neg (by omega)]

/-! ## One message -/

/-- The answers to packets that are pushed one after the other, and the assembler after the last of
them. -/
def feed (assembler : Assembler) :
    List Packet → List (Except FramingError (Option Message)) × Assembler
  | [] => ([], assembler)
  | packet :: packets =>
    let (answer, next) := assembler.push packet
    let (answers, last) := next.feed packets
    (answer :: answers, last)

theorem feed_append (assembler : Assembler) (first second : List Packet) :
    assembler.feed (first ++ second)
      = ((assembler.feed first).1 ++ ((assembler.feed first).2.feed second).1,
        ((assembler.feed first).2.feed second).2) := by
  induction first generalizing assembler with
  | nil => rfl
  | cons packet packets ih => simp only [List.cons_append, feed, ih]

/-- A pending message takes the next `size` bytes of its payload.  The padding behind the payload
does not get into it. -/
theorem accept_fill (code : UInt16) (received payload : List UInt8) (size : Nat) :
    Pending.accept ⟨code, payload.length, received⟩
        (payload.take size ++ List.replicate (size - payload.length) 0)
      = if size < payload.length then
          (none, ⟨some ⟨code, (payload.drop size).length, (payload.take size).reverse ++ received⟩⟩)
        else (some ⟨code, received.reverse ++ payload⟩, empty) := by
  have hlength : (payload.take size ++ List.replicate (size - payload.length) (0 : UInt8)).length
      = size := by
    simp only [List.length_append, List.length_take, List.length_replicate]
    omega
  simp only [Pending.accept, hlength]
  split
  · rename_i hlt
    have hpad : size - payload.length = 0 := by omega
    simp only [hpad, List.replicate_zero, List.append_nil, List.length_drop]
  · rename_i hle
    have htake : payload.take size = payload := List.take_of_length_le (by omega)
    simp only [htake, List.take_left]

/-- What an assembler says to the packets of a message, given their number: nothing before the
last. -/
def announcement (count : Nat) (message : Message) :
    List (Except FramingError (Option Message)) :=
  List.replicate (count - 1) (.ok none) ++ [.ok (some message)]

theorem announcement_succ {count : Nat} (h : count ≠ 0) (message : Message) :
    announcement (count + 1) message = .ok none :: announcement count message := by
  obtain ⟨rest, rfl⟩ := Nat.exists_eq_succ_of_ne_zero h
  rfl

/-- The rest of a payload completes the message that waits for it. -/
theorem feed_continuations (code : UInt16) (received payload : List UInt8) (h : payload ≠ []) :
    feed ⟨some ⟨code, payload.length, received⟩⟩ (Packet.continuations payload)
      = (announcement (Packet.continuations payload).length ⟨code, received.reverse ++ payload⟩,
        empty) := by
  -- The recursion of `continuations`: each packet takes 63 bytes off the payload.
  fun_induction Packet.continuations payload generalizing received with
  | case1 payload hempty => exact absurd (List.isEmpty_iff.1 hempty) h
  | case2 payload hempty ih =>
    have hmark : (Packet.ofBytes (Packet.reportMark :: payload.take 63)).bytes.headD 0
        = Packet.reportMark := rfl
    have hpush : push ⟨some ⟨code, payload.length, received⟩⟩
          (Packet.ofBytes (Packet.reportMark :: payload.take 63))
        = if 63 < payload.length then
            (.ok none, ⟨some ⟨code, (payload.drop 63).length,
              (payload.take 63).reverse ++ received⟩⟩)
          else (.ok (some ⟨code, received.reverse ++ payload⟩), empty) := by
      simp only [push, hmark, ne_eq, not_true_eq_false, if_false, Packet.drop_one_ofBytes_cons,
        accept_fill]
      split <;> rfl
    by_cases hlong : 63 < payload.length
    · have hrest : payload.drop 63 ≠ [] := by
        simp only [ne_eq, List.drop_eq_nil_iff]
        omega
      have hsome : (Packet.continuations (payload.drop 63)).length ≠ 0 := by
        simpa using Packet.continuations_ne_nil hrest
      have hpayload : ((payload.take 63).reverse ++ received).reverse ++ payload.drop 63
          = received.reverse ++ payload := by
        simp [List.append_assoc]
      simp only [feed, hpush, if_pos hlong, ih _ hrest, hpayload, List.length_cons,
        announcement_succ hsome]
    · have hrest : payload.drop 63 = [] := List.drop_eq_nil_iff.2 (by omega)
      simp only [feed, hpush, if_neg hlong, hrest, Packet.continuations_nil]
      rfl

/-- A message comes out at its last packet, and leaves the assembler empty. -/
theorem feed_message {message : Message} (h : message.payload.length ≤ Packet.maxPayload) :
    empty.feed message.packets = (announcement message.packets.length message, empty) := by
  have hbytes := Packet.bytes_first message
  have hmark : (Packet.ofBytes (Packet.header message ++ message.payload.take 55)).bytes.headD 0
      = Packet.reportMark := rfl
  have hdata : (Packet.ofBytes (Packet.header message ++ message.payload.take 55)).bytes.drop
        Packet.headerSize
      = message.payload.take 55 ++ List.replicate (55 - message.payload.length) 0 := by
    rw [hbytes]
    rfl
  have hpush : empty.push (Packet.ofBytes (Packet.header message ++ message.payload.take 55))
      = if 55 < message.payload.length then
          (.ok none, ⟨some ⟨message.code, (message.payload.drop 55).length,
            (message.payload.take 55).reverse ++ []⟩⟩)
        else (.ok (some message), empty) := by
    simp only [push, hmark, ne_eq, not_true_eq_false, if_false, empty, hdata]
    rw [hbytes, start_header h]
    simp only [accept_fill]
    split <;> rfl
  simp only [Message.packets, feed, hpush]
  by_cases hlong : 55 < message.payload.length
  · have hrest : message.payload.drop 55 ≠ [] := by
      simp only [ne_eq, List.drop_eq_nil_iff]
      omega
    have hsome : (Packet.continuations (message.payload.drop 55)).length ≠ 0 := by
      simpa using Packet.continuations_ne_nil hrest
    simp only [if_pos hlong, feed_continuations _ _ _ hrest, List.length_cons,
      announcement_succ hsome, List.append_nil, List.reverse_reverse, List.take_append_drop]
  · have hrest : message.payload.drop 55 = [] := List.drop_eq_nil_iff.2 (by omega)
    simp only [if_neg hlong, hrest, Packet.continuations_nil]
    rfl

/-! ## Many messages -/

/-- Messages that are sent as packets, one after the other, come out of a new assembler in order,
each at its own last packet. -/
theorem feed_flatMap_packets (messages : List Message)
    (h : ∀ message ∈ messages, message.payload.length ≤ Packet.maxPayload) :
    empty.feed (messages.flatMap Message.packets)
      = (messages.flatMap fun message => announcement message.packets.length message, empty) := by
  induction messages with
  | nil => rfl
  | cons message messages ih =>
    have hfirst := feed_message (h message List.mem_cons_self)
    have hrest := ih fun other hother => h other (List.mem_cons_of_mem _ hother)
    simp only [List.flatMap_cons, feed_append, hfirst, hrest]

/-- An empty payload, one that fills its packets to the last byte with what could be marks, and one
that needs a packet for its last byte. -/
theorem feed_full_packets :
    let short : Message := ⟨27, []⟩
    let full : Message := ⟨9999, List.replicate 118 Packet.reportMark⟩
    let spilling : Message := ⟨2, List.replicate 56 Packet.headerMark⟩
    (∀ message ∈ [short, full, spilling], message.payload.length ≤ Packet.maxPayload) ∧
      empty.feed ([short, full, spilling].flatMap Message.packets)
        = ([.ok (some short), .ok none, .ok (some full), .ok none, .ok (some spilling)], empty) := by
  have hbound : ∀ message ∈ ([⟨27, []⟩, ⟨9999, List.replicate 118 Packet.reportMark⟩,
      ⟨2, List.replicate 56 Packet.headerMark⟩] : List Message),
      message.payload.length ≤ Packet.maxPayload := by
    simp [Packet.maxPayload]
  have hfeed := feed_flatMap_packets _ hbound
  refine ⟨hbound, hfeed.trans ?_⟩
  simp [announcement, Message.length_packets]

/-! ## A stream under way -/

/-- The packets complete the messages in order, none of them is refused, and the assembler is empty
after the last of them. -/
def Delivers (assembler : Assembler) (packets : List Packet) (messages : List Message) : Prop :=
  ∃ answers : List (Option Message),
    assembler.feed packets = (answers.map .ok, empty) ∧ answers.filterMap id = messages

theorem delivers_nil : empty.Delivers [] [] := ⟨[], rfl, rfl⟩

/-- A message that follows is delivered after the others. -/
theorem Delivers.append_packets {assembler : Assembler} {packets : List Packet}
    {messages : List Message} (h : assembler.Delivers packets messages) {message : Message}
    (hlength : message.payload.length ≤ Packet.maxPayload) :
    assembler.Delivers (packets ++ message.packets) (messages ++ [message]) := by
  obtain ⟨answers, hfeed, hmessages⟩ := h
  refine ⟨answers ++ (List.replicate (message.packets.length - 1) none ++ [some message]), ?_, ?_⟩
  · rw [feed_append, hfeed, feed_message hlength]
    simp [announcement]
  · rw [List.filterMap_append, hmessages]
    simp

/-- An assembler is empty after a message. -/
theorem eq_empty_of_push {assembler next : Assembler} {packet : Packet} {message : Message}
    (h : assembler.push packet = (.ok (some message), next)) : next = empty := by
  have haccept : ∀ {pending : Pending} {data : List UInt8},
      pending.accept data = (some message, next) → next = empty := by
    intro pending data hdata
    unfold Pending.accept at hdata
    split at hdata
    · simp at hdata
    · exact (Prod.mk.inj hdata).2.symm
  by_cases hmark : packet.bytes.headD 0 ≠ Packet.reportMark
  · simp only [push, if_pos hmark, Prod.mk.injEq, reduceCtorEq, false_and] at h
  · simp only [push, if_neg hmark] at h
    split at h
    · obtain ⟨hanswer, hnext⟩ := Prod.mk.inj h
      exact haccept (Prod.ext (Except.ok.inj hanswer) hnext)
    · split at h
      · simp at h
      · obtain ⟨hanswer, hnext⟩ := Prod.mk.inj h
        exact haccept (Prod.ext (Except.ok.inj hanswer) hnext)

/-- The next packet completes the next message, or no message. -/
theorem Delivers.push_cases {assembler : Assembler} {packet : Packet} {packets : List Packet}
    {messages : List Message} (h : assembler.Delivers (packet :: packets) messages) :
    (∃ next, assembler.push packet = (.ok none, next) ∧ next.Delivers packets messages) ∨
      ∃ message rest, assembler.push packet = (.ok (some message), empty) ∧
        messages = message :: rest ∧ empty.Delivers packets rest := by
  obtain ⟨answers, hfeed, hmessages⟩ := h
  simp only [feed, Prod.mk.injEq] at hfeed
  obtain ⟨hanswers, hlast⟩ := hfeed
  cases answers with
  | nil => contradiction
  | cons answer answers =>
    obtain ⟨hanswer, hrest⟩ := List.cons.inj hanswers
    cases answer with
    | none =>
      refine Or.inl ⟨_, Prod.ext hanswer rfl, answers, Prod.ext hrest hlast, ?_⟩
      simpa using hmessages
    | some message =>
      have hpush : assembler.push packet = (.ok (some message), (assembler.push packet).2) :=
        Prod.ext hanswer rfl
      have hempty := eq_empty_of_push hpush
      rw [hempty] at hpush hrest hlast
      refine Or.inr ⟨message, answers.filterMap id, hpush, ?_, answers, Prod.ext hrest hlast, rfl⟩
      simpa using hmessages.symm

end Assembler

end WalletGateway
