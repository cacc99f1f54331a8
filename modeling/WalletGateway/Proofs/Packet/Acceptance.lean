import WalletGateway.Proofs.Packet.Progress

/-!
# What an assembler accepts

An assembler answers with a message exactly where it has got the packets of this message.  Only what
stands behind the payload in the last packet is up to the sender.

* Bytes.  The words of a header are determined by their numbers (`word16_value`, `word32_value`), and
  so a first packet holds the header of what it announces (`take_header`).
* Packets.  `packets_of_gathers` cuts a message that was gathered from packets into these packets
  again; `continuations_flatMap` is the part behind the first one.
* `Carries` says that packets are those of a message up to the end of its payload.
  `carries_of_endsWith` and `Carries.endsWith` are the two directions of the main result.
-/

namespace WalletGateway

/-! ## Bytes -/

namespace BigEndian

theorem word16_value {bytes : List UInt8} (h : bytes.length = 2) :
    word16 (UInt16.ofNat (value bytes)) = bytes := by
  match bytes, h with
  | [first, second], _ =>
    have hfirst := first.toNat_lt
    have hsecond := second.toNat_lt
    simp only [word16, value, List.foldl_cons, List.foldl_nil, List.cons.injEq, and_true,
      ← UInt8.toNat_inj, UInt16.toNat_toUInt8, UInt16.toNat_shiftRight, UInt16.toNat_ofNat',
      show (8 : UInt16).toNat % 16 = 8 from rfl, Nat.shiftRight_eq_div_pow]
    omega

theorem value_lt {bytes : List UInt8} (h : bytes.length = 4) : value bytes < UInt32.size := by
  match bytes, h with
  | [first, second, third, fourth], _ =>
    have hfirst := first.toNat_lt
    have hsecond := second.toNat_lt
    have hthird := third.toNat_lt
    have hfourth := fourth.toNat_lt
    simp only [value, List.foldl_cons, List.foldl_nil, UInt32.size]
    omega

theorem word32_value {bytes : List UInt8} (h : bytes.length = 4) :
    word32 (UInt32.ofNat (value bytes)) = bytes := by
  have hlt := value_lt h
  match bytes, h with
  | [first, second, third, fourth], _ =>
    have hfirst := first.toNat_lt
    have hsecond := second.toNat_lt
    have hthird := third.toNat_lt
    have hfourth := fourth.toNat_lt
    simp only [word32, value, List.foldl_cons, List.foldl_nil, List.cons.injEq, and_true,
      ← UInt8.toNat_inj, UInt32.toNat_toUInt8, UInt32.toNat_shiftRight, UInt32.toNat_ofNat',
      show (8 : UInt32).toNat % 32 = 8 from rfl, show (16 : UInt32).toNat % 32 = 16 from rfl,
      show (24 : UInt32).toNat % 32 = 24 from rfl, Nat.shiftRight_eq_div_pow]
    omega

end BigEndian

namespace Packet

variable {packet other : Packet}

theorem eq_of_bytes (h : packet.bytes = other.bytes) : packet = other := by
  cases packet
  cases other
  cases h
  rfl

/-- Fewer bytes than a packet has are filled up with zeros. -/
theorem bytes_ofBytes {bytes : List UInt8} (h : bytes.length ≤ 64) :
    (ofBytes bytes).bytes = bytes ++ List.replicate (64 - bytes.length) 0 := by
  show bytes.take 64 ++ _ = _
  rw [List.take_of_length_le h]

theorem ofBytes_bytes (packet : Packet) : ofBytes packet.bytes = packet := by
  apply eq_of_bytes
  rw [bytes_ofBytes (Nat.le_of_eq packet.length_bytes), packet.length_bytes, Nat.sub_self,
    List.replicate_zero, List.append_nil]

theorem mark_cons (h : packet.bytes.headD 0 = reportMark) :
    reportMark :: packet.bytes.drop 1 = packet.bytes := by
  have hlength := packet.length_bytes
  cases hbytes : packet.bytes with
  | nil =>
    rw [hbytes] at hlength
    contradiction
  | cons first rest =>
    rw [hbytes] at h
    rw [← h]
    rfl

/-- A first packet opens with the header of the message that it announces. -/
theorem take_header (hmark : packet.bytes.headD 0 = reportMark) (hopens : Assembler.Opens packet)
    {payload : List UInt8} (hlength : payload.length = packet.announced) :
    packet.bytes.take headerSize = header ⟨packet.code, payload⟩ := by
  have hfirst : packet.bytes.take 1 = [reportMark] := by
    rw [← mark_cons hmark]
    rfl
  have hcode : ((packet.bytes.drop 3).take 2).length = 2 := by
    rw [List.length_take, List.length_drop, packet.length_bytes]
    rfl
  have hannounced : ((packet.bytes.drop 5).take 4).length = 4 := by
    rw [List.length_take, List.length_drop, packet.length_bytes]
    rfl
  calc
    packet.bytes.take headerSize
      = packet.bytes.take 1 ++ (packet.bytes.drop 1).take 2 ++ (packet.bytes.drop 3).take 2
          ++ (packet.bytes.drop 5).take 4 := by
        rw [show headerSize = 1 + 2 + 2 + 4 from rfl, List.take_add, List.take_add, List.take_add]
    _ = [reportMark] ++ [headerMark, headerMark] ++ BigEndian.word16 packet.code
          ++ BigEndian.word32 (UInt32.ofNat packet.announced) := by
        rw [hfirst, hopens, code, announced, BigEndian.word16_value hcode,
          BigEndian.word32_value hannounced]
    _ = header ⟨packet.code, payload⟩ := by
        rw [← hlength]
        rfl

theorem continuations_append {part : List UInt8} (h : part.length = 63) (rest : List UInt8) :
    continuations (part ++ rest) = ofBytes (reportMark :: part) :: continuations rest := by
  have hsome : ¬ (part ++ rest).isEmpty := by
    intro hempty
    have hpart := (List.append_eq_nil_iff.1 (List.isEmpty_iff.1 hempty)).1
    rw [hpart] at h
    contradiction
  rw [continuations, if_neg hsome, List.take_left' h, List.drop_left' h]

/-- The parts that packets carry behind their marks, and one more part, are cut into these packets
and one more. -/
theorem continuations_flatMap {later : List Packet} {rest : List UInt8}
    (hmarks : ∀ packet ∈ later, packet.bytes.headD 0 = reportMark) (hsome : rest ≠ [])
    (hrest : rest.length ≤ 63) :
    continuations ((later.flatMap fun packet => packet.bytes.drop 1) ++ rest)
      = later ++ [ofBytes (reportMark :: rest)] := by
  induction later with
  | nil =>
    rw [List.flatMap_nil, List.nil_append, continuations, if_neg (by simpa using hsome),
      List.take_of_length_le hrest, List.drop_eq_nil_of_le hrest, continuations_nil,
      List.nil_append]
  | cons packet later ih =>
    rw [List.flatMap_cons, List.append_assoc, continuations_append (length_drop_mark packet),
      mark_cons (hmarks packet List.mem_cons_self), ofBytes_bytes,
      ih fun other hother => hmarks other (List.mem_cons_of_mem _ hother), List.cons_append]

/-! ## Two packets that begin in the same way -/

/-- The packets have the same first bytes. -/
def Agree (packet other : Packet) (kept : Nat) : Prop :=
  packet.bytes.take kept = other.bytes.take kept

theorem agree_of_append {kept : Nat} (hkept : kept ≤ 64)
    (h : packet.bytes = other.bytes.take kept ++ List.replicate (64 - kept) 0) :
    packet.Agree other kept := by
  have hlength : (other.bytes.take kept).length = kept := by
    rw [List.length_take, other.length_bytes]
    omega
  rw [Agree, h, List.take_left' hlength]

namespace Agree

variable {kept : Nat}

theorem part (h : packet.Agree other kept) {start size : Nat} (hle : start + size ≤ kept) :
    (packet.bytes.drop start).take size = (other.bytes.drop start).take size := by
  have hshorter : ∀ bytes : List UInt8,
      (bytes.drop start).take size = ((bytes.take kept).drop start).take size := by
    intro bytes
    rw [List.take_drop, List.take_drop, List.take_take, Nat.min_eq_left hle]
  rw [hshorter packet.bytes, hshorter other.bytes, h]

theorem mark (h : packet.Agree other kept) (hle : 1 ≤ kept) :
    packet.bytes.headD 0 = other.bytes.headD 0 := by
  have hfirst : ∀ bytes : List UInt8, bytes.headD 0 = (bytes.take 1).headD 0 := by
    intro bytes
    cases bytes <;> rfl
  rw [hfirst, hfirst other.bytes]
  have hpart : (packet.bytes.drop 0).take 1 = (other.bytes.drop 0).take 1 := h.part hle
  exact congrArg (fun bytes => bytes.headD 0) hpart

theorem opens (h : packet.Agree other kept) (hle : headerSize ≤ kept)
    (hopens : Assembler.Opens packet) : Assembler.Opens other := by
  rw [Assembler.Opens, ← h.part (Nat.le_trans (by decide) hle)]
  exact hopens

theorem code (h : packet.Agree other kept) (hle : headerSize ≤ kept) :
    packet.code = other.code := by
  rw [Packet.code, Packet.code, h.part (Nat.le_trans (by decide) hle)]

theorem announced (h : packet.Agree other kept) (hle : headerSize ≤ kept) :
    packet.announced = other.announced := by
  rw [Packet.announced, Packet.announced, h.part hle]

end Agree

end Packet

/-- A short payload fits into the first packet. -/
theorem Message.packets_of_short (message : Message) (h : message.payload.length ≤ 55) :
    message.packets = [Packet.ofBytes (Packet.header message ++ message.payload)] := by
  rw [packets, List.take_of_length_le h, List.drop_eq_nil_of_le h, Packet.continuations_nil]

namespace Assembler

variable {packets : List Packet} {message : Message} {pending : Pending} {first : Packet}
  {last : Packet} {later : List Packet}

theorem length_take_announced (hshort : first.announced ≤ 55) :
    ((first.bytes.drop Packet.headerSize).take first.announced).length = first.announced := by
  rw [List.length_take, Packet.length_drop_header]
  omega

theorem length_take_missing (last : Packet) (hmissing : pending.missing ≤ 63) :
    ((last.bytes.drop 1).take pending.missing).length = pending.missing := by
  rw [List.length_take, Packet.length_drop_mark]
  omega

/-- A message that is complete is cut into the packets that it was gathered from.  The last one has
zeros behind the payload. -/
theorem Pending.Gathers.packets_eq (h : pending.Gathers first later) {rest : List UInt8}
    (hrest : rest.length = pending.missing) (hlast : pending.missing ≤ 63) :
    (⟨pending.code, pending.received.reverse ++ rest⟩ : Message).packets
      = (first :: later) ++ [Packet.ofBytes (Packet.reportMark :: rest)] := by
  have hmissing := h.missing_add
  have hshort := h.short
  have hlength : (pending.received.reverse ++ rest).length = first.announced := by
    rw [List.length_append, List.length_reverse]
    omega
  have hsome : rest ≠ [] := by
    apply List.ne_nil_of_length_pos
    omega
  have hheader : Packet.header ⟨pending.code, pending.received.reverse ++ rest⟩
      = first.bytes.take Packet.headerSize := by
    rw [h.code_eq]
    exact (Packet.take_header (h.marked first List.mem_cons_self) h.opens hlength).symm
  rw [Message.packets, hheader, h.received_eq, List.append_assoc,
    List.take_left' (Packet.length_drop_header first),
    List.drop_left' (Packet.length_drop_header first), List.take_append_drop,
    Packet.ofBytes_bytes, Packet.continuations_flatMap
      (fun packet hpacket => h.marked packet (List.mem_cons_of_mem _ hpacket)) hsome
      (Nat.le_trans (Nat.le_of_eq hrest) hlast)]
  rfl

/-- The packets are those of a message up to the end of its payload.  What the last one of the
message has behind this end is zero. -/
def Carries (packets : List Packet) (message : Message) : Prop :=
  ∃ earlier last written kept, packets = earlier ++ [last] ∧
    message.packets = earlier ++ [written] ∧
    -- Each of the earlier packets holds 64 bytes, one of which is the mark, but for the first one.
    kept + 63 * earlier.length = Packet.headerSize + message.payload.length ∧ kept ≤ 64 ∧
    written.bytes = last.bytes.take kept ++ List.replicate (64 - kept) 0

theorem carries_of_packets {earlier : List Packet} (kept : Nat)
    (hpackets : message.packets = earlier ++ [Packet.ofBytes (last.bytes.take kept)])
    (hend : kept + 63 * earlier.length = Packet.headerSize + message.payload.length)
    (hkept : kept ≤ 64) : Carries (earlier ++ [last]) message := by
  have hlength : (last.bytes.take kept).length = kept := by
    rw [List.length_take, last.length_bytes]
    omega
  refine ⟨earlier, last, _, kept, rfl, hpackets, hend, hkept, ?_⟩
  rw [Packet.bytes_ofBytes (by omega), hlength]

/-- A first packet carries a message whose payload fits into it. -/
theorem carries_first (hmark : first.bytes.headD 0 = Packet.reportMark) (hopens : Opens first)
    (hshort : first.announced ≤ 55) :
    Carries [first] ⟨first.code, (first.bytes.drop Packet.headerSize).take first.announced⟩ := by
  have hlength := length_take_announced hshort
  have hpackets := Message.packets_of_short
    ⟨first.code, (first.bytes.drop Packet.headerSize).take first.announced⟩
    (Nat.le_trans (Nat.le_of_eq hlength) hshort)
  rw [← Packet.take_header hmark hopens hlength, ← List.take_add] at hpackets
  show Carries ([] ++ [first]) _
  refine carries_of_packets (Packet.headerSize + first.announced) hpackets ?_ ?_
  · rw [hlength]
    rfl
  · simp only [Packet.headerSize]
    omega

/-- The packets of a pending message and the one that completes it carry this message. -/
theorem Pending.Gathers.carries (h : pending.Gathers first later)
    (hmark : last.bytes.headD 0 = Packet.reportMark) (hmissing : pending.missing ≤ 63) :
    Carries (first :: later ++ [last])
      ⟨pending.code, pending.received.reverse ++ (last.bytes.drop 1).take pending.missing⟩ := by
  have hlength := length_take_missing last hmissing
  have hreceived := h.length_received
  have htake : last.bytes.take (pending.missing + 1)
      = Packet.reportMark :: (last.bytes.drop 1).take pending.missing := by
    rw [← List.take_succ_cons, Packet.mark_cons hmark]
  refine carries_of_packets (pending.missing + 1) ?_ ?_ ?_
  · rw [htake]
    exact h.packets_eq hlength hmissing
  · simp only [List.length_append, List.length_reverse, hlength, List.length_cons,
      Packet.headerSize]
    omega
  · omega

theorem carries_of_endsWith (h : EndsWith packets (.ok (some message))) :
    message.payload.length ≤ Packet.maxPayload ∧ Carries packets message := by
  induction packets using List.reverseRecOn with
  | nil => exact absurd rfl h.ne_nil
  | append_singleton earlier last =>
    obtain ⟨assembler, hpart, hanswer⟩ := endsWith_concat_iff.1 h
    have hreceives := receives_of_push (Prod.ext hanswer rfl : assembler.push last
      = (.ok (some message), (assembler.push last).2))
    generalize (assembler.push last).2 = next at hreceives
    cases hreceives with
    | single hmark hfree hopens hshort =>
      subst hfree
      obtain rfl := hpart.eq_nil
      refine ⟨?_, carries_first hmark hopens hshort⟩
      rw [length_take_announced hshort]
      exact Nat.le_trans hshort (by decide)
    | @completes hmark pending hpending hmissing =>
      subst hpending
      obtain ⟨first, later, rfl, hgathers⟩ := hpart.gathers
      refine ⟨?_, hgathers.carries hmark hmissing⟩
      have hannounced := hgathers.missing_add
      have hbounded := hgathers.bounded
      rw [List.length_append, List.length_reverse, length_take_missing last hmissing]
      omega

/-! ## Packets that carry a message -/

/-- A first packet has the same answer as another one that agrees with it up to the end of the
payload. -/
theorem push_first_of_agree {kept : Nat} (hagree : first.Agree last kept)
    (hkept : kept = Packet.headerSize + first.announced)
    (hmark : first.bytes.headD 0 = Packet.reportMark) (hopens : Opens first)
    (hshort : first.announced ≤ 55) :
    (empty.push last).1 = .ok (some
      ⟨first.code, (first.bytes.drop Packet.headerSize).take first.announced⟩) := by
  have hheader : Packet.headerSize ≤ kept := by omega
  have hsame := hagree.announced hheader
  have hlast := receives_of_push (Prod.ext rfl rfl : empty.push last
    = ((empty.push last).1, (empty.push last).2))
  generalize (empty.push last).1 = answer, (empty.push last).2 = next at hlast
  cases hlast with
  | unmarked hother => exact absurd (hagree.mark (Nat.le_trans (by decide) hheader) ▸ hmark) hother
  | plain _ _ hplain => exact absurd (hagree.opens hheader hopens) hplain
  | oversize _ _ _ hlong =>
    have hbound : 55 ≤ Packet.maxPayload := by decide
    omega
  | single => rw [← hsame, hagree.part (Nat.le_of_eq hkept.symm), hagree.code hheader]
  | begins _ _ _ _ hmore => omega
  | goesOn _ hpending | completes _ hpending => cases hpending

/-- So does a packet that completes a message. -/
theorem push_last_of_agree {kept : Nat} (hagree : first.Agree last kept)
    (hkept : kept = 1 + pending.missing) (hmark : first.bytes.headD 0 = Packet.reportMark)
    (hmissing : pending.missing ≤ 63) :
    (push ⟨some pending⟩ last).1 = .ok (some
      ⟨pending.code, pending.received.reverse ++ (first.bytes.drop 1).take pending.missing⟩) := by
  have hlast := receives_of_push (Prod.ext rfl rfl : push ⟨some pending⟩ last
    = ((push ⟨some pending⟩ last).1, (push ⟨some pending⟩ last).2))
  generalize (push ⟨some pending⟩ last).1 = answer, (push ⟨some pending⟩ last).2 = next at hlast
  cases hlast with
  | unmarked hother => exact absurd (hagree.mark (by omega) ▸ hmark) hother
  | plain _ hfree | oversize _ hfree | single _ hfree | begins _ hfree => cases hfree
  | goesOn _ hpending hmore =>
    cases hpending
    omega
  | completes _ hpending =>
    cases hpending
    rw [hagree.part (Nat.le_of_eq hkept.symm)]

theorem Carries.endsWith (h : Carries packets message)
    (hbound : message.payload.length ≤ Packet.maxPayload) :
    EndsWith packets (.ok (some message)) := by
  obtain ⟨earlier, last, written, kept, rfl, hpackets, hend, hkept, hwritten⟩ := h
  have hagree := Packet.agree_of_append hkept hwritten
  have hends := endsWith_packets hbound
  rw [hpackets] at hends
  obtain ⟨assembler, hpart, hanswer⟩ := endsWith_concat_iff.1 hends
  have hreceives := receives_of_push (Prod.ext hanswer rfl : assembler.push written
    = (.ok (some message), (assembler.push written).2))
  refine endsWith_concat_iff.2 ⟨assembler, hpart, ?_⟩
  generalize (assembler.push written).2 = next at hreceives
  cases hreceives with
  | single hmark hfree hopens hshort =>
    subst hfree
    obtain rfl := hpart.eq_nil
    rw [length_take_announced hshort] at hend
    exact push_first_of_agree hagree hend hmark hopens hshort
  | @completes hmark pending hpending hmissing =>
    subst hpending
    obtain ⟨first, later, rfl, hgathers⟩ := hpart.gathers
    have hreceived := hgathers.length_received
    simp only [List.length_cons, List.length_append, List.length_reverse,
      length_take_missing written hmissing, Packet.headerSize] at hend
    exact push_last_of_agree hagree (by omega) hmark hmissing

/-- An assembler answers with a message to the packets of this message and to no others, if the
message is not too long.  Only what stands behind the payload in the last packet makes no
difference. -/
theorem accepts_packets_of_message_iff (packets : List Packet) (message : Message) :
    EndsWith packets (.ok (some message)) ↔
      message.payload.length ≤ Packet.maxPayload ∧ Carries packets message := by
  constructor
  · intro h
    exact carries_of_endsWith h
  · intro h
    exact h.2.endsWith h.1

end Assembler

end WalletGateway
