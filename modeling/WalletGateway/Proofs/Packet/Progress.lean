import Mathlib.Data.List.Induction
import WalletGateway.Proofs.Packet.Messages

/-!
# The progress of an assembler

Whatever packets an assembler is given, and whenever it is reset, it waits for less than it was
promised, and it does not wait for ever.

* One packet.  `Receives` has one constructor for everything that a packet can lead to, and
  `receives_of_push` finds it.
* What is pending.  `Pending.Gathers` says which packets a pending message has come from, and ties
  what has arrived to what the first one of them announces.  `Gathers.begins` and `Gathers.goesOn`
  are its steps; `gathers_after` is the invariant of a whole history, resets included.
* How long it can last.  `room` bounds the packets without an answer: `room_lt_of_push` makes it
  smaller with each of them, `length_le_room` adds this up, and `room_after_le` bounds what is left
  in any state.
-/

namespace WalletGateway

namespace Packet

variable (packet : Packet)

/-- The length of the payload that a first packet announces. -/
def announced : Nat :=
  BigEndian.value ((packet.bytes.drop 5).take 4)

/-- The kind that a first packet names. -/
def code : UInt16 :=
  UInt16.ofNat (BigEndian.value ((packet.bytes.drop 3).take 2))

@[simp] theorem length_drop_header : (packet.bytes.drop headerSize).length = 55 := by
  rw [List.length_drop, packet.length_bytes]
  rfl

@[simp] theorem length_drop_mark : (packet.bytes.drop 1).length = 63 := by
  rw [List.length_drop, packet.length_bytes]

end Packet

namespace Assembler

variable {assembler next : Assembler} {packet : Packet} {packets : List Packet}
  {answer : Except FramingError (Option Message)}

/-! ## One packet -/

/-- What a packet leads to. -/
inductive Receives (assembler : Assembler) (packet : Packet) :
    Except FramingError (Option Message) → Assembler → Prop where
  | unmarked (hmark : packet.bytes.headD 0 ≠ Packet.reportMark) :
      Receives assembler packet (.error (.invalidMark (packet.bytes.headD 0))) empty
  | plain (hmark : packet.bytes.headD 0 = Packet.reportMark) (hfree : assembler = empty)
      (hplain : ¬ Opens packet) : Receives assembler packet (.error .invalidHeader) empty
  | oversize (hmark : packet.bytes.headD 0 = Packet.reportMark) (hfree : assembler = empty)
      (hopens : Opens packet) (hlong : Packet.maxPayload < packet.announced) :
      Receives assembler packet (.error (.oversize packet.announced)) empty
  /-- The payload fits into its first packet. -/
  | single (hmark : packet.bytes.headD 0 = Packet.reportMark) (hfree : assembler = empty)
      (hopens : Opens packet) (hshort : packet.announced ≤ 55) :
      Receives assembler packet (.ok (some
        ⟨packet.code, (packet.bytes.drop Packet.headerSize).take packet.announced⟩)) empty
  | begins (hmark : packet.bytes.headD 0 = Packet.reportMark) (hfree : assembler = empty)
      (hopens : Opens packet) (hbound : packet.announced ≤ Packet.maxPayload)
      (hmore : 55 < packet.announced) :
      Receives assembler packet (.ok none) ⟨some
        ⟨packet.code, packet.announced - 55, (packet.bytes.drop Packet.headerSize).reverse⟩⟩
  | goesOn (hmark : packet.bytes.headD 0 = Packet.reportMark) {pending : Pending}
      (hpending : assembler = ⟨some pending⟩) (hmore : 63 < pending.missing) :
      Receives assembler packet (.ok none) ⟨some
        ⟨pending.code, pending.missing - 63,
          (packet.bytes.drop 1).reverse ++ pending.received⟩⟩
  | completes (hmark : packet.bytes.headD 0 = Packet.reportMark) {pending : Pending}
      (hpending : assembler = ⟨some pending⟩) (hlast : pending.missing ≤ 63) :
      Receives assembler packet (.ok (some
        ⟨pending.code,
          pending.received.reverse ++ (packet.bytes.drop 1).take pending.missing⟩)) empty

/-- What the header of a first packet comes to. -/
theorem start_bytes (packet : Packet) :
    start packet.bytes
      = if Opens packet then
          if packet.announced ≤ Packet.maxPayload then .ok ⟨packet.code, packet.announced, []⟩
          else .error (.oversize packet.announced)
        else .error .invalidHeader := by
  by_cases hopens : Opens packet
  · rw [if_pos hopens]
    by_cases hbound : packet.announced ≤ Packet.maxPayload
    · rw [if_pos hbound, start]
      exact (if_neg (not_not_intro hopens)).trans (if_neg (Nat.not_lt.2 hbound))
    · rw [if_neg hbound, start]
      exact (if_neg (not_not_intro hopens)).trans (if_pos (Nat.lt_of_not_le hbound))
  · rw [if_neg hopens]
    exact if_pos hopens

theorem receives_of_push (hpush : assembler.push packet = (answer, next)) :
    assembler.Receives packet answer next := by
  by_cases hmark : packet.bytes.headD 0 = Packet.reportMark
  · simp only [push, ne_eq, hmark, not_true_eq_false, if_false] at hpush
    rcases assembler with ⟨_ | pending⟩
    · simp only [start_bytes] at hpush
      by_cases hopens : Opens packet
      · by_cases hbound : packet.announced ≤ Packet.maxPayload
        · by_cases hmore : 55 < packet.announced
          · simp only [if_pos hopens, if_pos hbound, Pending.accept, Packet.length_drop_header,
              if_pos hmore, List.append_nil] at hpush
            obtain ⟨rfl, rfl⟩ := Prod.mk.inj hpush
            exact .begins hmark rfl hopens hbound hmore
          · simp only [if_pos hopens, if_pos hbound, Pending.accept, Packet.length_drop_header,
              if_neg hmore, List.reverse_nil, List.nil_append] at hpush
            obtain ⟨rfl, rfl⟩ := Prod.mk.inj hpush
            exact .single hmark rfl hopens (Nat.not_lt.1 hmore)
        · simp only [if_pos hopens, if_neg hbound] at hpush
          obtain ⟨rfl, rfl⟩ := Prod.mk.inj hpush
          exact .oversize hmark rfl hopens (Nat.lt_of_not_le hbound)
      · simp only [if_neg hopens] at hpush
        obtain ⟨rfl, rfl⟩ := Prod.mk.inj hpush
        exact .plain hmark rfl hopens
    · by_cases hmore : 63 < pending.missing
      · simp only [Pending.accept, Packet.length_drop_mark, if_pos hmore] at hpush
        obtain ⟨rfl, rfl⟩ := Prod.mk.inj hpush
        exact .goesOn hmark rfl hmore
      · simp only [Pending.accept, Packet.length_drop_mark, if_neg hmore] at hpush
        obtain ⟨rfl, rfl⟩ := Prod.mk.inj hpush
        exact .completes hmark rfl (Nat.not_lt.1 hmore)
  · simp only [push, ne_eq, hmark, not_false_eq_true, if_true] at hpush
    obtain ⟨rfl, rfl⟩ := Prod.mk.inj hpush
    exact .unmarked hmark

/-- An answer of any kind leaves nothing behind. -/
theorem eq_empty_of_answer (hpush : assembler.push packet = (answer, next))
    (hanswer : answer ≠ .ok none) : next = empty := by
  cases receives_of_push hpush with
  | unmarked | plain | oversize | single | completes => rfl
  | begins | goesOn => exact absurd rfl hanswer

/-! ## Packets without an answer -/

theorem feed_concat (assembler : Assembler) (packets : List Packet) (packet : Packet) :
    assembler.feed (packets ++ [packet])
      = ((assembler.feed packets).1 ++ [((assembler.feed packets).2.push packet).1],
        ((assembler.feed packets).2.push packet).2) := by
  rw [feed_append]
  rfl

/-- The packets before the one with the answer have none. -/
theorem endsWith_concat_iff :
    EndsWith (packets ++ [packet]) answer ↔
      ∃ assembler, IsPart packets assembler ∧ (assembler.push packet).1 = answer := by
  rw [EndsWith, feed_concat, List.length_append, List.length_singleton, Nat.add_sub_cancel]
  constructor
  · intro h
    obtain ⟨hnothing, hlast⟩ := List.append_inj' h rfl
    exact ⟨(empty.feed packets).2, Prod.ext hnothing rfl, List.singleton_inj.1 hlast⟩
  · intro h
    obtain ⟨assembler, hpart, hanswer⟩ := h
    rw [hpart, hanswer]

theorem isPart_concat_iff :
    IsPart (packets ++ [packet]) next ↔
      ∃ assembler, IsPart packets assembler ∧ assembler.push packet = (.ok none, next) := by
  constructor
  · intro h
    have hends : EndsWith (packets ++ [packet]) (.ok none) := by
      rw [EndsWith, h, List.length_append, List.length_singleton, Nat.add_sub_cancel,
        List.replicate_succ']
    obtain ⟨assembler, hpart, hanswer⟩ := endsWith_concat_iff.1 hends
    have hlast := congrArg Prod.snd h
    rw [feed_concat, hpart] at hlast
    exact ⟨assembler, hpart, Prod.ext hanswer hlast⟩
  · intro h
    obtain ⟨assembler, hpart, hpush⟩ := h
    exact hpart.push_none hpush

/-- A packet without an answer leaves a message pending. -/
theorem IsPart.eq_nil (h : IsPart packets empty) : packets = [] := by
  induction packets using List.reverseRecOn with
  | nil => rfl
  | append_singleton packets packet =>
    obtain ⟨assembler, -, hpush⟩ := isPart_concat_iff.1 h
    cases receives_of_push hpush

/-! ## What is pending -/

/-- The packets that a pending message has come from. -/
structure Pending.Gathers (pending : Pending) (first : Packet) (later : List Packet) : Prop where
  marked : ∀ packet ∈ first :: later, packet.bytes.headD 0 = Packet.reportMark
  opens : Opens first
  code_eq : pending.code = first.code
  received_eq : pending.received.reverse
    = first.bytes.drop Packet.headerSize ++ later.flatMap fun packet => packet.bytes.drop 1
  /-- What is missing is what is announced less what has arrived. -/
  missing_add : pending.missing + pending.received.length = first.announced
  short : pending.received.length < first.announced
  bounded : first.announced ≤ Packet.maxPayload

namespace Pending.Gathers

variable {pending : Pending} {first : Packet} {later : List Packet}

/-- Every packet is filled to the last byte. -/
theorem length_received (h : pending.Gathers first later) :
    pending.received.length = 55 + 63 * later.length := by
  have hlater : ∀ packets : List Packet,
      (packets.flatMap fun packet => packet.bytes.drop 1).length = 63 * packets.length := by
    intro packets
    induction packets with
    | nil => rfl
    | cons packet packets ih =>
      rw [List.flatMap_cons, List.length_append, Packet.length_drop_mark, ih, List.length_cons]
      omega
  have hlength := congrArg List.length h.received_eq
  rw [List.length_reverse, List.length_append, Packet.length_drop_header, hlater] at hlength
  exact hlength

theorem begins (hmark : first.bytes.headD 0 = Packet.reportMark) (hopens : Opens first)
    (hbound : first.announced ≤ Packet.maxPayload) (hmore : 55 < first.announced) :
    Gathers ⟨first.code, first.announced - 55, (first.bytes.drop Packet.headerSize).reverse⟩
      first [] where
  marked packet hpacket := by
    rw [List.mem_singleton.1 hpacket]
    exact hmark
  opens := hopens
  code_eq := rfl
  received_eq := by rw [List.reverse_reverse, List.flatMap_nil, List.append_nil]
  missing_add := by
    show first.announced - 55 + (first.bytes.drop Packet.headerSize).reverse.length
      = first.announced
    rw [List.length_reverse, Packet.length_drop_header]
    omega
  short := by
    rw [List.length_reverse, Packet.length_drop_header]
    exact hmore
  bounded := hbound

theorem goesOn (h : pending.Gathers first later) {packet : Packet}
    (hmark : packet.bytes.headD 0 = Packet.reportMark) (hmore : 63 < pending.missing) :
    Gathers ⟨pending.code, pending.missing - 63, (packet.bytes.drop 1).reverse ++ pending.received⟩
      first (later ++ [packet]) where
  marked other hother := by
    rcases List.mem_append.1 (List.cons_append ▸ hother) with hbefore | hlast
    · exact h.marked other hbefore
    · rw [List.mem_singleton.1 hlast]
      exact hmark
  opens := h.opens
  code_eq := h.code_eq
  received_eq := by
    rw [List.reverse_append, List.reverse_reverse, h.received_eq, List.flatMap_append,
      List.flatMap_singleton, List.append_assoc]
  missing_add := by
    have hmissing := h.missing_add
    simp only [List.length_append, List.length_reverse, Packet.length_drop_mark]
    omega
  short := by
    have hmissing := h.missing_add
    simp only [List.length_append, List.length_reverse, Packet.length_drop_mark]
    omega
  bounded := h.bounded

end Pending.Gathers

/-- A packet without an answer is added to those that a message is gathered from, or begins one. -/
theorem gathers_of_push (hpush : assembler.push packet = (.ok none, next)) :
    ∃ pending, next = ⟨some pending⟩ ∧
      ((assembler = empty ∧ pending.Gathers packet []) ∨
        ∃ before, assembler = ⟨some before⟩ ∧ ∀ first later, before.Gathers first later →
          pending.Gathers first (later ++ [packet])) := by
  cases receives_of_push hpush with
  | begins hmark hfree hopens hbound hmore =>
    exact ⟨_, rfl, Or.inl ⟨hfree, .begins hmark hopens hbound hmore⟩⟩
  | @goesOn hmark before hpending hmore =>
    exact ⟨_, rfl, Or.inr ⟨before, hpending, fun _ _ hbefore => hbefore.goesOn hmark hmore⟩⟩

/-- What is done to an assembler. -/
inductive Input where
  | push (packet : Packet)
  | reset

/-- The assembler after an input. -/
def handle (assembler : Assembler) : Input → Assembler
  | .push packet => (assembler.push packet).2
  | .reset => assembler.reset

/-- A new assembler after several inputs. -/
def after (inputs : List Input) : Assembler :=
  inputs.foldl handle empty

theorem after_concat (inputs : List Input) (input : Input) :
    after (inputs ++ [input]) = (after inputs).handle input := by
  rw [after, List.foldl_append, List.foldl_cons, List.foldl_nil, after]

/-- A message is pending only while the last inputs are its own packets. -/
theorem gathers_after {inputs : List Input} {pending : Pending}
    (hpending : after inputs = ⟨some pending⟩) :
    ∃ earlier first later, inputs = earlier ++ .push first :: later.map .push ∧
      pending.Gathers first later := by
  induction inputs using List.reverseRecOn generalizing pending with
  | nil => cases hpending
  | append_singleton inputs input ih =>
    rw [after_concat] at hpending
    cases input with
    | reset => cases hpending
    | push packet =>
      have hpush : (after inputs).push packet = (((after inputs).push packet).1, ⟨some pending⟩) :=
        Prod.ext rfl hpending
      by_cases hanswer : ((after inputs).push packet).1 = .ok none
      · rw [hanswer] at hpush
        obtain ⟨next, hnext, hcases⟩ := gathers_of_push hpush
        obtain rfl := Option.some.inj (Assembler.mk.inj hnext)
        rcases hcases with ⟨-, hfirst⟩ | ⟨before, hbefore, hstep⟩
        · exact ⟨inputs, packet, [], rfl, hfirst⟩
        · obtain ⟨earlier, first, later, hinputs, hgathers⟩ := ih hbefore
          refine ⟨earlier, first, later ++ [packet], ?_, hstep first later hgathers⟩
          rw [hinputs, List.map_append, List.map_singleton, List.append_assoc, List.cons_append]
      · cases eq_empty_of_answer hpush hanswer

/-- Packets without an answer gather a message, from the first of them on. -/
theorem IsPart.gathers {pending : Pending} (h : IsPart packets ⟨some pending⟩) :
    ∃ first later, packets = first :: later ∧ pending.Gathers first later := by
  induction packets using List.reverseRecOn generalizing pending with
  | nil => cases (Prod.mk.inj h).2
  | append_singleton packets packet ih =>
    obtain ⟨assembler, hpart, hpush⟩ := isPart_concat_iff.1 h
    obtain ⟨next, hnext, hcases⟩ := gathers_of_push hpush
    obtain rfl := Option.some.inj (Assembler.mk.inj hnext)
    rcases hcases with ⟨rfl, hfirst⟩ | ⟨before, rfl, hstep⟩
    · rw [hpart.eq_nil]
      exact ⟨packet, [], rfl, hfirst⟩
    · obtain ⟨first, later, rfl, hgathers⟩ := ih hpart
      exact ⟨first, later ++ [packet], rfl, hstep first later hgathers⟩

/-! ## How long it can last -/

/-- How many packets can go without an answer. -/
def room (assembler : Assembler) : Nat :=
  match assembler.pending with
  | none => (Packet.maxPayload - 55 - 1) / 63 + 1
  | some pending => (pending.missing - 1) / 63

theorem room_empty : empty.room = 16644 := by decide

/-- A packet without an answer takes up room. -/
theorem room_lt_of_push (hpush : assembler.push packet = (.ok none, next)) :
    next.room < assembler.room := by
  cases receives_of_push hpush with
  | begins _ hfree _ hbound hmore =>
    subst hfree
    show (packet.announced - 55 - 1) / 63 < (Packet.maxPayload - 55 - 1) / 63 + 1
    omega
  | @goesOn _ pending hpending hmore =>
    subst hpending
    show (pending.missing - 63 - 1) / 63 < (pending.missing - 1) / 63
    omega

theorem length_le_room (h : ∀ answer ∈ (assembler.feed packets).1, answer = .ok none) :
    packets.length ≤ assembler.room := by
  induction packets generalizing assembler with
  | nil => exact Nat.zero_le _
  | cons packet packets ih =>
    simp only [feed, List.forall_mem_cons] at h
    have hpush : assembler.push packet = (.ok none, (assembler.push packet).2) := Prod.ext h.1 rfl
    have hlt := room_lt_of_push hpush
    have hrest := ih h.2
    rw [List.length_cons]
    omega

/-- There is never more room than in a new assembler. -/
theorem room_after_le (inputs : List Input) : (after inputs).room ≤ empty.room := by
  cases hafter : after inputs with
  | mk pending =>
    cases pending with
    | none => exact Nat.le_refl _
    | some pending =>
      obtain ⟨earlier, first, later, -, hgathers⟩ := gathers_after hafter
      have hmissing := hgathers.missing_add
      have hreceived := hgathers.length_received
      have hbound := hgathers.bounded
      show (pending.missing - 1) / 63 ≤ (Packet.maxPayload - 55 - 1) / 63 + 1
      omega

theorem IsPart.length_le (h : IsPart packets assembler) : packets.length ≤ 16644 := by
  rw [← room_empty]
  apply length_le_room
  rw [h]
  intro answer hanswer
  exact List.eq_of_mem_replicate hanswer

theorem EndsWith.length_le (h : EndsWith packets answer) : packets.length ≤ 16645 := by
  induction packets using List.reverseRecOn with
  | nil => exact Nat.zero_le _
  | append_singleton packets packet =>
    obtain ⟨assembler, hpart, -⟩ := endsWith_concat_iff.1 h
    have hlength := hpart.length_le
    rw [List.length_append, List.length_singleton]
    omega

end Assembler

end WalletGateway
