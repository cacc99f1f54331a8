import WalletGateway.Proofs.Link.Custody
import WalletGateway.Proofs.Packet.Progress

/-!
# Reading comes to an end

A call reads packets until one of them has an answer.  Since an assembler has room for a bounded
number of packets without one, no call reads for ever, whatever arrives on its connection.

* `Served.length_le`, `Served.length_lt_of_exchanging`: what one exchange reads.
* `Custody.length_takenBy_le`: what any call reads.
* `assembling_ends` puts this together with what holds of an assembler through pushes and resets.
-/

namespace WalletGateway

namespace Link.Served

variable {link : Link} {connection index : Nat} {packets : List Packet}

theorem length_le (h : link.Served connection index packets) : packets.length ≤ 16645 := by
  cases h with
  | reads _ hpart | dropped _ hpart | failed _ hpart => exact Nat.le_succ_of_le hpart.length_le
  | returned _ hwhole => exact hwhole.endsWith.length_le
  | refused _ hends => exact hends.length_le

/-- An exchange that has read as many packets as there can be is over. -/
theorem length_lt_of_exchanging (h : link.Served connection index packets) {other epoch : Nat}
    {assembler : Assembler}
    (hstage : link.calls[index]? = some (.exchanging other epoch assembler)) :
    packets.length < 16645 := by
  cases h with
  | reads _ hpart => exact Nat.lt_succ_of_le hpart.length_le
  | dropped hover | returned hover | failed hover | refused hover =>
    rw [hstage] at hover
    cases hover

end Link.Served

namespace Chronicle

variable {chronicle : Chronicle}

theorem Custody.length_takenBy_le (h : chronicle.Custody) (index : Nat) :
    (chronicle.takenBy index).length ≤ 16645 := by
  by_cases hknown : index ∈ chronicle.exchanges.map Prod.snd
  · obtain ⟨⟨connection, _⟩, hexchange, rfl⟩ := List.mem_map.1 hknown
    exact (h.served hexchange).length_le
  · have hnothing : chronicle.takenBy index = [] :=
      entriesAt_eq_nil fun _ hpacket => hknown (h.known hpacket)
    rw [hnothing]
    exact Nat.zero_le _

/-- A message is pending only while its own packets have come last, and then fewer bytes have
arrived than its first packet announces, which are not too many.  A packet with an answer leaves
nothing pending, whatever the answer is.  No more than 16644 packets in a row have none, and so no
call reads more than 16645 packets, whatever arrives. -/
theorem assembling_ends (inputs : List Assembler.Input) {patience : Nat}
    {events : List LinkEvent} {last : Chronicle} (hrun : (fresh patience).run events = some last) :
    (∀ pending, (Assembler.after inputs).pending = some pending →
      ∃ earlier first later, inputs = earlier ++ .push first :: later.map .push ∧
        pending.Gathers first later ∧
        pending.received.length < first.announced ∧ first.announced ≤ Packet.maxPayload) ∧
    (∀ packet, ((Assembler.after inputs).push packet).1 ≠ .ok none →
      ((Assembler.after inputs).push packet).2 = .empty) ∧
    (∀ packets, (∀ answer ∈ ((Assembler.after inputs).feed packets).1, answer = .ok none) →
      packets.length ≤ 16644) ∧
    ∀ index, (last.takenBy index).length ≤ 16645 ∧
      ∀ connection epoch assembler,
        last.link.calls[index]? = some (.exchanging connection epoch assembler) →
          (last.takenBy index).length < 16645 := by
  have hcustody := (Custody.fresh patience).run hrun
  refine ⟨?_, ?_, ?_, ?_⟩
  · intro pending hpending
    have hafter : Assembler.after inputs = ⟨some pending⟩ := congrArg Assembler.mk hpending
    obtain ⟨earlier, first, later, hinputs, hgathers⟩ := Assembler.gathers_after hafter
    exact ⟨earlier, first, later, hinputs, hgathers, hgathers.short, hgathers.bounded⟩
  · intro packet hanswer
    exact Assembler.eq_empty_of_answer (Prod.ext rfl rfl) hanswer
  · intro packets hsilent
    have hroom := Assembler.room_after_le inputs
    rw [Assembler.room_empty] at hroom
    exact Nat.le_trans (Assembler.length_le_room hsilent) hroom
  · intro index
    refine ⟨hcustody.length_takenBy_le index, ?_⟩
    intro connection epoch assembler hstage
    exact (hcustody.served (hcustody.reading hstage)).length_lt_of_exchanging hstage

/-- The first one of two packets has arrived.  The call waits for the other one, and so does an
assembler that has got the same packet. -/
theorem second_packet_is_awaited :
    let reply : Message := ⟨2, List.replicate 118 0⟩
    let received := reply.packets.take 1
    let inputs := received.map Assembler.Input.push
    let events : List LinkEvent :=
      [.call ⟨0, []⟩, .proceed 0, .arrive (received.map .ok), .proceed 0]
    ∃ last pending, (fresh 10000).run events = some last ∧ last.takenBy 0 = received ∧
      (Assembler.after inputs).pending = some pending ∧
      (∃ earlier first later, inputs = earlier ++ .push first :: later.map .push ∧
        pending.Gathers first later ∧
        pending.received.length < first.announced ∧ first.announced ≤ Packet.maxPayload) ∧
      (last.takenBy 0).length < 16645 := by
  intro reply received inputs events
  have hruns : ((fresh 10000).run events).any fun last =>
      last.takenBy 0 = received ∧
        last.link.calls[0]? = some (.exchanging 0 0 (Assembler.after inputs)) := by
    decide +kernel
  have hpends : (Assembler.after inputs).pending.isSome := by decide +kernel
  obtain ⟨last, hlast, hread⟩ := (Option.any_eq_true _ _).1 hruns
  obtain ⟨htaken, hstage⟩ := of_decide_eq_true hread
  obtain ⟨pending, hpending⟩ := Option.isSome_iff_exists.1 hpends
  obtain ⟨hgathers, -, -, hreads⟩ := assembling_ends inputs hlast
  exact ⟨last, pending, hlast, htaken, hpending, hgathers pending hpending,
    (hreads 0).2 0 0 _ hstage⟩

end Chronicle

end WalletGateway
