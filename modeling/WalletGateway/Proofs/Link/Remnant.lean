import WalletGateway.Proofs.Link.Custody

/-!
# The reply to a call that was dropped

A call that is dropped leaves its connection open, and its reply, or what it has not read of it, to
the next exchange there.  This exchange returns the reply if the call had read nothing of it, and
fails on its first packet otherwise (`reply_of_dropped_call_is_read_by_next_exchange`).

* `Inherits`: a call gets the reply to another one.
* `ComesBehind`: an exchange comes behind others that have read a part of a reply.  What it reads is
  decided then (`next_isPrefix`), and so is whether a later call gets the reply
  (`inherits_iff_of_nothing` and `inherits_iff_of_part`).
* `Custody.dropped_of_run`: what a call leaves behind when it is dropped.
-/

namespace WalletGateway.Chronicle

variable {chronicle start last : Chronicle} {events : List LinkEvent} {connection index : Nat}

/-! ## Runs -/

theorem run_append (chronicle : Chronicle) (first second : List LinkEvent) :
    chronicle.run (first ++ second) = (chronicle.run first).bind fun next => next.run second := by
  induction first generalizing chronicle with
  | nil => rfl
  | cons event first ih =>
    simp only [List.cons_append, run]
    cases chronicle.step event with
    | none => rfl
    | some next => exact ih next

/-- The calls that have had an exchange stay on record. -/
theorem callsOn_isPrefix (hrun : start.run events = some last) (connection : Nat) :
    start.callsOn connection <+: last.callsOn connection := by
  refine run_induction (fun other => start.callsOn connection <+: other.callsOn connection) hrun
    List.prefix_rfl fun hbefore _ => hbefore.trans ?_
  rw [callsOn_record]
  exact List.prefix_append _ _

/-- A call that is over reads nothing any more. -/
theorem Custody.over_of_run (h : start.Custody) {stage : CallStage}
    (hstage : start.link.calls[index]? = some stage) (hover : stage.isGoing = false)
    (hrun : start.run events = some last) :
    last.link.calls[index]? = some stage ∧ last.takenBy index = start.takenBy index := by
  refine (run_induction (fun other => other.Custody ∧ other.link.calls[index]? = some stage ∧
    other.takenBy index = start.takenBy index) hrun ⟨h, hstage, rfl⟩ ?_).2
  rintro middle event next ⟨hcustody, hkept, htaken⟩ hstep
  have hmoves := Link.moves_of_step hstep
  have hevent : event ≠ .proceed index := by
    rintro rfl
    rw [hmoves.going hkept] at hover
    contradiction
  exact ⟨hcustody.record hstep, hmoves.over_eq hcustody.coherent hkept hover,
    (takenBy_record_of_ne hevent).trans htaken⟩

/-- Nothing begins any more on a connection that is closed. -/
theorem callsOn_of_isOver (hover : start.link.IsOver connection)
    (hrun : start.run events = some last) :
    last.callsOn connection = start.callsOn connection := by
  refine (run_induction (fun other => other.link.IsOver connection ∧
    other.callsOn connection = start.callsOn connection) hrun ⟨hover, rfl⟩ ?_).2
  rintro middle event next ⟨hclosed, hsame⟩ hstep
  have hnone : entriesAt (middle.link.begins? event).toList connection = [] :=
    entriesAt_eq_nil fun index hindex => hclosed.begins? (Option.mem_toList.1 hindex)
  refine ⟨(hclosed.writes (Link.moves_of_step hstep).writes).1, ?_⟩
  rw [callsOn_record, hnone, List.append_nil]
  exact hsame

/-- When an exchange is under way, the calls that have had one before are over. -/
theorem Custody.over_of_exchanging (h : start.Custody) {epoch other call : Nat}
    {assembler : Assembler}
    (hstage : start.link.calls[index]? = some (.exchanging connection epoch assembler))
    (hexchange : (other, call) ∈ start.exchanges) (hne : call ≠ index) :
    ∃ stage, start.link.calls[call]? = some stage ∧ stage.isGoing = false := by
  cases h.served hexchange with
  | reads hother =>
    exact absurd (h.coherent.eq_of_exchanging (h.coherent.reading hstage).1 hother) hne
  | dropped hother | returned hother | failed hother | refused hother => exact ⟨_, hother, rfl⟩

/-! ## Replies to other calls -/

/-- The packets that were read on a connection before the exchange of a call. -/
def takenBefore (chronicle : Chronicle) (connection index : Nat) : List Packet :=
  ((chronicle.callsOn connection).takeWhile (· ≠ index)).flatMap chronicle.takenBy

theorem takenBefore_eq {before behind : List Nat}
    (hsplit : chronicle.callsOn connection = before ++ index :: behind) (hnot : index ∉ before) :
    chronicle.takenBefore connection index = before.flatMap chronicle.takenBy := by
  have hall : ∀ call ∈ before, decide (call ≠ index) = true :=
    fun call hcall => decide_eq_true fun hsame => hnot (hsame ▸ hcall)
  rw [takenBefore, hsplit, List.takeWhile_append_of_pos hall, List.takeWhile_cons_of_neg (by simp),
    List.append_nil]

/-- A call is dropped while it reads.  What was read before is as it was. -/
theorem Custody.dropped_of_run (h : start.Custody) {epoch : Nat} {assembler : Assembler}
    (hflight : start.link.calls[index]? = some (.exchanging connection epoch assembler))
    (hafter : start.run (.drop index :: events) = some last) :
    last.link.calls[index]? = some .dropped ∧
      ∃ before, start.callsOn connection = before ++ [index] ∧
        start.takenBefore connection index = before.flatMap last.takenBy := by
  obtain ⟨before, hsplit, hnot⟩ := h.last_of_exchanging hflight
  obtain ⟨middle, hmiddle, hrest⟩ := Option.bind_eq_some_iff.1 hafter
  obtain ⟨link, hlink, rfl⟩ := Option.map_eq_some_iff.1 hmiddle
  have hdropped : link.calls[index]? = some .dropped := by
    cases Link.moves_of_step hlink with
    | drop => exact List.getElem?_set_self (List.getElem?_eq_some_iff.1 hflight).1
  refine ⟨((h.record hlink).over_of_run hdropped rfl hrest).1, before, hsplit, ?_⟩
  rw [takenBefore_eq hsplit hnot, List.flatMap_def, List.flatMap_def]
  refine congrArg List.flatten (List.map_congr_left fun call hcall => ?_)
  have hexchange : (connection, call) ∈ start.exchanges := by
    refine mem_entriesAt.1 (?_ : call ∈ start.callsOn connection)
    rw [hsplit]
    exact List.mem_append_left _ hcall
  obtain ⟨stage, hstage, hover⟩ :=
    h.over_of_exchanging hflight hexchange fun hsame => hnot (hsame ▸ hcall)
  exact (h.over_of_run hstage hover hafter).2.symm

/-- A reply stands on a connection behind some packets.  A call gets it as its own. -/
inductive Inherits (chronicle : Chronicle) (connection : Nat) (before : List Packet)
    (reply : Message) (index : Nat) : Prop where
  /-- It returns the reply. -/
  | returns (hended : chronicle.link.calls[index]? = some (.ended (.ok reply)))
      (hbefore : chronicle.takenBefore connection index = before)
      (htaken : chronicle.takenBy index = reply.packets)
  /-- It fails because of a packet of the reply. -/
  | fails {error : FramingError}
      (hended : chronicle.link.calls[index]? = some (.ended (.error (.framing error))))
      (hends : Assembler.EndsWith (chronicle.takenBy index) (.error error))
      (hwithin : chronicle.takenBefore connection index ++ chronicle.takenBy index
        <+: before ++ reply.packets)

theorem not_inherits_of_dropped {before : List Packet} {reply : Message}
    (hstage : chronicle.link.calls[index]? = some .dropped) :
    ¬ chronicle.Inherits connection before reply index := by
  intro hinherits
  cases hinherits with
  | returns hended | fails hended =>
    rw [hstage] at hended
    simp at hended

/-! ## Behind a part of a reply -/

section Remnant

variable {next : Nat} {before gone behind : List Nat} {reply : Message} {rest : List Packet}

/-- On a connection some exchanges have read a part of a reply, and another one comes behind
them. -/
structure ComesBehind (last : Chronicle) (connection : Nat) (before gone : List Nat)
    (next : Nat) (behind : List Nat) (reply : Message) (rest : List Packet) : Prop where
  custody : last.Custody
  split : last.callsOn connection = before ++ gone ++ next :: behind
  stream : last.stream connection
    <+: before.flatMap last.takenBy ++ reply.packets ++ rest
  part : (gone.flatMap last.takenBy).length < reply.packets.length
  valid : reply.payload.length ≤ Packet.maxPayload
  stays : last.link.calls[next]? ≠ some .dropped

namespace ComesBehind

theorem served (h : last.ComesBehind connection before gone next behind reply rest) :
    last.link.Served connection next (last.takenBy next) := by
  refine h.custody.served (mem_entriesAt.1 (?_ : next ∈ last.callsOn connection))
  rw [h.split]
  exact List.mem_append_right _ List.mem_cons_self

/-- The packets are read in order. -/
theorem taken_isPrefix (h : last.ComesBehind connection before gone next behind reply rest) :
    gone.flatMap last.takenBy ++ last.takenBy next <+: reply.packets ++ rest := by
  have hstream := h.stream
  rw [h.custody.unread, h.split] at hstream
  simp only [List.flatMap_append, List.flatMap_cons, List.append_assoc,
    List.prefix_append_right_inj] at hstream
  refine List.IsPrefix.trans ?_ hstream
  rw [List.prefix_append_right_inj]
  exact List.prefix_append _ _

theorem gone_eq (h : last.ComesBehind connection before gone next behind reply rest) :
    gone.flatMap last.takenBy
      = reply.packets.take (gone.flatMap last.takenBy).length := by
  refine List.prefix_iff_eq_take.1 (List.prefix_of_prefix_length_le
    ((List.prefix_append _ _).trans h.taken_isPrefix) (List.prefix_append _ rest) ?_)
  exact Nat.le_of_lt h.part

theorem gone_append (h : last.ComesBehind connection before gone next behind reply rest) :
    gone.flatMap last.takenBy ++ reply.packets.drop (gone.flatMap last.takenBy).length
      = reply.packets := calc
  _ = reply.packets.take (gone.flatMap last.takenBy).length
        ++ reply.packets.drop (gone.flatMap last.takenBy).length := congrArg (· ++ _) h.gone_eq
  _ = reply.packets := List.take_append_drop _ _

/-- The next exchange reads what is left of the reply. -/
theorem next_isPrefix (h : last.ComesBehind connection before gone next behind reply rest) :
    last.takenBy next
      <+: reply.packets.drop (gone.flatMap last.takenBy).length ++ rest := by
  have hreply : reply.packets ++ rest = gone.flatMap last.takenBy
      ++ (reply.packets.drop (gone.flatMap last.takenBy).length ++ rest) := by
    rw [← List.append_assoc, h.gone_append]
  have hpre := h.taken_isPrefix
  rw [hreply, List.prefix_append_right_inj] at hpre
  exact hpre

theorem takenBefore_eq (h : last.ComesBehind connection before gone next behind reply rest) :
    last.takenBefore connection next
      = before.flatMap last.takenBy ++ gone.flatMap last.takenBy := by
  have hascending := h.custody.callsOn_ascending connection
  rw [h.split, List.pairwise_append] at hascending
  rw [Chronicle.takenBefore_eq h.split, List.flatMap_append]
  exact fun hself => Nat.lt_irrefl _ (hascending.2.2 next hself next List.mem_cons_self)

/-- There is another exchange behind this one only if it has returned a message. -/
theorem whole_of_behind (h : last.ComesBehind connection before gone next behind reply rest)
    (hbehind : index ∈ behind) :
    ∃ message, Assembler.IsWhole (last.takenBy next) message := by
  have hplace : (last.callsOn connection)[(before ++ gone).length]? = some next := by
    rw [h.split, List.getElem?_append_right (Nat.le_refl _), Nat.sub_self]
    rfl
  have hmore : (before ++ gone).length + 1 < (last.callsOn connection).length := by
    have := List.length_pos_of_mem hbehind
    simp only [h.split, List.length_append, List.length_cons]
    omega
  rcases h.custody.replaced hplace hmore with hdropped | ⟨message, hreturned⟩
  · exact absurd hdropped h.stays
  · cases h.served with
    | returned _ hwhole => exact ⟨_, hwhole⟩
    | dropped hstage | reads hstage | failed hstage | refused hstage =>
      rw [hreturned] at hstage
      simp at hstage

/-- Where nothing of the reply has been read, a later call gets it exactly if the next exchange has
read all of it. -/
theorem inherits_iff_of_nothing (h : last.ComesBehind connection before gone next behind reply rest)
    (hgone : ∀ call ∈ gone, last.link.calls[call]? = some .dropped)
    (hnothing : gone.flatMap last.takenBy = []) :
    (∃ call ∈ gone ++ next :: behind,
        last.Inherits connection (before.flatMap last.takenBy) reply call) ↔
      reply.packets <+: last.takenBy next := by
  have hreply := Assembler.endsWith_packets h.valid
  have hbefore : last.takenBefore connection next = before.flatMap last.takenBy := by
    rw [h.takenBefore_eq, hnothing, List.append_nil]
  refine ⟨fun ⟨call, hcall, hinherits⟩ => ?_, fun hread => ?_⟩
  · rcases List.mem_append.1 hcall with hdropped | hlater
    · exact absurd hinherits (not_inherits_of_dropped (hgone call hdropped))
    rcases List.mem_cons.1 hlater with rfl | hbehind
    · cases hinherits with
      | returns _ _ htaken => exact htaken ▸ List.prefix_rfl
      | fails _ hends hwithin =>
        rw [hbefore, List.prefix_append_right_inj] at hwithin
        have hsame := (hreply.eq_of_isPrefix hends (by simp) hwithin).2
        contradiction
    · obtain ⟨message, hwhole⟩ := h.whole_of_behind hbehind
      have hpre := h.next_isPrefix
      rw [hnothing, List.length_nil, List.drop_zero] at hpre
      rcases List.prefix_or_prefix_of_prefix hpre (List.prefix_append _ rest) with hpart | hall
      · exact (hreply.eq_of_isPrefix hwhole.endsWith (by simp) hpart).1 ▸ List.prefix_rfl
      · exact hall
  · obtain ⟨hsame, ⟨message, hmessage, hended⟩ | ⟨error, herror, -⟩⟩ :=
      h.served.decided h.stays hreply (by simp) hread
    · obtain rfl := Option.some.inj (Except.ok.inj hmessage)
      exact ⟨next, List.mem_append_right _ List.mem_cons_self, .returns hended hbefore hsame.symm⟩
    · contradiction

/-- Where a part of the reply has been read, a later call gets it, and fails, exactly if the next
exchange has read anything, unless the packet that comes next has the marks of a first packet. -/
theorem inherits_iff_of_part (h : last.ComesBehind connection before gone next behind reply rest)
    (hgone : ∀ call ∈ gone, last.link.calls[call]? = some .dropped)
    (hpart : gone.flatMap last.takenBy ≠ []) {packet : Packet}
    (hpacket : reply.packets[(gone.flatMap last.takenBy).length]? = some packet)
    (hplain : ¬ Assembler.Opens packet) :
    (∃ call ∈ gone ++ next :: behind,
        last.Inherits connection (before.flatMap last.takenBy) reply call) ↔
      last.takenBy next ≠ [] := by
  have hrefused := Assembler.endsWith_of_not_opens (List.mem_of_getElem? hpacket) hplain
  refine ⟨fun ⟨call, hcall, hinherits⟩ => ?_, fun hread => ?_⟩
  · rcases List.mem_append.1 hcall with hdropped | hlater
    · exact absurd hinherits (not_inherits_of_dropped (hgone call hdropped))
    rcases List.mem_cons.1 hlater with rfl | hbehind
    · cases hinherits with
      | returns _ hbefore =>
        rw [h.takenBefore_eq, List.append_right_eq_self] at hbefore
        exact absurd hbefore hpart
      | fails _ hends => exact hends.ne_nil
    · obtain ⟨message, hwhole⟩ := h.whole_of_behind hbehind
      exact hwhole.endsWith.ne_nil
  · have hleft : reply.packets.drop (gone.flatMap last.takenBy).length
        = packet :: reply.packets.drop ((gone.flatMap last.takenBy).length + 1) := by
      obtain ⟨hlt, rfl⟩ := List.getElem?_eq_some_iff.1 hpacket
      exact List.drop_eq_getElem_cons hlt
    have hfirst : [packet] <+: last.takenBy next := by
      obtain ⟨first, packets, hsome⟩ := List.exists_cons_of_ne_nil hread
      have hpre := h.next_isPrefix
      rw [hleft, hsome, List.cons_append, List.cons_prefix_cons] at hpre
      rw [hsome, hpre.1]
      exact List.cons_prefix_cons.2 ⟨rfl, List.nil_prefix⟩
    obtain ⟨hsame, ⟨_, hmessage, -⟩ | ⟨error, herror, hended⟩⟩ :=
      h.served.decided h.stays hrefused (by simp) hfirst
    · contradiction
    · obtain rfl := Except.error.inj herror
      refine ⟨next, List.mem_append_right _ List.mem_cons_self, .fails hended ?_ ?_⟩
      · rw [← hsame]
        exact hrefused
      · have hwithin : gone.flatMap last.takenBy ++ [packet] <+: gone.flatMap last.takenBy
            ++ reply.packets.drop (gone.flatMap last.takenBy).length := by
          rw [List.prefix_append_right_inj, hleft]
          exact List.cons_prefix_cons.2 ⟨rfl, List.nil_prefix⟩
        rw [h.gone_append] at hwithin
        rw [h.takenBefore_eq, ← hsame, List.append_assoc, List.prefix_append_right_inj]
        exact hwithin

end ComesBehind

end Remnant

/-! ## All runs -/

/-- A call is dropped while it reads its reply, and the device sends the whole reply, in whatever
parts and at whatever time.  If the connection is closed before another exchange begins there, then
no exchange begins there any more.  Otherwise the next call on the connection that is not dropped
itself goes on reading where the dropped ones have stopped.  A later call gets the reply to the
dropped one in two cases only: if nothing of it had been read, and the next call has read all of it,
which it then returns; or if a part of it had been read, and the next call has read anything, which
makes it fail.  (A packet in the middle of the reply that happens to have the marks of a first
packet is taken for one.) -/
theorem reply_of_dropped_call_is_read_by_next_exchange {patience : Nat}
    {before after : List LinkEvent} {start last : Chronicle} {dropped connection epoch : Nat}
    {assembler : Assembler} {reply : Message} {rest : List Packet}
    (hbefore : (fresh patience).run before = some start)
    (hflight : start.link.calls[dropped]? = some (.exchanging connection epoch assembler))
    (hafter : start.run (.drop dropped :: after) = some last)
    (hvalid : reply.payload.length ≤ Packet.maxPayload)
    (hreply : last.stream connection
      <+: start.takenBefore connection dropped ++ reply.packets ++ rest) :
    ∃ later, last.callsOn connection = start.callsOn connection ++ later ∧
      (∀ {soon more : List LinkEvent} {closed : Chronicle}, after = soon ++ more →
        start.run (.drop dropped :: soon) = some closed →
          closed.callsOn connection = start.callsOn connection →
            closed.link.IsOver connection → later = []) ∧
      ∀ {gone : List Nat} {next : Nat} {behind : List Nat}, later = gone ++ next :: behind →
        (∀ call ∈ gone, last.link.calls[call]? = some .dropped) →
        last.link.calls[next]? ≠ some .dropped →
        ∀ {count : Nat}, count = ((dropped :: gone).flatMap last.takenBy).length →
          count < reply.packets.length →
          (dropped :: gone).flatMap last.takenBy = reply.packets.take count ∧
          last.takenBy next <+: reply.packets.drop count ++ rest ∧
          (count = 0 →
            ((∃ call ∈ later, last.Inherits connection (start.takenBefore connection dropped)
                reply call) ↔ reply.packets <+: last.takenBy next)) ∧
          ∀ {packet : Packet}, 0 < count → reply.packets[count]? = some packet →
            ¬ Assembler.Opens packet →
            ((∃ call ∈ later, last.Inherits connection (start.takenBefore connection dropped)
                reply call) ↔ last.takenBy next ≠ []) := by
  have hstart := (Custody.fresh patience).run hbefore
  have hlast := hstart.run hafter
  obtain ⟨hgone, calls, hsplit, htaken⟩ := hstart.dropped_of_run hflight hafter
  obtain ⟨later, hlater⟩ := callsOn_isPrefix hafter connection
  refine ⟨later, hlater.symm, fun {soon more closed} hsoon hclosed hsame hover => ?_,
    fun {gone next behind} hnext hothers hstays count hcount hpart => ?_⟩
  · rw [hsoon, ← List.cons_append, run_append, hclosed] at hafter
    have hrest := callsOn_of_isOver hover hafter
    rw [hsame, ← hlater, List.append_right_eq_self] at hrest
    exact hrest
  · subst hcount
    have hcalls : ∀ call ∈ dropped :: gone, last.link.calls[call]? = some .dropped := by
      intro call hcall
      rcases List.mem_cons.1 hcall with rfl | hother
      · exact hgone
      · exact hothers call hother
    have hbehind : last.ComesBehind connection calls (dropped :: gone) next behind reply rest :=
      ⟨hlast, by rw [← hlater, hsplit, hnext]; simp, htaken ▸ hreply, hpart, hvalid, hstays⟩
    have hiff : (∃ call ∈ later, last.Inherits connection (start.takenBefore connection dropped)
        reply call) ↔ ∃ call ∈ (dropped :: gone) ++ next :: behind,
          last.Inherits connection (calls.flatMap last.takenBy) reply call := by
      rw [htaken, hnext, List.cons_append]
      refine ⟨fun ⟨call, hcall, h⟩ => ⟨call, List.mem_cons_of_mem _ hcall, h⟩,
        fun ⟨call, hcall, h⟩ => ?_⟩
      rcases List.mem_cons.1 hcall with rfl | hother
      · exact absurd h (not_inherits_of_dropped hgone)
      · exact ⟨call, hother, h⟩
    refine ⟨hbehind.gone_eq, hbehind.next_isPrefix, fun hnothing => ?_,
      fun {packet} hsome hpacket hplain => ?_⟩
    · rw [hiff, hbehind.inherits_iff_of_nothing hcalls (List.length_eq_zero_iff.1 hnothing)]
    · have hread := List.ne_nil_of_length_pos hsome
      rw [hiff, hbehind.inherits_iff_of_part hcalls hread hpacket hplain]

/-- A call is dropped when it has read the first packet of its reply.  The next call reads the
second one, and fails. -/
theorem second_packet_fails_next_call :
    let reply : Message := ⟨2, List.replicate 56 0⟩
    ∃ start last : Chronicle,
      (fresh 10000).run [.call DeviceRequest.backup.message, .proceed 0,
        .arrive ((reply.packets.take 1).map .ok), .proceed 0] = some start ∧
      (∃ assembler, start.link.calls[0]? = some (.exchanging 0 0 assembler)) ∧
      start.run [.drop 0, .call DeviceRequest.wipe.message, .proceed 1,
        .arrive ((reply.packets.drop 1).map .ok), .proceed 1] = some last ∧
      reply.payload.length ≤ Packet.maxPayload ∧
      last.stream 0 <+: start.takenBefore 0 0 ++ reply.packets ++ [] ∧
      last.callsOn 0 = start.callsOn 0 ++ [1] ∧ last.takenBy 1 ≠ [] ∧
      ∃ call ∈ [1], last.Inherits 0 (start.takenBefore 0 0) reply call := by
  intro reply
  have hruns : ((fresh 10000).run [.call DeviceRequest.backup.message, .proceed 0,
      .arrive ((reply.packets.take 1).map .ok), .proceed 0]).any fun start =>
        (start.link.calls[0]? = some (.exchanging 0 0 ⟨some ⟨2, 1, List.replicate 55 0⟩⟩)) ∧
        start.callsOn 0 = [0] ∧
        (start.run [.drop 0, .call DeviceRequest.wipe.message, .proceed 1,
          .arrive ((reply.packets.drop 1).map .ok), .proceed 1]).any fun last =>
            last.stream 0 = start.takenBefore 0 0 ++ reply.packets ∧
            last.callsOn 0 = [0, 1] ∧ (last.takenBy 0).length = 1 ∧ last.takenBy 1 ≠ [] ∧
            last.link.calls[1]? ≠ some .dropped := by
    decide +kernel
  obtain ⟨start, hstart, hruns⟩ := (Option.any_eq_true _ _).1 hruns
  obtain ⟨hflight, hbefore, hruns⟩ := of_decide_eq_true hruns
  obtain ⟨last, hlast, hruns⟩ := (Option.any_eq_true _ _).1 hruns
  obtain ⟨hstream, hcalls, hcount, hread, hstays⟩ := of_decide_eq_true hruns
  have hvalid : reply.payload.length ≤ Packet.maxPayload := by decide
  have hreply : last.stream 0 <+: start.takenBefore 0 0 ++ reply.packets ++ [] :=
    ⟨[], by rw [hstream]⟩
  have hsecond : reply.packets[1]?.any fun packet => ¬ Assembler.Opens packet := by decide +kernel
  obtain ⟨packet, hpacket, hplain⟩ := (Option.any_eq_true _ _).1 hsecond
  have hlater : last.callsOn 0 = start.callsOn 0 ++ [1] := by rw [hcalls, hbefore]; rfl
  obtain ⟨later, hcallsOn, -, hnext⟩ :=
    reply_of_dropped_call_is_read_by_next_exchange hstart hflight hlast hvalid hreply
  obtain rfl := List.append_cancel_left (hlater.symm.trans hcallsOn)
  have htaken : 1 = ([0].flatMap last.takenBy).length := by simp [hcount]
  obtain ⟨-, -, -, hpart⟩ := hnext (show [1] = [] ++ 1 :: [] from rfl) (by simp) hstays htaken
    (by decide +kernel)
  exact ⟨start, last, hstart, ⟨_, hflight⟩, hlast, hvalid, hreply, hlater, hread,
    (hpart (by decide) hpacket (of_decide_eq_true hplain)).2 hread⟩

/-- A call is dropped before anything of its reply has arrived.  The next call returns this
reply. -/
theorem next_call_returns_reply_of_dropped_call :
    ¬ ∀ (patience dropped connection epoch : Nat) (before after : List LinkEvent)
      (start last : Chronicle) (assembler : Assembler) (reply : Message) (rest : List Packet)
      (later : List Nat),
      (fresh patience).run before = some start →
      start.link.calls[dropped]? = some (.exchanging connection epoch assembler) →
      start.run (.drop dropped :: after) = some last →
      reply.payload.length ≤ Packet.maxPayload →
      (start.takenBy dropped).length < reply.packets.length →
      last.stream connection <+: start.takenBefore connection dropped ++ reply.packets ++ rest →
      last.callsOn connection = start.callsOn connection ++ later →
      ∀ call ∈ later,
        ¬ last.Inherits connection (start.takenBefore connection dropped) reply call := by
  intro hclaim
  let reply : Message := ⟨2, []⟩
  have hruns : ((fresh 10000).run [.call DeviceRequest.backup.message, .proceed 0]).any
      fun start => start.link.calls[0]? = some (.exchanging 0 0 .empty) ∧
        start.callsOn 0 = [0] ∧ start.takenBy 0 = [] ∧ start.takenBefore 0 0 = [] ∧
        (start.run [.drop 0, .arrive (reply.packets.map .ok), .call DeviceRequest.wipe.message,
          .proceed 1, .proceed 1]).any fun last =>
            last.stream 0 = reply.packets ∧ last.callsOn 0 = [0, 1] ∧
            last.takenBefore 0 1 = [] ∧ last.takenBy 1 = reply.packets ∧
            last.link.calls[1]? = some (.ended (.ok reply)) := by
    decide +kernel
  obtain ⟨start, hstart, hruns⟩ := (Option.any_eq_true _ _).1 hruns
  obtain ⟨hflight, hbefore, hnothing, hfirst, hruns⟩ := of_decide_eq_true hruns
  obtain ⟨last, hlast, hruns⟩ := (Option.any_eq_true _ _).1 hruns
  obtain ⟨hstream, hcalls, hempty, htaken, hended⟩ := of_decide_eq_true hruns
  refine hclaim 10000 0 0 0 _ _ start last .empty reply [] [1] hstart hflight hlast (by decide)
    ?_ ?_ ?_ 1 (List.mem_singleton_self _) (.returns hended (hempty.trans hfirst.symm) htaken)
  · rw [hnothing]
    decide +kernel
  · rw [hstream, hfirst]
    exact List.prefix_append _ _
  · rw [hcalls, hbefore]
    rfl

end WalletGateway.Chronicle
