import WalletGateway.Proofs.Link.Chronicle
import WalletGateway.Proofs.Link.InTurn

/-!
# First in, first out

Where no cancellation goes past the queue and no call is dropped, `Accounted` is kept by every move
of a link, and so the calls of a link return the messages of its connections in order, each call its
own (`Chronicle.exchanges_return_messages_in_order`).
-/

namespace WalletGateway

namespace Chronicle

variable {chronicle : Chronicle} {link : Link}

/-! ## What is recorded -/

theorem record_begins {index connection : Nat} {request : Message} {opened : Link}
    (hstage : chronicle.link.calls[index]? = some (.queued request))
    (hopen : chronicle.link.open? = (.ok connection, opened)) (next : Link) :
    chronicle.record (.proceed index) next
      = { chronicle with
          link := next, exchanges := chronicle.exchanges ++ [(connection, index)] } := by
  simp [record, Link.begins?, Link.delivers, Link.reads, hstage, hopen]

theorem record_reads {index connection : Nat} {assembler : Assembler} {arrival : Arrival}
    {arrivals : List Arrival}
    (hstage : chronicle.link.calls[index]?
      = some (.exchanging connection chronicle.link.epoch assembler))
    (hinbox : chronicle.link.line.inboxes[connection]? = some (arrival :: arrivals))
    (next : Link) :
    chronicle.record (.proceed index) next
      = { chronicle with
          link := next
          taken := chronicle.taken
            ++ arrival.toOption.toList.map fun packet => (index, packet) } := by
  simp [record, Link.begins?, Link.delivers, hstage, Link.reads_of_inbox hstage hinbox]

/-- Nothing but the link changes where no exchange begins or reads and nothing arrives. -/
theorem record_still {event : LinkEvent} (hbegins : chronicle.link.begins? event = none)
    (hdelivers : chronicle.link.delivers event = []) (hreads : chronicle.link.reads event = [])
    (next : Link) : chronicle.record event next = { chronicle with link := next } := by
  simp only [record, hbegins, hdelivers, hreads, Option.toList_none, List.append_nil]

/-! ## All moves -/

namespace Accounted

/-- When a call has its turn, every exchange that has begun has ended. -/
theorem ended_of_queued (h : chronicle.Accounted) {ended : Nat}
    (hinTurn : chronicle.link.InTurn ended) {request : Message}
    (hqueued : chronicle.link.calls[ended]? = some (.queued request)) {connection index : Nat}
    (hexchange : (connection, index) ∈ chronicle.exchanges) :
    index < ended ∧ ∃ result, chronicle.link.calls[index]? = some (.ended result) := by
  rcases (h.begun hexchange).2 with ⟨result, hended⟩ | ⟨epoch, assembler, hexchanging⟩
  · rcases hinTurn.lt_or_exchanging hended (by simp) with hlt | ⟨-, _, _, _, hstage⟩
    · exact ⟨hlt, result, hended⟩
    · contradiction
  · obtain rfl := hinTurn.eq_of_exchanging hexchanging
    rw [hqueued] at hexchanging
    simp at hexchanging

/-- Every move of the link is accounted for. -/
theorem moves (h : chronicle.Accounted) {ended : Nat} (hinTurn : chronicle.link.InTurn ended)
    {event : LinkEvent} (hmoves : chronicle.link.Moves event link)
    (hevent : chronicle.link.keepsOrder event = true) :
    (chronicle.record event link).Accounted := by
  cases hmoves with
  | unheard hbusy | unsaid hbusy | interrupt hbusy =>
    exact absurd (List.isEmpty_iff.1 hevent) hbusy
  | drop => contradiction
  | call | cancel =>
    rw [record_still rfl rfl rfl]
    refine h.of_still (Or.inl rfl) rfl (fun hexchange => ?_) fun hstage => ?_
    · rcases (h.begun hexchange).2 with ⟨_, hstage⟩ | ⟨_, _, hstage⟩
      all_goals exact List.getElem?_append_left (List.getElem?_eq_some_iff.1 hstage).1
    · rcases Link.stage_cases_of_append hstage with hold | ⟨-, rfl⟩
      · exact Or.inl hold
      · exact Or.inr (Or.inl ⟨_, rfl⟩)
  | disconnect =>
    rw [record_still rfl rfl rfl]
    exact h.of_still (Or.inr rfl) rfl (fun _ => rfl) Or.inl
  | wait | expectOpenings | expectWritings =>
    rw [record_still rfl rfl rfl]
    exact h.of_still (Or.inl rfl) rfl (fun _ => rfl) Or.inl
  | arrive arrivals hinboxes =>
    simpa only [record, Link.begins?, Link.reads, Option.toList_none, List.append_nil]
      using h.arrives hinboxes arrivals
  | unreached hstage hturn hopen =>
    obtain rfl := hinTurn.eq_of_turn hturn
    rw [record_still (by simp [Link.begins?, hstage, hopen]) rfl (by simp [Link.reads, hstage])]
    refine (h.opens (Link.opens_of_eq hopen)).of_still (Or.inl rfl) rfl (fun hexchange => ?_)
      fun hset => ?_
    · have hlt := (h.ended_of_queued hinTurn hstage hexchange).1
      exact List.getElem?_set_ne (Nat.ne_of_gt hlt)
    · rcases Link.stage_cases_of_set hset with ⟨-, rfl⟩ | ⟨-, hold⟩
      · exact Or.inr (Or.inr ⟨_, rfl⟩)
      · exact Or.inl hold
  | ask hstage hturn hopen =>
    obtain rfl := hinTurn.eq_of_turn hturn
    have hopens := Link.opens_of_eq hopen
    rw [record_begins hstage hopen]
    exact (h.opens hopens).begins hopens.connection_eq (hopens.calls_eq ▸ hstage)
      (hopens.calls_eq ▸ h.ended_of_queued hinTurn hstage) (by rfl) (by rfl) (by rfl)
  | cut hstage hturn hopen =>
    obtain rfl := hinTurn.eq_of_turn hturn
    have hopens := Link.opens_of_eq hopen
    rw [record_begins hstage hopen]
    exact (h.opens hopens).fallsThrough hopens.connection_eq (hopens.calls_eq ▸ hstage)
      (hopens.calls_eq ▸ h.ended_of_queued hinTurn hstage) (by rfl) (by rfl) (by rfl)
  | abort hstage hepoch =>
    rw [record_still (by simp [Link.begins?, hstage]) rfl (by simp [Link.reads, hstage, hepoch])]
    exact h.breaksOff hstage (by rfl) (by rfl) (by rfl)
  | read hstage hinbox hpush =>
    rw [record_reads hstage hinbox]
    exact h.goesOn hstage (by rfl) (Or.inl rfl) List.length_set (Line.waiting_received hinbox)
      (.reads _ ((h.reading hstage).2.push_none hpush))
  | hear hstage hinbox hpush =>
    rw [record_reads hstage hinbox]
    exact h.goesOn hstage (by rfl) (Or.inl rfl) List.length_set (Line.waiting_received hinbox)
      (.returns ((h.reading hstage).2.push_some hpush))
  | fail hstage hinbox =>
    rw [record_reads hstage hinbox]
    exact h.goesOn hstage (by rfl) (Or.inr rfl) List.length_set (Line.waiting_received hinbox)
      (.fails _ rfl)
  | yield hstage | giveUp hstage => exact (hinTurn.not_yielding hstage).elim

theorem run {events : List LinkEvent} {last : Chronicle} (h : chronicle.Accounted) {ended : Nat}
    (hinTurn : chronicle.link.InTurn ended)
    (hevents : chronicle.link.keepsOrderThrough events = true)
    (hrun : chronicle.run events = some last) :
    last.Accounted ∧ ∃ ended, last.link.InTurn ended := by
  induction events generalizing chronicle ended with
  | nil => exact Option.some.inj hrun ▸ ⟨h, ended, hinTurn⟩
  | cons event events ih =>
    obtain ⟨next, hnext, hrest⟩ := Option.bind_eq_some_iff.1 hrun
    obtain ⟨link, hlink, rfl⟩ := Option.map_eq_some_iff.1 hnext
    obtain ⟨hevent, hlater⟩ := Bool.and_eq_true_iff.1 hevents
    rw [hlink, Option.all_some] at hlater
    have hmoves := Link.moves_of_step hlink
    have hnow := h.moves hinTurn hmoves hevent
    rcases hinTurn.moves hmoves hevent with hsame | hone
    · exact ih hnow hsame hlater hrest
    · exact ih hnow hone hlater hrest

/-- Up to an exchange that returns a message, every exchange has read one message. -/
theorem endsMessage (h : chronicle.Accounted) {connection number index : Nat} {message : Message}
    (hnumber : (chronicle.callsOn connection)[number]? = some index)
    (hreturned : chronicle.link.calls[index]? = some (.ended (.ok message))) :
    Assembler.EndsMessage (chronicle.takenOn connection (number + 1)) number message := by
  obtain ⟨hlt, hindex⟩ := List.getElem?_eq_some_iff.1 hnumber
  have hearlier : ∀ call ∈ (chronicle.callsOn connection).take number,
      ∃ message, Assembler.IsWhole (chronicle.takenBy call) message := by
    intro call hcall
    obtain ⟨place, hplace, hcall⟩ := List.mem_take_iff_getElem.1 hcall
    have hbefore : (chronicle.callsOn connection)[place]? = some call :=
      List.getElem?_eq_some_iff.2 ⟨by omega, hcall⟩
    obtain ⟨message, hended⟩ := h.earlier hbefore (by omega)
    exact ⟨message, h.heard (mem_entriesAt.1 (List.mem_of_getElem? hbefore)) hended⟩
  obtain ⟨hempty, hlength⟩ := Assembler.feed_flatMap_whole _ chronicle.takenBy hearlier
  have hends := (h.heard (mem_entriesAt.1 (List.mem_of_getElem? hnumber)) hreturned).endsMessage
    hempty
  rw [hlength, List.length_take_of_le (Nat.le_of_lt hlt)] at hends
  rwa [takenOn, List.take_succ_eq_append_getElem hlt, List.flatMap_append, List.flatMap_singleton,
    hindex]

theorem takenOn_prefix (h : chronicle.Accounted) (connection count : Nat) :
    chronicle.takenOn connection count <+: chronicle.stream connection := by
  refine ⟨((chronicle.callsOn connection).drop count).flatMap chronicle.takenBy
    ++ chronicle.link.line.waiting connection, ?_⟩
  rw [h.unread, takenOn, ← List.append_assoc, ← List.flatMap_append, List.take_append_drop]

end Accounted

/-- Where no cancellation goes past the queue and no call is dropped, the calls of a link have their
exchanges one after the other, in the order of their start.  If the exchange with some number on a
connection returns a message, then it is the one with this number in what has arrived there, and
nothing behind this message has been read until then. -/
theorem exchanges_return_messages_in_order {patience : Nat} {events : List LinkEvent}
    {last : Chronicle} (hevents : ({ patience } : Link).keepsOrderThrough events = true)
    (hrun : (fresh patience).run events = some last) :
    (∀ {earlier later : Nat} {stage : CallStage}, earlier < later →
      last.link.calls[later]? = some stage → (∀ request, stage ≠ .queued request) →
        ∃ result, last.link.calls[earlier]? = some (.ended result)) ∧
    (last.exchanges.map Prod.snd).Pairwise (· < ·) ∧
    (∀ {index : Nat} {message : Message}, last.link.calls[index]? = some (.ended (.ok message)) →
      ∃ connection, index ∈ last.callsOn connection) ∧
    ∀ {connection number index : Nat} {message : Message},
      (last.callsOn connection)[number]? = some index →
        last.link.calls[index]? = some (.ended (.ok message)) →
          (Assembler.messages (last.stream connection))[number]? = some message ∧
            last.takenOn connection (number + 1) <+: last.stream connection ∧
              Assembler.EndsMessage (last.takenOn connection (number + 1)) number message := by
  have hinTurn : (fresh patience).link.InTurn 0 := Link.inTurn_of_unused rfl rfl
  obtain ⟨haccounted, ended, hended⟩ := (Accounted.fresh patience).run hinTurn hevents hrun
  refine ⟨fun {earlier later stage} hlt hstage hbegun => ?_, haccounted.ascending,
    fun hreturned => ?_, fun {connection number index message} hnumber hreturned => ?_⟩
  · rcases hended.lt_or_exchanging hstage hbegun with hbefore | ⟨rfl, -⟩
    · exact hended.before (Nat.lt_trans hlt hbefore)
    · exact hended.before hlt
  · obtain ⟨⟨connection, index⟩, hexchange, rfl⟩ := List.mem_map.1 (haccounted.answered hreturned)
    exact ⟨connection, mem_entriesAt.2 hexchange⟩
  · have hends := haccounted.endsMessage hnumber hreturned
    obtain ⟨unread, hstream⟩ := haccounted.takenOn_prefix connection (number + 1)
    exact ⟨hstream ▸ hends.messages_getElem? unread, ⟨unread, hstream⟩, hends⟩

/-- Whether a call has returned a message. -/
def hasReturned (chronicle : Chronicle) (index : Nat) (message : Message) : Bool :=
  match chronicle.link.calls[index]? with
  | some (.ended (.ok returned)) => returned = message
  | _ => false

theorem ended_of_hasReturned {chronicle : Chronicle} {index : Nat} {message : Message}
    (h : chronicle.hasReturned index message = true) :
    chronicle.link.calls[index]? = some (.ended (.ok message)) := by
  unfold hasReturned at h
  split at h
  · rename_i returned hended
    obtain rfl := of_decide_eq_true h
    exact hended
  · contradiction

/-- The first packet of the second reply arrives with the first reply, while the second call waits
for its exchange. -/
theorem early_reply_is_left_to_next_call :
    let first : Message := ⟨2, []⟩
    let second : Message := ⟨17, List.replicate 56 0⟩
    let events : List LinkEvent :=
      [.call ⟨0, []⟩, .call ⟨55, []⟩, .proceed 0,
        .arrive ((first.packets ++ second.packets.take 1).map .ok), .proceed 0, .proceed 1,
        .proceed 1, .arrive ((second.packets.drop 1).map .ok), .proceed 1]
    ({ patience := 10000 } : Link).keepsOrderThrough events = true ∧
      ∃ last, (fresh 10000).run events = some last ∧ last.callsOn 0 = [0, 1] ∧
        last.link.calls[1]? = some (.ended (.ok second)) ∧
        (Assembler.messages (last.stream 0))[1]? = some second ∧
        last.takenOn 0 2 <+: last.stream 0 ∧
        Assembler.EndsMessage (last.takenOn 0 2) 1 second := by
  intro first second events
  have hevents : ({ patience := 10000 } : Link).keepsOrderThrough events = true := by
    decide +kernel
  have hrun : ((fresh 10000).run events).any fun last =>
      last.callsOn 0 = [0, 1] ∧ last.hasReturned 1 second := by
    decide +kernel
  obtain ⟨last, hlast, hreturned⟩ := (Option.any_eq_true _ _).1 hrun
  obtain ⟨hcalls, hreturned⟩ := of_decide_eq_true hreturned
  have hended := ended_of_hasReturned hreturned
  obtain ⟨-, -, -, hmessages⟩ := exchanges_return_messages_in_order hevents hlast
  exact ⟨hevents, last, hlast, hcalls, hended, hmessages (by rw [hcalls]; rfl) hended⟩

end Chronicle

end WalletGateway
