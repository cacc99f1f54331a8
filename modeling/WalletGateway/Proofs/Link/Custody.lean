import WalletGateway.Proofs.Link.Connections

/-!
# Who has read what

Every packet that arrives on a connection is read by one of the exchanges on it, or is not read yet,
whatever fails, whoever is dropped and whoever goes past the queue.

* `Served`: how an exchange stands, and what the packets that it has read are for it: a part of a
  message, a whole message, or packets of which the last one was refused.
* `Custody`: the account of a link is complete.  The packets that have arrived on a connection are
  those that its exchanges have read, one exchange after the other, and then those that nobody has
  read.  An exchange behind which there is another one has returned a message or was dropped.
* `Custody.record`: every step keeps this, one lemma for each part.
-/

namespace WalletGateway

namespace Link

variable {link next : Link} {event : LinkEvent} {index connection : Nat} {packets : List Packet}

/-! ## Exchanges -/

/-- How the exchange of a call stands that has read some packets. -/
inductive Served (link : Link) (connection index : Nat) (packets : List Packet) : Prop where
  | reads {epoch : Nat} {assembler : Assembler}
      (hstage : link.calls[index]? = some (.exchanging connection epoch assembler))
      (hpart : Assembler.IsPart packets assembler)
  | dropped {assembler : Assembler} (hstage : link.calls[index]? = some .dropped)
      (hpart : Assembler.IsPart packets assembler)
  | returned {message : Message} (hstage : link.calls[index]? = some (.ended (.ok message)))
      (hwhole : Assembler.IsWhole packets message)
  /-- It has failed, but not because of a packet. -/
  | failed {error : DeviceError} {assembler : Assembler}
      (hstage : link.calls[index]? = some (.ended (.error error)))
      (hpart : Assembler.IsPart packets assembler) (hover : link.IsOver connection)
  /-- It has failed because of a packet. -/
  | refused {error : FramingError}
      (hstage : link.calls[index]? = some (.ended (.error (.framing error))))
      (hends : Assembler.EndsWith packets (.error error)) (hover : link.IsOver connection)

/-- What an exchange makes of an arrival. -/
theorem take_served {epoch : Nat} {assembler : Assembler}
    (hstage : link.calls[index]? = some (.exchanging connection epoch assembler))
    (hlt : connection < link.line.inboxes.length) (hpart : Assembler.IsPart packets assembler)
    (arrival : Arrival) :
    (link.take index connection epoch assembler arrival).Served connection index
      (packets ++ arrival.toOption.toList) := by
  have hset : ∀ stage, (link.calls.set index stage)[index]? = some stage := fun _ =>
    List.getElem?_set_self (List.getElem?_eq_some_iff.1 hstage).1
  have hclosed : ∀ result, (link.close.finish index result).IsOver connection := fun _ =>
    ⟨by simp [close, finish], hlt⟩
  cases arrival with
  | error error =>
    exact .failed (hset _) (by simpa [Except.toOption] using hpart) (hclosed _)
  | ok packet =>
    simp only [take, Except.toOption, Option.toList_some]
    cases hpush : assembler.push packet with
    | mk answer assembler' =>
      cases answer with
      | error error => exact .refused (hset _) (hpart.push_error (by rw [hpush])) (hclosed _)
      | ok message =>
        cases message with
        | none => exact .reads (hset _) (hpart.push_none hpush)
        | some message => exact .returned (hset _) (hpart.push_some hpush)

theorem take_line (link : Link) (index connection epoch : Nat) (assembler : Assembler)
    (arrival : Arrival) :
    (link.take index connection epoch assembler arrival).line = link.line := by
  cases arrival with
  | error => rfl
  | ok packet =>
    simp only [take]
    split <;> rfl

/-- Only an exchange that is under way and not disconnected reads. -/
theorem mem_reads {packet : Packet} (h : (index, packet) ∈ link.reads event) :
    event = .proceed index ∧ ∃ connection assembler,
      link.calls[index]? = some (.exchanging connection link.epoch assembler) := by
  cases event with
  | proceed other =>
    simp only [Link.reads] at h
    split at h
    · rename_i connection epoch assembler hstage
      split at h
      · rename_i hepoch
        subst hepoch
        split at h
        · obtain ⟨rfl, -⟩ := Prod.mk.inj (List.mem_singleton.1 h)
          exact ⟨rfl, connection, assembler, hstage⟩
        · contradiction
      · contradiction
    · contradiction
  | call | cancel | drop | disconnect | arrive | wait | expectOpenings | expectWritings =>
    contradiction

namespace Served

theorem of_proceed (h : link.Served connection index packets) (hlink : link.Coherent)
    (hstep : link.step (.proceed index) = some next) :
    next.Served connection index (packets ++ entriesAt (link.reads (.proceed index)) index) := by
  cases h with
  | @reads epoch assembler hstage hpart =>
    have hlt := (hlink.reading hstage).2.existing
    by_cases hepoch : epoch = link.epoch
    · subst hepoch
      obtain ⟨arrival, arrivals, hinbox, rfl⟩ := takes_of_step hstage hstep
      rw [reads_of_inbox hstage hinbox, entriesAt_map_self]
      exact take_served (by exact hstage) (by simpa using hlt) hpart arrival
    · have hreads : link.reads (.proceed index) = [] := by
        simp only [Link.reads, hstage, if_neg hepoch]
      obtain rfl := Option.some.inj ((step_of_epoch_ne hstage hepoch).symm.trans hstep)
      rw [hreads, entriesAt_nil, List.append_nil]
      exact .failed (List.getElem?_set_self (List.getElem?_eq_some_iff.1 hstage).1) hpart
        ⟨by simp [close, finish], hlt⟩
  | dropped hstage | returned hstage | failed hstage | refused hstage =>
    simp [step, proceed?, hstage] at hstep

/-- What other calls do leaves an exchange as it is.  It may be dropped. -/
theorem of_other (h : link.Served connection index packets) (hlink : link.Coherent)
    (hmoves : link.Moves event next) (hevent : event ≠ .proceed index) :
    next.Served connection index packets := by
  cases h with
  | reads hstage hpart =>
    by_cases hdrop : event = .drop index
    · subst hdrop
      cases hmoves with
      | drop =>
        exact .dropped (List.getElem?_set_self (List.getElem?_eq_some_iff.1 hstage).1) hpart
    · exact .reads (hmoves.stage_eq hstage hevent hdrop) hpart
  | dropped hstage hpart => exact .dropped (hmoves.over_eq hlink hstage rfl) hpart
  | returned hstage hwhole => exact .returned (hmoves.over_eq hlink hstage rfl) hwhole
  | failed hstage hpart hover =>
    exact .failed (hmoves.over_eq hlink hstage rfl) hpart (hover.writes hmoves.writes).1
  | refused hstage hends hover =>
    exact .refused (hmoves.over_eq hlink hstage rfl) hends (hover.writes hmoves.writes).1

theorem ne_queued (h : link.Served connection index packets) {request : Message} :
    link.calls[index]? ≠ some (.queued request) := by
  cases h with
  | reads hstage | dropped hstage | returned hstage | failed hstage | refused hstage =>
    simp [hstage]

/-- What an exchange has come to that has read packets with an answer. -/
theorem decided {first : List Packet} {answer : Except FramingError (Option Message)}
    (h : link.Served connection index packets) (hstays : link.calls[index]? ≠ some .dropped)
    (hfirst : Assembler.EndsWith first answer) (hanswer : answer ≠ .ok none)
    (hpre : first <+: packets) :
    first = packets ∧
      ((∃ message, answer = .ok (some message) ∧
          link.calls[index]? = some (.ended (.ok message))) ∨
        ∃ error, answer = .error error ∧
          link.calls[index]? = some (.ended (.error (.framing error)))) := by
  cases h with
  | dropped hstage => exact absurd hstage hstays
  | reads _ hpart | failed _ hpart => exact absurd hpre (hpart.not_isPrefix hfirst hanswer)
  | returned hstage hwhole =>
    obtain ⟨hsame, hmessage⟩ := hwhole.endsWith.eq_of_isPrefix hfirst hanswer hpre
    exact ⟨hsame, Or.inl ⟨_, hmessage, hstage⟩⟩
  | refused hstage hends =>
    obtain ⟨hsame, herror⟩ := hends.eq_of_isPrefix hfirst hanswer hpre
    exact ⟨hsame, Or.inr ⟨_, herror, hstage⟩⟩

end Served

/-- An exchange that begins has read nothing. -/
theorem served_of_begins (hlink : link.Coherent) (hstep : link.step event = some next)
    (hbegins : link.begins? event = some (connection, index)) :
    next.Served connection index [] := by
  obtain ⟨rfl, ⟨request, hstage⟩, hopened⟩ := begins?_eq_some hbegins
  have hlt := (List.getElem?_eq_some_iff.1 hstage).1
  cases (begins_of_step hstage hstep).2 with
  | unreached hopen =>
    rw [hopen] at hopened
    contradiction
  | @cut _ error opened line hopen hwrite =>
    have hended : (({ opened with line } : Link).close.finish index (.error error)).calls[index]?
        = some (.ended (.error error)) :=
      List.getElem?_set_self ((opens_of_eq hopen).calls_eq.symm ▸ hlt)
    exact .failed hended Assembler.isPart_nil (ends_of_begins hlink hstep hbegins hended).2
  | ask hopen hwrite =>
    rw [hopen] at hopened
    obtain rfl := Except.ok.inj hopened
    exact .reads (List.getElem?_set_self ((opens_of_eq hopen).calls_eq.symm ▸ hlt))
      Assembler.isPart_nil

/-! ## The line -/

theorem Opens.waiting_eq {opened : Link} {result : Except DeviceError Nat}
    (h : link.Opens result opened) (other : Nat) :
    opened.line.waiting other = link.line.waiting other := by
  cases h with
  | kept | failed => rfl
  | opened => exact Line.waiting_opened _ _ _ _

/-- Where no packet is read, nothing changes but that packets arrive. -/
theorem Moves.waiting_eq (h : link.Moves event next) (hreads : link.reads event = [])
    (other : Nat) : next.line.waiting other
      = link.line.waiting other ++ entriesAt (link.delivers event) other := by
  cases h with
  | call | cancel | drop | disconnect | wait | expectOpenings | expectWritings | abort | yield
  | giveUp => exact (List.append_nil _).symm
  | unheard _ hopen | unsaid _ hopen | interrupt _ hopen | unreached _ _ hopen | cut _ _ hopen
  | ask _ _ hopen =>
    exact ((opens_of_eq hopen).waiting_eq other).trans (List.append_nil _).symm
  | @arrive arrivals older inbox hinboxes =>
    have hlast : link.line.inboxes.length - 1 = older.length := by simp [hinboxes]
    rw [Line.waiting_arrived hinboxes, delivers, hlast, entriesAt_map]
  | read hstage hinbox | hear hstage hinbox =>
    rw [reads_of_inbox hstage hinbox] at hreads
    contradiction
  | @fail _ _ _ arrival _ _ hstage hinbox =>
    rw [reads_of_inbox hstage hinbox, List.map_eq_nil_iff] at hreads
    rw [Line.waiting_received hinbox other, hreads, ite_self, List.nil_append]
    exact (List.append_nil _).symm

end Link

namespace Chronicle

variable {chronicle last : Chronicle} {next : Link} {event : LinkEvent} {connection index : Nat}

/-! ## What is recorded -/

theorem takenBy_record (turn : Nat) :
    (chronicle.record event next).takenBy turn
      = chronicle.takenBy turn ++ entriesAt (chronicle.link.reads event) turn :=
  entriesAt_append _ _

theorem takenBy_record_of_ne {turn : Nat} (hevent : event ≠ .proceed turn) :
    (chronicle.record event next).takenBy turn = chronicle.takenBy turn := by
  rw [takenBy_record, entriesAt_eq_nil fun packet hpacket => hevent (Link.mem_reads hpacket).1,
    List.append_nil]

theorem mem_exchanges_record {pair : Nat × Nat} :
    pair ∈ (chronicle.record event next).exchanges ↔
      pair ∈ chronicle.exchanges ∨ chronicle.link.begins? event = some pair := by
  simp only [record, List.mem_append, Option.mem_toList]

theorem callsOn_record (other : Nat) :
    (chronicle.record event next).callsOn other
      = chronicle.callsOn other ++ entriesAt (chronicle.link.begins? event).toList other :=
  entriesAt_append _ _

/-! ## The invariant -/

/-- The account of a link is complete. -/
structure Custody (chronicle : Chronicle) : Prop where
  coherent : chronicle.link.Coherent
  ascending : (chronicle.exchanges.map Prod.snd).Pairwise (· < ·)
  /-- The calls that are not over come after those that have begun. -/
  ahead : ∀ {connection index : Nat}, (connection, index) ∈ chronicle.exchanges →
    ∀ other ∈ chronicle.link.queue, index ≤ other
  known : ∀ {index : Nat} {packet : Packet}, (index, packet) ∈ chronicle.taken →
    index ∈ chronicle.exchanges.map Prod.snd
  reading : ∀ {index connection epoch : Nat} {assembler : Assembler},
    chronicle.link.calls[index]? = some (.exchanging connection epoch assembler) →
      (connection, index) ∈ chronicle.exchanges
  served : ∀ {connection index : Nat}, (connection, index) ∈ chronicle.exchanges →
    chronicle.link.Served connection index (chronicle.takenBy index)
  /-- Behind an exchange that has failed or is under way there is no other one. -/
  replaced : ∀ {connection place index : Nat},
    (chronicle.callsOn connection)[place]? = some index →
      place + 1 < (chronicle.callsOn connection).length →
        chronicle.link.calls[index]? = some .dropped ∨
          ∃ message, chronicle.link.calls[index]? = some (.ended (.ok message))
  /-- What is not read yet stands behind what the exchanges have read. -/
  unread : ∀ connection, chronicle.stream connection
    = (chronicle.callsOn connection).flatMap chronicle.takenBy
      ++ chronicle.link.line.waiting connection

namespace Custody

theorem fresh (patience : Nat) : (Chronicle.fresh patience).Custody where
  coherent := Link.coherent_of_unused patience
  ascending := List.Pairwise.nil
  ahead h := by simp [Chronicle.fresh] at h
  known h := by simp [Chronicle.fresh] at h
  reading h := by simp [Chronicle.fresh] at h
  served h := by simp [Chronicle.fresh] at h
  replaced h := by simp [Chronicle.fresh, callsOn] at h
  unread connection := by simp [stream, callsOn, Chronicle.fresh, Line.waiting]

/-- A call has one exchange at most. -/
theorem connection_eq (h : chronicle.Custody) {epoch : Nat} {assembler : Assembler}
    (hstage : chronicle.link.calls[index]? = some (.exchanging connection epoch assembler))
    {other : Nat} (hexchange : (other, index) ∈ chronicle.exchanges) : other = connection := by
  cases h.served hexchange with
  | reads hother =>
    exact (CallStage.exchanging.inj (Option.some.inj (hother.symm.trans hstage))).1
  | dropped hother | returned hother | failed hother | refused hother =>
    rw [hstage] at hother
    simp at hother

theorem callsOn_ascending (h : chronicle.Custody) (connection : Nat) :
    (chronicle.callsOn connection).Pairwise (· < ·) :=
  h.ascending.sublist (entriesAt_sublist _ connection)

/-- An exchange that is under way is the last one on its connection. -/
theorem last_of_exchanging (h : chronicle.Custody) {epoch : Nat} {assembler : Assembler}
    (hstage : chronicle.link.calls[index]? = some (.exchanging connection epoch assembler)) :
    ∃ before, chronicle.callsOn connection = before ++ [index] ∧ index ∉ before := by
  have hmem : index ∈ chronicle.callsOn connection := mem_entriesAt.2 (h.reading hstage)
  obtain ⟨before, behind, hsplit⟩ := List.append_of_mem hmem
  have hascending := h.callsOn_ascending connection
  rw [hsplit, List.pairwise_append] at hascending
  obtain ⟨-, hbehind, hbefore⟩ := hascending
  have hnone : behind = [] := by
    refine List.eq_nil_iff_forall_not_mem.2 fun call hcall => ?_
    have hturn := (h.coherent.reading hstage).1
    have hexchange : (connection, call) ∈ chronicle.exchanges := by
      refine mem_entriesAt.1 (?_ : call ∈ chronicle.callsOn connection)
      rw [hsplit]
      exact List.mem_append_right _ (List.mem_cons_of_mem _ hcall)
    have hle := h.ahead hexchange index (Link.Coherent.mem_of_turn hturn)
    exact Nat.not_lt.2 hle ((List.pairwise_cons.1 hbehind).1 call hcall)
  subst hnone
  refine ⟨before, hsplit, fun hself => ?_⟩
  exact Nat.lt_irrefl _ (hbefore index hself index List.mem_cons_self)

/-- The call that begins its exchange comes after all those that have begun. -/
theorem lt_of_begins (h : chronicle.Custody) (hstep : chronicle.link.step event = some next)
    (hbegins : chronicle.link.begins? event = some (connection, index)) {other call : Nat}
    (hexchange : (other, call) ∈ chronicle.exchanges) : call < index := by
  obtain ⟨rfl, ⟨request, hstage⟩, -⟩ := Link.begins?_eq_some hbegins
  have hturn := (Link.begins_of_step hstage hstep).1
  refine Nat.lt_of_le_of_ne (h.ahead hexchange index (Link.Coherent.mem_of_turn hturn)) ?_
  rintro rfl
  exact (h.served hexchange).ne_queued hstage

/-- The call that begins its exchange has read nothing. -/
theorem takenBy_of_begins (h : chronicle.Custody) (hstep : chronicle.link.step event = some next)
    (hbegins : chronicle.link.begins? event = some (connection, index)) :
    chronicle.takenBy index = [] := by
  refine entriesAt_eq_nil fun packet hpacket => ?_
  obtain ⟨⟨other, call⟩, hexchange, rfl⟩ := List.mem_map.1 (h.known hpacket)
  exact Nat.lt_irrefl _ (h.lt_of_begins hstep hbegins hexchange)

/-! ## Steps -/

section Steps

variable (h : chronicle.Custody) (hstep : chronicle.link.step event = some next)

include h hstep

theorem record_ascending :
    ((chronicle.record event next).exchanges.map Prod.snd).Pairwise (· < ·) := by
  cases hbegins : chronicle.link.begins? event with
  | none => simpa [record, hbegins] using h.ascending
  | some pair =>
    obtain ⟨connection, index⟩ := pair
    simp only [record, hbegins, Option.toList_some, List.map_append, List.map_cons, List.map_nil]
    rw [List.pairwise_append]
    refine ⟨h.ascending, List.pairwise_singleton _ _, fun call hcall last hlast => ?_⟩
    obtain ⟨⟨other, call⟩, hexchange, rfl⟩ := List.mem_map.1 hcall
    rw [List.mem_singleton.1 hlast]
    exact h.lt_of_begins hstep hbegins hexchange

theorem record_ahead {call other : Nat}
    (hexchange : (connection, call) ∈ (chronicle.record event next).exchanges)
    (hother : other ∈ next.queue) : call ≤ other := by
  have hmoves := Link.moves_of_step hstep
  have hbefore : call < chronicle.link.calls.length ∧
      ∀ other ∈ chronicle.link.queue, call ≤ other := by
    rcases mem_exchanges_record.1 hexchange with hold | hbegins
    · refine ⟨?_, h.ahead hold⟩
      cases h.served hold with
      | reads hstage | dropped hstage | returned hstage | failed hstage | refused hstage =>
        exact (List.getElem?_eq_some_iff.1 hstage).1
    · obtain ⟨rfl, ⟨request, hstage⟩, -⟩ := Link.begins?_eq_some hbegins
      have hturn := (Link.begins_of_step hstage hstep).1
      exact ⟨(List.getElem?_eq_some_iff.1 hstage).1,
        fun other hother => h.coherent.lined.first_le hturn hother⟩
  by_cases hlt : other < chronicle.link.calls.length
  · exact hbefore.2 other (hmoves.mem_queue hlt hother)
  · exact Nat.le_of_lt (Nat.lt_of_lt_of_le hbefore.1 (Nat.not_lt.1 hlt))

theorem record_served {call : Nat}
    (hexchange : (connection, call) ∈ (chronicle.record event next).exchanges) :
    next.Served connection call ((chronicle.record event next).takenBy call) := by
  have hmoves := Link.moves_of_step hstep
  rcases mem_exchanges_record.1 hexchange with hold | hbegins
  · by_cases hevent : event = .proceed call
    · subst hevent
      rw [takenBy_record]
      exact (h.served hold).of_proceed h.coherent hstep
    · rw [takenBy_record_of_ne hevent]
      exact (h.served hold).of_other h.coherent hmoves hevent
  · have hserved := Link.served_of_begins h.coherent hstep hbegins
    have hnothing := h.takenBy_of_begins hstep hbegins
    obtain ⟨rfl, ⟨request, hstage⟩, -⟩ := Link.begins?_eq_some hbegins
    rw [takenBy_record, hnothing, Link.reads, hstage]
    exact hserved

theorem record_replaced {place call : Nat}
    (hplace : ((chronicle.record event next).callsOn connection)[place]? = some call)
    (hmore : place + 1 < ((chronicle.record event next).callsOn connection).length) :
    next.calls[call]? = some .dropped ∨
      ∃ message, next.calls[call]? = some (.ended (.ok message)) := by
  have hmoves := Link.moves_of_step hstep
  have hover : chronicle.link.calls[call]? = some .dropped ∨
      ∃ message, chronicle.link.calls[call]? = some (.ended (.ok message)) := by
    rw [callsOn_record] at hplace hmore
    cases hbegins : entriesAt (chronicle.link.begins? event).toList connection with
    | nil =>
      rw [hbegins, List.append_nil] at hplace hmore
      exact h.replaced hplace hmore
    | cons index rest =>
      have hindex : (connection, index) ∈ (chronicle.link.begins? event).toList :=
        mem_entriesAt.1 (hbegins ▸ List.mem_cons_self)
      have hnow := Option.mem_toList.1 hindex
      have hrest : rest = [] := by
        have hsublist := entriesAt_sublist (chronicle.link.begins? event).toList connection
        have hlength := hsublist.length_le
        rw [hbegins, hnow] at hlength
        exact List.length_eq_zero_iff.1 (by simpa using hlength)
      rw [hbegins, hrest] at hplace hmore
      rw [List.length_append, List.length_singleton] at hmore
      rw [List.getElem?_append_left (by omega)] at hplace
      -- The exchange that begins is on the open connection, and its call has the turn.
      cases h.served (mem_entriesAt.1 (List.mem_of_getElem? hplace)) with
      | dropped hstage => exact Or.inl hstage
      | returned hstage => exact Or.inr ⟨_, hstage⟩
      | failed _ _ hover | refused _ _ hover => exact absurd hnow hover.begins?
      | reads hstage =>
        obtain ⟨rfl, ⟨request, hqueued⟩, -⟩ := Link.begins?_eq_some hnow
        have hturn := (Link.begins_of_step hqueued hstep).1
        obtain rfl := h.coherent.eq_of_exchanging hturn hstage
        rw [hqueued] at hstage
        simp at hstage
  rcases hover with hdropped | ⟨message, hreturned⟩
  · exact Or.inl (hmoves.over_eq h.coherent hdropped rfl)
  · exact Or.inr ⟨message, hmoves.over_eq h.coherent hreturned rfl⟩

theorem record_unread (other : Nat) : (chronicle.record event next).stream other
    = ((chronicle.record event next).callsOn other).flatMap
        (chronicle.record event next).takenBy ++ next.line.waiting other := by
  by_cases hreads : chronicle.link.reads event = []
  · have htaken : ∀ turn, (chronicle.record event next).takenBy turn = chronicle.takenBy turn := by
      intro turn
      rw [takenBy_record, hreads, entriesAt_nil, List.append_nil]
    have hnew : (entriesAt (chronicle.link.begins? event).toList other).flatMap chronicle.takenBy
        = [] := by
      refine List.flatMap_eq_nil_iff.2 fun index hindex => ?_
      exact h.takenBy_of_begins hstep (Option.mem_toList.1 (mem_entriesAt.1 hindex))
    calc
      (chronicle.record event next).stream other
        = chronicle.stream other ++ entriesAt (chronicle.link.delivers event) other :=
          entriesAt_append _ _
      _ = (chronicle.callsOn other).flatMap chronicle.takenBy ++ next.line.waiting other := by
          rw [h.unread, List.append_assoc, (Link.moves_of_step hstep).waiting_eq hreads]
      _ = _ := by
          rw [funext htaken, callsOn_record, List.flatMap_append, hnew, List.append_nil]
  · obtain ⟨⟨index, packet⟩, hpacket⟩ := List.exists_mem_of_ne_nil _ hreads
    obtain ⟨rfl, connection, assembler, hstage⟩ := Link.mem_reads hpacket
    obtain ⟨arrival, arrivals, hinbox, rfl⟩ := Link.takes_of_step hstage hstep
    obtain ⟨before, hsplit, hnot⟩ := h.last_of_exchanging hstage
    have hbegins : chronicle.link.begins? (.proceed index) = none := by
      simp only [Link.begins?, hstage]
    have hflat : (chronicle.callsOn other).flatMap (entriesAt (chronicle.taken
          ++ arrival.toOption.toList.map fun packet => (index, packet)))
        = (chronicle.callsOn other).flatMap chronicle.takenBy
          ++ if other = connection then arrival.toOption.toList else [] :=
      flatMap_taken_of_last hsplit hnot
        (fun hmem => h.connection_eq hstage (mem_entriesAt.1 hmem)) _
    rw [record, hbegins, Link.reads_of_inbox hstage hinbox]
    simp only [stream, callsOn, Link.delivers, Option.toList_none, List.append_nil, Link.take_line]
    refine (h.unread other).trans ?_
    rw [Line.waiting_received hinbox, ← List.append_assoc, ← hflat]
    rfl

/-- Every step is accounted for. -/
theorem record : (chronicle.record event next).Custody where
  coherent := h.coherent.moves (Link.moves_of_step hstep)
  ascending := h.record_ascending hstep
  ahead hexchange _ hother := h.record_ahead hstep hexchange hother
  known hpacket := by
    rcases List.mem_append.1 hpacket with hold | hnew
    · obtain ⟨pair, hpair, rfl⟩ := List.mem_map.1 (h.known hold)
      exact List.mem_map.2 ⟨pair, mem_exchanges_record.2 (Or.inl hpair), rfl⟩
    · obtain ⟨-, connection, assembler, hstage⟩ := Link.mem_reads hnew
      exact List.mem_map.2 ⟨_, mem_exchanges_record.2 (Or.inl (h.reading hstage)), rfl⟩
  reading hstage := by
    rcases (Link.moves_of_step hstep).exchanging_cases hstage with ⟨before, hold⟩ | ⟨hbegins, -⟩
    · exact mem_exchanges_record.2 (Or.inl (h.reading hold))
    · exact mem_exchanges_record.2 (Or.inr hbegins)
  served hexchange := h.record_served hstep hexchange
  replaced hplace hmore := h.record_replaced hstep hplace hmore
  unread := h.record_unread hstep

end Steps

theorem run {events : List LinkEvent} (h : chronicle.Custody)
    (hrun : chronicle.run events = some last) : last.Custody :=
  run_induction Custody hrun h fun hcustody hstep => hcustody.record hstep

end Custody

end Chronicle

end WalletGateway
