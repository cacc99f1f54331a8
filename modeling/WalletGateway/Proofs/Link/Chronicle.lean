import WalletGateway.Proofs.Link.Moves
import WalletGateway.Proofs.Packet.Messages

/-!
# Exchanges and the packets that they read

A chronicle is a link with an account of what has arrived on each connection and of who has read it.
The line may fail and be disconnected at any time.

The packets of a connection are read by its exchanges, each of which leaves to the next one what
stands behind its message.  `Accounted` is the invariant: an exchange that has returned a message
has read the packets of this message and no others, and behind an exchange that has failed there is
no other on the same connection.

* What may happen to the link: `of_still`, `opens` and `arrives`.
* What an exchange may do: `begins`, `goesOn`, `breaksOff` and `fallsThrough`.
-/

namespace WalletGateway

/-! ## The account -/

namespace Line

/-- The packets that have arrived on a connection and are not read. -/
def waiting (line : Line) (connection : Nat) : List Packet :=
  ((line.inboxes[connection]?).getD []).filterMap Except.toOption

theorem waiting_opened (line : Line) (attempts : Nat) (openings : List (Option DeviceError))
    (connection : Nat) :
    waiting { line with attempts, openings, inboxes := line.inboxes ++ [[]] } connection
      = line.waiting connection := by
  simp only [waiting, List.getElem?_append, List.getElem?_singleton]
  split
  · rfl
  · rename_i hlt
    rw [List.getElem?_eq_none (Nat.not_lt.1 hlt)]
    split <;> rfl

theorem waiting_arrived {line : Line} {older : List (List Arrival)} {inbox : List Arrival}
    (hinboxes : line.inboxes = older ++ [inbox]) (arrivals : List Arrival) (connection : Nat) :
    waiting { line with inboxes := older ++ [inbox ++ arrivals] } connection
      = line.waiting connection
        ++ if connection = older.length then arrivals.filterMap Except.toOption else [] := by
  by_cases hsame : connection = older.length
  · subst hsame
    simp [waiting, hinboxes]
  · rw [waiting, waiting, hinboxes, if_neg hsame, List.append_nil, List.getElem?_append,
      List.getElem?_append]
    split
    · rfl
    · have hbeyond : connection - older.length ≠ 0 := by omega
      simp [hbeyond]

/-- What has arrived first is read first. -/
theorem waiting_received {line : Line} {connection : Nat} {arrival : Arrival}
    {arrivals : List Arrival}
    (hinbox : line.inboxes[connection]? = some (arrival :: arrivals)) (other : Nat) :
    line.waiting other = (if other = connection then arrival.toOption.toList else [])
      ++ waiting { line with inboxes := line.inboxes.set connection arrivals } other := by
  by_cases hsame : other = connection
  · subst hsame
    have hlt := (List.getElem?_eq_some_iff.1 hinbox).1
    simp only [waiting, hinbox, List.getElem?_set_self hlt, Option.getD_some, if_true]
    cases arrival <;> rfl
  · simp only [waiting, List.getElem?_set_ne (Ne.symm hsame), if_neg hsame, List.nil_append]

end Line

namespace Link

/-- The exchange that begins in an event, as a connection and a call, if one gets a connection. -/
def begins? (link : Link) : LinkEvent → Option (Nat × Nat)
  | .proceed index =>
    match link.calls[index]?, link.open?.1 with
    | some (.queued _), .ok connection => some (connection, index)
    | _, _ => none
  | _ => none

/-- The packets that arrive in an event, with their connection. -/
def delivers (link : Link) : LinkEvent → List (Nat × Packet)
  | .arrive arrivals =>
    (arrivals.filterMap Except.toOption).map fun packet => (link.line.inboxes.length - 1, packet)
  | _ => []

/-- The packet that is read in an event, with the call that reads it, if one does. -/
def reads (link : Link) : LinkEvent → List (Nat × Packet)
  | .proceed index =>
    match link.calls[index]? with
    | some (.exchanging connection epoch _) =>
      if epoch = link.epoch then
        match link.line.receive connection with
        | some (.ok packet, _) => [(index, packet)]
        | _ => []
      else []
    | _ => []
  | _ => []

/-- An exchange reads the oldest arrival. -/
theorem reads_of_inbox {link : Link} {index connection : Nat} {assembler : Assembler}
    {arrival : Arrival} {arrivals : List Arrival}
    (hstage : link.calls[index]? = some (.exchanging connection link.epoch assembler))
    (hinbox : link.line.inboxes[connection]? = some (arrival :: arrivals)) :
    link.reads (.proceed index)
      = arrival.toOption.toList.map fun packet => (index, packet) := by
  simp only [Link.reads, hstage, if_true, Line.receive, hinbox]
  cases arrival <;> rfl

end Link

/-- A link with an account of its exchanges. -/
structure Chronicle where
  link : Link
  /-- The exchanges that have got a connection: connection and call, in order. -/
  exchanges : List (Nat × Nat) := []
  /-- The packets that have arrived, with their connections, in order. -/
  arrived : List (Nat × Packet) := []
  /-- The packets that have been read, with the calls that have read them, in order. -/
  taken : List (Nat × Packet) := []

namespace Chronicle

/-- A link that has not been used. -/
def fresh (patience : Nat) : Chronicle :=
  { link := { patience } }

/-- The account of an event that leads to a link. -/
def record (chronicle : Chronicle) (event : LinkEvent) (link : Link) : Chronicle where
  link
  exchanges := chronicle.exchanges ++ (chronicle.link.begins? event).toList
  arrived := chronicle.arrived ++ chronicle.link.delivers event
  taken := chronicle.taken ++ chronicle.link.reads event

/-- The chronicle after an event; nothing where the event cannot occur. -/
def step (chronicle : Chronicle) (event : LinkEvent) : Option Chronicle :=
  (chronicle.link.step event).map (chronicle.record event)

/-- The chronicle after several events. -/
def run (chronicle : Chronicle) : List LinkEvent → Option Chronicle
  | [] => some chronicle
  | event :: events => (chronicle.step event).bind fun next => next.run events

/-- The account does not change what happens. -/
theorem run_link (chronicle : Chronicle) (events : List LinkEvent) :
    (chronicle.run events).map Chronicle.link = chronicle.link.run events := by
  induction events generalizing chronicle with
  | nil => rfl
  | cons event events ih =>
    simp only [run, step, Link.run]
    cases chronicle.link.step event with
    | none => rfl
    | some link => exact ih _

/-- What holds at the start and is kept by every step holds after a run. -/
theorem run_induction (property : Chronicle → Prop) {chronicle last : Chronicle}
    {events : List LinkEvent} (hrun : chronicle.run events = some last) (h : property chronicle)
    (hstep : ∀ {chronicle : Chronicle} {event : LinkEvent} {next : Link}, property chronicle →
      chronicle.link.step event = some next → property (chronicle.record event next)) :
    property last := by
  induction events generalizing chronicle with
  | nil => exact Option.some.inj hrun ▸ h
  | cons event events ih =>
    obtain ⟨middle, hmiddle, hrest⟩ := Option.bind_eq_some_iff.1 hrun
    obtain ⟨link, hlink, rfl⟩ := Option.map_eq_some_iff.1 hmiddle
    exact ih hrest (hstep h hlink)

/-- The calls that have had an exchange on a connection, in order. -/
def callsOn (chronicle : Chronicle) (connection : Nat) : List Nat :=
  entriesAt chronicle.exchanges connection

/-- The packets that have arrived on a connection, in order. -/
def stream (chronicle : Chronicle) (connection : Nat) : List Packet :=
  entriesAt chronicle.arrived connection

/-- The packets that a call has read, in order. -/
def takenBy (chronicle : Chronicle) (index : Nat) : List Packet :=
  entriesAt chronicle.taken index

/-- The packets that the first exchanges on a connection have read, in order. -/
def takenOn (chronicle : Chronicle) (connection count : Nat) : List Packet :=
  ((chronicle.callsOn connection).take count).flatMap chronicle.takenBy

theorem entriesAt_taken (chronicle : Chronicle) (index : Nat) (packets : List Packet) (turn : Nat) :
    entriesAt (chronicle.taken ++ packets.map fun packet => (index, packet)) turn
      = chronicle.takenBy turn ++ if turn = index then packets else [] := by
  rw [entriesAt_append, entriesAt_map, takenBy]

/-- What the last exchange of a connection reads stands next to what the exchanges of this
connection have read. -/
theorem flatMap_taken_of_last {chronicle : Chronicle} {connection index : Nat} {before : List Nat}
    (hsplit : chronicle.callsOn connection = before ++ [index]) (hnot : index ∉ before)
    {other : Nat} (hself : index ∈ chronicle.callsOn other → other = connection)
    (packets : List Packet) :
    (chronicle.callsOn other).flatMap
        (entriesAt (chronicle.taken ++ packets.map fun packet => (index, packet)))
      = (chronicle.callsOn other).flatMap chronicle.takenBy
        ++ if other = connection then packets else [] := by
  have hothers : ∀ {calls : List Nat}, index ∉ calls →
      calls.flatMap (entriesAt (chronicle.taken ++ packets.map fun packet => (index, packet)))
        = calls.flatMap chronicle.takenBy := by
    intro calls hnot
    rw [List.flatMap_def, List.flatMap_def]
    refine congrArg List.flatten (List.map_congr_left fun turn hturn => ?_)
    have hother : turn ≠ index := fun hsame => hnot (hsame ▸ hturn)
    rw [entriesAt_taken, if_neg hother, List.append_nil]
  by_cases hsame : other = connection
  · subst hsame
    simp only [hsplit, List.flatMap_append, hothers hnot, List.flatMap_singleton, entriesAt_taken,
      if_true, List.append_assoc]
  · rw [hothers fun hmem => hsame (hself hmem), if_neg hsame, List.append_nil]

/-- The exchanges and the packets of a chronicle fit together. -/
structure Accounted (chronicle : Chronicle) : Prop where
  newest : ∀ {connection : Nat}, chronicle.link.connection = some connection →
    connection + 1 = chronicle.link.line.inboxes.length
  /-- An exchange that has begun has ended, or it is under way on its connection. -/
  begun : ∀ {connection index : Nat}, (connection, index) ∈ chronicle.exchanges →
    connection < chronicle.link.line.inboxes.length ∧
      ((∃ result, chronicle.link.calls[index]? = some (.ended result)) ∨
        ∃ epoch assembler, chronicle.link.calls[index]?
          = some (.exchanging connection epoch assembler))
  ascending : (chronicle.exchanges.map Prod.snd).Pairwise (· < ·)
  known : ∀ {index : Nat} {packet : Packet}, (index, packet) ∈ chronicle.taken →
    index ∈ chronicle.exchanges.map Prod.snd
  /-- What is not read yet stands behind what the exchanges have read. -/
  unread : ∀ connection, chronicle.stream connection
    = (chronicle.callsOn connection).flatMap chronicle.takenBy
      ++ chronicle.link.line.waiting connection
  reading : ∀ {index connection epoch : Nat} {assembler : Assembler},
    chronicle.link.calls[index]? = some (.exchanging connection epoch assembler) →
      (connection, index) ∈ chronicle.exchanges ∧
        Assembler.IsPart (chronicle.takenBy index) assembler
  /-- A message comes from an exchange. -/
  answered : ∀ {index : Nat} {message : Message},
    chronicle.link.calls[index]? = some (.ended (.ok message)) →
      index ∈ chronicle.exchanges.map Prod.snd
  heard : ∀ {connection index : Nat} {message : Message},
    (connection, index) ∈ chronicle.exchanges →
      chronicle.link.calls[index]? = some (.ended (.ok message)) →
        Assembler.IsWhole (chronicle.takenBy index) message
  /-- On the open connection no exchange has failed. -/
  going : ∀ {connection index : Nat}, chronicle.link.connection = some connection →
    (connection, index) ∈ chronicle.exchanges →
      (∃ message, chronicle.link.calls[index]? = some (.ended (.ok message))) ∨
        ∃ epoch assembler, chronicle.link.calls[index]?
          = some (.exchanging connection epoch assembler)
  /-- Only the last exchange of a connection may have failed. -/
  earlier : ∀ {connection turn index : Nat},
    (chronicle.callsOn connection)[turn]? = some index →
      turn + 1 < (chronicle.callsOn connection).length →
        ∃ message, chronicle.link.calls[index]? = some (.ended (.ok message))

namespace Accounted

variable {chronicle : Chronicle} {link : Link}

theorem fresh (patience : Nat) : (Chronicle.fresh patience).Accounted where
  newest h := by simp [Chronicle.fresh] at h
  begun h := by simp [Chronicle.fresh] at h
  ascending := List.Pairwise.nil
  known h := by simp [Chronicle.fresh] at h
  unread connection := by
    simp [stream, callsOn, Chronicle.fresh, Line.waiting]
  reading h := by simp [Chronicle.fresh] at h
  answered h := by simp [Chronicle.fresh] at h
  heard h := by simp [Chronicle.fresh] at h
  going h := by simp [Chronicle.fresh] at h
  earlier h := by simp [Chronicle.fresh, callsOn] at h

/-- A change of the link that leaves the exchanges and the line alone, or closes the connection.
Calls may be added to the queue and may fail in it. -/
theorem of_still (h : chronicle.Accounted)
    (hconnection : link.connection = chronicle.link.connection ∨ link.connection = none)
    (hinboxes : link.line.inboxes = chronicle.link.line.inboxes)
    (hcalls : ∀ {connection index : Nat}, (connection, index) ∈ chronicle.exchanges →
      link.calls[index]? = chronicle.link.calls[index]?)
    (hstages : ∀ {index : Nat} {stage : CallStage}, link.calls[index]? = some stage →
      chronicle.link.calls[index]? = some stage ∨ (∃ request, stage = .queued request) ∨
        ∃ error, stage = .ended (.error error)) :
    ({ chronicle with link } : Chronicle).Accounted := by
  exact {
    newest := fun hsome => hinboxes ▸ h.newest (Link.was_open hconnection hsome)
    begun := fun hexchange => by
      simp only [hinboxes, hcalls hexchange]
      exact h.begun hexchange
    ascending := h.ascending
    known := h.known
    unread := fun connection => by
      simp only [Line.waiting, hinboxes]
      exact h.unread connection
    reading := fun hstage => by
      rcases hstages hstage with hsame | ⟨_, hqueued⟩ | ⟨_, hfailed⟩
      · exact h.reading hsame
      · contradiction
      · contradiction
    answered := fun hended => by
      rcases hstages hended with hsame | ⟨_, hqueued⟩ | ⟨_, hfailed⟩
      · exact h.answered hsame
      · contradiction
      · simp at hfailed
    heard := fun hexchange hended => h.heard hexchange (hcalls hexchange ▸ hended)
    going := fun hsome hexchange => by
      simp only [hcalls hexchange]
      exact h.going (Link.was_open hconnection hsome) hexchange
    earlier := fun hturn hmore => by
      have hexchange := mem_entriesAt.1 (List.mem_of_getElem? hturn)
      simp only [hcalls hexchange]
      exact h.earlier hturn hmore }

/-- Nothing has happened yet on a connection that is opened. -/
theorem opens (h : chronicle.Accounted) {result : Except DeviceError Nat}
    (hopens : chronicle.link.Opens result link) :
    ({ chronicle with link } : Chronicle).Accounted := by
  cases hopens with
  | kept => exact h
  | failed hnone => exact h.of_still (Or.inl rfl) rfl (fun _ => rfl) Or.inl
  | opened hnone attempts openings =>
    exact {
      newest := fun hsome => by
        obtain rfl := Option.some.inj hsome
        simp
      begun := fun hexchange => by
        obtain ⟨hlt, hstage⟩ := h.begun hexchange
        refine ⟨?_, hstage⟩
        simp only [List.length_append]
        omega
      ascending := h.ascending
      known := h.known
      unread := fun connection => by
        rw [Line.waiting_opened]
        exact h.unread connection
      reading := h.reading
      answered := h.answered
      heard := h.heard
      going := fun hsome hexchange => by
        obtain rfl := Option.some.inj hsome
        exact absurd (h.begun hexchange).1 (Nat.lt_irrefl _)
      earlier := h.earlier }

/-- What arrives stands behind everything else on the newest connection. -/
theorem arrives (h : chronicle.Accounted) {older : List (List Arrival)} {inbox : List Arrival}
    (hinboxes : chronicle.link.line.inboxes = older ++ [inbox]) (arrivals : List Arrival) :
    ({ chronicle with
      link := { chronicle.link with
        line := { chronicle.link.line with inboxes := older ++ [inbox ++ arrivals] } }
      arrived := chronicle.arrived ++ chronicle.link.delivers (.arrive arrivals) } :
        Chronicle).Accounted := by
  have hlength : (older ++ [inbox ++ arrivals]).length = chronicle.link.line.inboxes.length := by
    simp [hinboxes]
  have hlast : chronicle.link.line.inboxes.length - 1 = older.length := by simp [hinboxes]
  exact {
    newest := fun hsome => hlength ▸ h.newest hsome
    begun := fun hexchange => hlength ▸ h.begun hexchange
    ascending := h.ascending
    known := h.known
    unread := fun connection => by
      rw [Line.waiting_arrived hinboxes, ← List.append_assoc, stream, Link.delivers, hlast,
        entriesAt_append, entriesAt_map]
      exact congrArg (· ++ _) (h.unread connection)
    reading := h.reading
    answered := h.answered
    heard := h.heard
    going := h.going
    earlier := h.earlier }

/-- On the open connection an exchange that has ended has returned a message. -/
theorem returned_of_ended (h : chronicle.Accounted) {connection index : Nat}
    {result : Except DeviceError Message} (hopen : chronicle.link.connection = some connection)
    (hexchange : (connection, index) ∈ chronicle.exchanges)
    (hended : chronicle.link.calls[index]? = some (.ended result)) :
    ∃ message, chronicle.link.calls[index]? = some (.ended (.ok message)) := by
  rcases h.going hopen hexchange with hreturned | ⟨_, _, hexchanging⟩
  · exact hreturned
  · rw [hended] at hexchanging
    simp at hexchanging

/-- A call has one exchange at most. -/
theorem connection_eq (h : chronicle.Accounted) {connection other index epoch : Nat}
    {assembler : Assembler}
    (hstage : chronicle.link.calls[index]? = some (.exchanging connection epoch assembler))
    (hexchange : (other, index) ∈ chronicle.exchanges) : other = connection := by
  rcases (h.begun hexchange).2 with ⟨result, hended⟩ | ⟨_, _, hexchanging⟩
  · rw [hstage] at hended
    simp at hended
  · rw [hstage] at hexchanging
    simp only [Option.some.injEq, CallStage.exchanging.injEq] at hexchanging
    exact hexchanging.1.symm

/-- A call begins its exchange on the open connection. -/
theorem begins (h : chronicle.Accounted) {connection index epoch : Nat} {request : Message}
    (hopen : chronicle.link.connection = some connection)
    (hqueued : chronicle.link.calls[index]? = some (.queued request))
    (hended : ∀ {other turn : Nat}, (other, turn) ∈ chronicle.exchanges →
      turn < index ∧ ∃ result, chronicle.link.calls[turn]? = some (.ended result))
    (hconnection : link.connection = chronicle.link.connection)
    (hinboxes : link.line.inboxes = chronicle.link.line.inboxes)
    (hcalls : link.calls
      = chronicle.link.calls.set index (.exchanging connection epoch .empty)) :
    ({ chronicle with
      link, exchanges := chronicle.exchanges ++ [(connection, index)] } : Chronicle).Accounted := by
  have hlt := (List.getElem?_eq_some_iff.1 hqueued).1
  have hnew : link.calls[index]? = some (.exchanging connection epoch .empty) := by
    rw [hcalls, List.getElem?_set_self hlt]
  have hold : ∀ {other turn : Nat}, (other, turn) ∈ chronicle.exchanges →
      link.calls[turn]? = chronicle.link.calls[turn]? := by
    intro other turn hexchange
    rw [hcalls, List.getElem?_set_ne (Nat.ne_of_gt (hended hexchange).1)]
  -- The call has read nothing, for its exchange begins only now.
  have hnothing : chronicle.takenBy index = [] := by
    refine entriesAt_eq_nil fun packet hpacket => ?_
    obtain ⟨⟨other, turn⟩, hexchange, rfl⟩ := List.mem_map.1 (h.known hpacket)
    exact Nat.lt_irrefl _ (hended hexchange).1
  have hcallsOn : ∀ other, entriesAt (chronicle.exchanges ++ [(connection, index)]) other
      = chronicle.callsOn other ++ if other = connection then [index] else [] :=
    fun _ => entriesAt_concat _ _
  exact {
    newest := fun hsome => hinboxes ▸ h.newest (hconnection ▸ hsome)
    begun := fun hexchange => by
      simp only [hinboxes]
      rcases List.mem_append.1 hexchange with hbefore | hnow
      · rw [hold hbefore]
        exact h.begun hbefore
      · obtain ⟨rfl, rfl⟩ := Prod.mk.inj (List.mem_singleton.1 hnow)
        have hnewest := h.newest hopen
        exact ⟨by omega, Or.inr ⟨epoch, .empty, hnew⟩⟩
    ascending := by
      rw [List.map_append, List.pairwise_append]
      refine ⟨h.ascending, List.pairwise_singleton _ _, ?_⟩
      intro turn hturn last hlast
      obtain ⟨⟨other, turn⟩, hexchange, rfl⟩ := List.mem_map.1 hturn
      rw [List.mem_singleton.1 hlast]
      exact (hended hexchange).1
    known := fun hpacket => by
      rw [List.map_append]
      exact List.mem_append_left _ (h.known hpacket)
    unread := fun other => by
      have hwaiting : link.line.waiting other = chronicle.link.line.waiting other := by
        simp only [Line.waiting, hinboxes]
      have hflat : (entriesAt (chronicle.exchanges ++ [(connection, index)]) other).flatMap
          chronicle.takenBy = (chronicle.callsOn other).flatMap chronicle.takenBy := by
        rw [hcallsOn, List.flatMap_append]
        split
        · simp [hnothing]
        · simp
      exact (h.unread other).trans (hflat ▸ hwaiting ▸ rfl)
    reading := fun {turn other epoch assembler} hstage => by
      rw [hcalls] at hstage
      rcases Link.stage_cases_of_set hstage with ⟨rfl, hsame⟩ | ⟨-, hbefore⟩
      · obtain ⟨rfl, rfl, rfl⟩ := CallStage.exchanging.inj hsame
        refine ⟨List.mem_append_right _ (List.mem_singleton_self _), ?_⟩
        exact hnothing ▸ Assembler.isPart_nil
      · obtain ⟨hexchange, hpart⟩ := h.reading hbefore
        exact ⟨List.mem_append_left _ hexchange, hpart⟩
    answered := fun hreturned => by
      rw [hcalls] at hreturned
      rcases Link.stage_cases_of_set hreturned with ⟨-, hsame⟩ | ⟨-, hbefore⟩
      · contradiction
      · rw [List.map_append]
        exact List.mem_append_left _ (h.answered hbefore)
    heard := fun hexchange hreturned => by
      rcases List.mem_append.1 hexchange with hbefore | hnow
      · exact h.heard hbefore (hold hbefore ▸ hreturned)
      · obtain ⟨rfl, rfl⟩ := Prod.mk.inj (List.mem_singleton.1 hnow)
        rw [hnew] at hreturned
        simp at hreturned
    going := fun hsome hexchange => by
      rcases List.mem_append.1 hexchange with hbefore | hnow
      · rw [hold hbefore]
        exact h.going (hconnection ▸ hsome) hbefore
      · obtain ⟨rfl, rfl⟩ := Prod.mk.inj (List.mem_singleton.1 hnow)
        exact Or.inr ⟨epoch, .empty, hnew⟩
    earlier := fun {other turn call} hturn hmore => by
      simp only [callsOn, hcallsOn] at hturn hmore
      split at hturn
      · rename_i hsame
        subst hsame
        rw [if_pos rfl, List.length_append, List.length_singleton] at hmore
        rw [List.getElem?_append_left (by omega)] at hturn
        have hexchange := mem_entriesAt.1 (List.mem_of_getElem? hturn)
        obtain ⟨-, result, hresult⟩ := hended hexchange
        rw [hold hexchange]
        exact h.returned_of_ended hopen hexchange hresult
      · rename_i hother
        rw [if_neg hother, List.append_nil] at hmore
        rw [List.append_nil] at hturn
        rw [hold (mem_entriesAt.1 (List.mem_of_getElem? hturn))]
        exact h.earlier hturn hmore }

/-- An exchange that is under way is the last one on its connection. -/
theorem last_of_exchanging (h : chronicle.Accounted) {connection index epoch : Nat}
    {assembler : Assembler}
    (hstage : chronicle.link.calls[index]? = some (.exchanging connection epoch assembler)) :
    ∃ before, chronicle.callsOn connection = before ++ [index] ∧ index ∉ before := by
  have hmem : index ∈ chronicle.callsOn connection := mem_entriesAt.2 (h.reading hstage).1
  obtain ⟨turn, hturn⟩ := List.mem_iff_getElem?.1 hmem
  have hnone : ¬ turn + 1 < (chronicle.callsOn connection).length := by
    intro hmore
    obtain ⟨message, hended⟩ := h.earlier hturn hmore
    rw [hstage] at hended
    simp at hended
  have hlast : (chronicle.callsOn connection).getLast? = some index := by
    have hlt := (List.getElem?_eq_some_iff.1 hturn).1
    have hplace : (chronicle.callsOn connection).length - 1 = turn := by omega
    rw [List.getLast?_eq_getElem?, hplace, hturn]
  obtain ⟨before, hsplit⟩ := List.getLast?_eq_some_iff.1 hlast
  refine ⟨before, hsplit, fun hbefore => ?_⟩
  have hascending : (chronicle.callsOn connection).Pairwise (· < ·) :=
    h.ascending.sublist (entriesAt_sublist _ connection)
  rw [hsplit, List.pairwise_append] at hascending
  exact Nat.lt_irrefl _ (hascending.2.2 index hbefore index (List.mem_singleton_self _))

/-- What an exchange reads stands next to what the exchanges of its connection have read. -/
theorem flatMap_taken (h : chronicle.Accounted) {connection index epoch : Nat}
    {assembler : Assembler}
    (hstage : chronicle.link.calls[index]? = some (.exchanging connection epoch assembler))
    (packets : List Packet) (other : Nat) :
    (chronicle.callsOn other).flatMap
        (entriesAt (chronicle.taken ++ packets.map fun packet => (index, packet)))
      = (chronicle.callsOn other).flatMap chronicle.takenBy
        ++ if other = connection then packets else [] := by
  obtain ⟨before, hsplit, hnot⟩ := h.last_of_exchanging hstage
  refine flatMap_taken_of_last hsplit hnot (fun hmem => ?_) packets
  exact h.connection_eq hstage (mem_entriesAt.1 hmem)

/-- How an exchange can go on when it has read some packets, and whether a connection is open
then. -/
inductive Outcome (connection : Nat) (packets : List Packet) (opened : Option Nat) :
    CallStage → Prop where
  | reads (epoch : Nat) {assembler : Assembler} (h : Assembler.IsPart packets assembler) :
      Outcome connection packets opened (.exchanging connection epoch assembler)
  | returns {message : Message} (h : Assembler.IsWhole packets message) :
      Outcome connection packets opened (.ended (.ok message))
  | fails (error : DeviceError) (h : opened = none) :
      Outcome connection packets opened (.ended (.error error))

/-- An exchange that is under way takes packets from its connection and goes on. -/
theorem goesOn (h : chronicle.Accounted) {connection index epoch : Nat} {assembler : Assembler}
    (hstage : chronicle.link.calls[index]? = some (.exchanging connection epoch assembler))
    {stage : CallStage} {packets : List Packet}
    (hcalls : link.calls = chronicle.link.calls.set index stage)
    (hconnection : link.connection = chronicle.link.connection ∨ link.connection = none)
    (hlength : link.line.inboxes.length = chronicle.link.line.inboxes.length)
    (hwaiting : ∀ other, chronicle.link.line.waiting other
      = (if other = connection then packets else []) ++ link.line.waiting other)
    (houtcome : Outcome connection (chronicle.takenBy index ++ packets) link.connection stage) :
    ({ chronicle with
      link
      taken := chronicle.taken ++ packets.map fun packet => (index, packet) } :
        Chronicle).Accounted := by
  have hlt := (List.getElem?_eq_some_iff.1 hstage).1
  have hnew : link.calls[index]? = some stage := by rw [hcalls, List.getElem?_set_self hlt]
  have hold : ∀ {turn : Nat}, turn ≠ index → link.calls[turn]? = chronicle.link.calls[turn]? := by
    intro turn hother
    rw [hcalls, List.getElem?_set_ne (Ne.symm hother)]
  have hself : entriesAt (chronicle.taken ++ packets.map fun packet => (index, packet)) index
      = chronicle.takenBy index ++ packets := by
    rw [entriesAt_taken, if_pos rfl]
  have hothers : ∀ {turn : Nat}, turn ≠ index →
      entriesAt (chronicle.taken ++ packets.map fun packet => (index, packet)) turn
        = chronicle.takenBy turn := by
    intro turn hother
    rw [entriesAt_taken, if_neg hother, List.append_nil]
  have hexchange := (h.reading hstage).1
  exact {
    newest := fun hsome => hlength ▸ h.newest (Link.was_open hconnection hsome)
    begun := fun {other turn} hmem => by
      refine ⟨hlength ▸ (h.begun hmem).1, ?_⟩
      by_cases hsame : turn = index
      · subst hsame
        obtain rfl := h.connection_eq hstage hmem
        simp only [hnew]
        cases houtcome with
        | reads epoch => exact Or.inr ⟨epoch, _, rfl⟩
        | returns | fails => exact Or.inl ⟨_, rfl⟩
      · simp only [hold hsame]
        exact (h.begun hmem).2
    ascending := h.ascending
    known := fun hpacket => by
      rcases List.mem_append.1 hpacket with hbefore | hnow
      · exact h.known hbefore
      · obtain ⟨_, -, hsame⟩ := List.mem_map.1 hnow
        obtain ⟨rfl, rfl⟩ := Prod.mk.inj hsame
        exact List.mem_map.2 ⟨_, hexchange, rfl⟩
    unread := fun other => by
      have hflat := h.flatMap_taken hstage packets other
      calc
        chronicle.stream other
          = (chronicle.callsOn other).flatMap chronicle.takenBy
              ++ chronicle.link.line.waiting other := h.unread other
        _ = (chronicle.callsOn other).flatMap
              (entriesAt (chronicle.taken ++ packets.map fun packet => (index, packet)))
              ++ link.line.waiting other := by rw [hflat, hwaiting, List.append_assoc]
    reading := fun {turn other epoch assembler} hexchanging => by
      by_cases hsame : turn = index
      · subst hsame
        obtain rfl := Option.some.inj (hnew.symm.trans hexchanging)
        cases houtcome with
        | reads _ hpart =>
          simp only [takenBy, hself]
          exact ⟨hexchange, hpart⟩
      · simp only [takenBy, hothers hsame]
        exact h.reading (hold hsame ▸ hexchanging)
    answered := fun {turn message} hreturned => by
      by_cases hsame : turn = index
      · subst hsame
        exact List.mem_map.2 ⟨_, hexchange, rfl⟩
      · exact h.answered (hold hsame ▸ hreturned)
    heard := fun {other turn message} hmem hreturned => by
      by_cases hsame : turn = index
      · subst hsame
        obtain rfl := Option.some.inj (hnew.symm.trans hreturned)
        cases houtcome with
        | returns hwhole =>
          simp only [takenBy, hself]
          exact hwhole
      · simp only [takenBy, hothers hsame]
        exact h.heard hmem (hold hsame ▸ hreturned)
    going := fun {other turn} hsome hmem => by
      by_cases hsame : turn = index
      · subst hsame
        obtain rfl := h.connection_eq hstage hmem
        simp only [hnew]
        cases houtcome with
        | reads epoch => exact Or.inr ⟨epoch, _, rfl⟩
        | returns => exact Or.inl ⟨_, rfl⟩
        | fails error hnone =>
          rw [hnone] at hsome
          contradiction
      · simp only [hold hsame]
        exact h.going (Link.was_open hconnection hsome) hmem
    earlier := fun {other turn call} hturn hmore => by
      obtain ⟨message, hended⟩ := h.earlier hturn hmore
      have hother : call ≠ index := by
        rintro rfl
        rw [hstage] at hended
        simp at hended
      simp only [hold hother]
      exact ⟨message, hended⟩ }

/-- An exchange fails without reading anything more. -/
theorem breaksOff (h : chronicle.Accounted) {connection index epoch : Nat} {assembler : Assembler}
    {error : DeviceError}
    (hstage : chronicle.link.calls[index]? = some (.exchanging connection epoch assembler))
    (hcalls : link.calls = chronicle.link.calls.set index (.ended (.error error)))
    (hconnection : link.connection = none)
    (hinboxes : link.line.inboxes = chronicle.link.line.inboxes) :
    ({ chronicle with link } : Chronicle).Accounted := by
  have hwaiting : ∀ other, chronicle.link.line.waiting other
      = (if other = connection then [] else []) ++ link.line.waiting other := by
    intro other
    rw [ite_self, List.nil_append, Line.waiting, Line.waiting, hinboxes]
  have hgoes := h.goesOn hstage hcalls (Or.inr hconnection) (congrArg List.length hinboxes)
    hwaiting (.fails error hconnection)
  simpa only [List.map_nil, List.append_nil] using hgoes

/-- A call begins its exchange, and the exchange fails before it reads anything. -/
theorem fallsThrough (h : chronicle.Accounted) {connection index : Nat} {request : Message}
    {error : DeviceError}
    (hopen : chronicle.link.connection = some connection)
    (hqueued : chronicle.link.calls[index]? = some (.queued request))
    (hended : ∀ {other turn : Nat}, (other, turn) ∈ chronicle.exchanges →
      turn < index ∧ ∃ result, chronicle.link.calls[turn]? = some (.ended result))
    (hcalls : link.calls = chronicle.link.calls.set index (.ended (.error error)))
    (hconnection : link.connection = none)
    (hinboxes : link.line.inboxes = chronicle.link.line.inboxes) :
    ({ chronicle with
      link, exchanges := chronicle.exchanges ++ [(connection, index)] } : Chronicle).Accounted := by
  have hlt := (List.getElem?_eq_some_iff.1 hqueued).1
  have hbegins : ({ chronicle with
      link := { chronicle.link with
        calls := chronicle.link.calls.set index (.exchanging connection 0 .empty) }
      exchanges := chronicle.exchanges ++ [(connection, index)] } : Chronicle).Accounted :=
    h.begins hopen hqueued hended rfl rfl rfl
  have hset : link.calls = (chronicle.link.calls.set index (.exchanging connection 0 .empty)).set
      index (.ended (.error error)) := by
    rw [List.set_set, hcalls]
  exact hbegins.breaksOff (List.getElem?_set_self hlt) hset hconnection hinboxes

end Accounted

end Chronicle

end WalletGateway
