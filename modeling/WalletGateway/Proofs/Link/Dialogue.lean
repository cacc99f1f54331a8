import WalletGateway.Proofs.Link.Moves
import WalletGateway.Proofs.Link.Steady
import WalletGateway.Proofs.Packet.Stream

/-!
# The dialogue of a link and a device

A dialogue is a link on a line that does not fail, together with the device at the other end.  Calls
and cancellations start at any time, and go on in any order.  The device answers messages that it
has received, in the order of their arrival, each of them at most once; the packets of its answers
arrive whenever they like.  Nobody drops a call or disconnects.

The link does not know which message an answer belongs to: an exchange takes what it reads.
`Paired` is the invariant behind that.  As many answers have been read as exchanges have ended, so
that an exchange and the answer that it returns have the same number (`Moves.hear`).
-/

namespace WalletGateway

/-- A link and its device. -/
structure Dialogue where
  link : Link
  /-- The messages that were written, in order. -/
  sent : List Message := []
  /-- The calls that have begun an exchange, in order. -/
  exchanges : List Nat := []
  /-- The answers of the device, each with the number of the message that it answers. -/
  replies : List (Nat × Message) := []
  /-- The packets of the answers that have not arrived. -/
  transit : List Packet := []

/-- What happens in a dialogue. -/
inductive DialogueEvent where
  | call (request : Message)
  | cancel
  | wait (milliseconds : Nat)
  /-- A call goes on. -/
  | proceed (index : Nat)
  /-- The device answers a message. -/
  | reply (number : Nat) (message : Message)
  /-- Some of the packets that are under way arrive. -/
  | arrive (count : Nat)

namespace Dialogue

/-- A link that has not been used, and its device. -/
def fresh (patience : Nat) : Dialogue :=
  { link := { patience } }

/-- The dialogue after an event; nothing where the event cannot occur. -/
def step (dialogue : Dialogue) : DialogueEvent → Option Dialogue
  | .call request =>
    (dialogue.link.step (.call request)).map fun link => { dialogue with link }
  | .cancel =>
    -- Behind other calls the request is written at once; else it is written when it has its turn.
    let written := if dialogue.link.queue.isEmpty then [] else [DeviceRequest.cancel.message]
    (dialogue.link.step .cancel).map fun link =>
      { dialogue with link, sent := dialogue.sent ++ written }
  | .wait milliseconds =>
    (dialogue.link.step (.wait milliseconds)).map fun link => { dialogue with link }
  | .proceed index =>
    (dialogue.link.step (.proceed index)).map fun link =>
      match dialogue.link.calls[index]? with
      | some (.queued request) =>
        { dialogue with
          link
          sent := dialogue.sent ++ [request]
          exchanges := dialogue.exchanges ++ [index] }
      | _ => { dialogue with link }
  | .reply number message =>
    if (∀ reply ∈ dialogue.replies, reply.1 < number) ∧ number < dialogue.sent.length ∧
        message.payload.length ≤ Packet.maxPayload then
      some { dialogue with
        replies := dialogue.replies ++ [(number, message)]
        transit := dialogue.transit ++ message.packets }
    else none
  | .arrive count =>
    (dialogue.link.step (.arrive ((dialogue.transit.take count).map .ok))).map fun link =>
      { dialogue with link, transit := dialogue.transit.drop count }

/-- The dialogue after several events. -/
def run (dialogue : Dialogue) : List DialogueEvent → Option Dialogue
  | [] => some dialogue
  | event :: events => (dialogue.step event).bind fun next => next.run events

/-- What is true at the start, and is kept by every event, is true at the end. -/
theorem run_induction (property : Dialogue → Prop) {start last : Dialogue}
    {events : List DialogueEvent} (hrun : start.run events = some last) (hstart : property start)
    (hstep : ∀ {dialogue event next}, property dialogue → dialogue.step event = some next →
      property next) : property last := by
  induction events generalizing start with
  | nil => exact Option.some.inj hrun ▸ hstart
  | cons event events ih =>
    obtain ⟨next, hnext, hrest⟩ := Option.bind_eq_some_iff.1 hrun
    exact ih hrest (hstep hstart hnext)

/-- The exchanges in `ended` are over, the call `reader` is at the head of the queue and reads, and
what it will read are the answers from number `ended.length` on. -/
structure Paired (dialogue : Dialogue) (ended : List Nat) (reader : Option (Nat × Assembler)) :
    Prop where
  steady : dialogue.link.IsSteady
  exchanges_eq : dialogue.exchanges = ended ++ (reader.map Prod.fst).toList
  reading : ∀ {index connection epoch assembler},
    dialogue.link.calls[index]? = some (.exchanging connection epoch assembler) →
      connection = 0 ∧ epoch = 0 ∧ reader = some (index, assembler)
  turn : ∀ {index assembler}, reader = some (index, assembler) →
    dialogue.link.turn = some index ∧
      dialogue.link.calls[index]? = some (.exchanging 0 0 assembler)
  heard : ended.length ≤ dialogue.replies.length
  unread : ∃ packets, dialogue.link.inbox = packets.map .ok ∧
    ((reader.map Prod.snd).getD .empty).Delivers (packets ++ dialogue.transit)
      ((dialogue.replies.drop ended.length).map Prod.snd)

/-- The events of a dialogue and what they lead to. -/
inductive Moves (dialogue : Dialogue) : DialogueEvent → Dialogue → Prop where
  /-- A call queues up. -/
  | call (request : Message) :
      Moves dialogue (.call request)
        { dialogue with link := dialogue.link.enqueue (.queued request) }
  /-- A cancellation that is alone is a call like any other. -/
  | cancel (hidle : dialogue.link.queue = []) :
      Moves dialogue .cancel
        { dialogue with link := dialogue.link.enqueue (.queued DeviceRequest.cancel.message) }
  /-- A cancellation writes its request past the queue. -/
  | interrupt (hbusy : dialogue.link.queue ≠ []) :
      Moves dialogue .cancel
        { dialogue with
          link := (dialogue.link.send DeviceRequest.cancel.message).enqueue
            (.yielding (dialogue.link.now + dialogue.link.patience))
          sent := dialogue.sent ++ [DeviceRequest.cancel.message] }
  | wait (milliseconds : Nat) :
      Moves dialogue (.wait milliseconds)
        { dialogue with link := { dialogue.link with now := dialogue.link.now + milliseconds } }
  /-- A call begins its exchange. -/
  | ask (index : Nat) (request : Message)
      (hstage : dialogue.link.calls[index]? = some (.queued request))
      (hturn : dialogue.link.turn = some index) :
      Moves dialogue (.proceed index)
        { dialogue with
          link := (dialogue.link.send request).stay index (.exchanging 0 0 .empty)
          sent := dialogue.sent ++ [request]
          exchanges := dialogue.exchanges ++ [index] }
  /-- An exchange reads a packet, and goes on reading. -/
  | read (index : Nat) (assembler next : Assembler) (packet : Packet) (line : Line)
      (hstage : dialogue.link.calls[index]? = some (.exchanging 0 0 assembler))
      (hreceive : dialogue.link.line.receive 0 = some (.ok packet, line))
      (hpush : assembler.push packet = (.ok none, next)) :
      Moves dialogue (.proceed index)
        { dialogue with
          link := ({ dialogue.link with line } : Link).stay index (.exchanging 0 0 next) }
  /-- An exchange reads the last packet of the answer that has its own number. -/
  | hear (index : Nat) (assembler : Assembler) (packet : Packet) (line : Line) (message : Message)
      (hstage : dialogue.link.calls[index]? = some (.exchanging 0 0 assembler))
      (hreceive : dialogue.link.line.receive 0 = some (.ok packet, line))
      (hpush : assembler.push packet = (.ok (some message), .empty))
      (hnumber : ∃ turn : Nat, dialogue.exchanges[turn]? = some index ∧
        (dialogue.replies[turn]?).map Prod.snd = some message) :
      Moves dialogue (.proceed index)
        { dialogue with link := ({ dialogue.link with line } : Link).finish index (.ok message) }
  /-- A cancellation has its turn, or runs out of patience. -/
  | yield (index deadline : Nat) (result : Except DeviceError Message)
      (hstage : dialogue.link.calls[index]? = some (.yielding deadline)) :
      Moves dialogue (.proceed index)
        { dialogue with link := dialogue.link.finish index result }
  | reply (number : Nat) (message : Message)
      (hnumbers : ∀ reply ∈ dialogue.replies, reply.1 < number)
      (hsent : number < dialogue.sent.length)
      (hlength : message.payload.length ≤ Packet.maxPayload) :
      Moves dialogue (.reply number message)
        { dialogue with
          replies := dialogue.replies ++ [(number, message)]
          transit := dialogue.transit ++ message.packets }
  | arrive (count : Nat) (line : Line)
      (harrive : dialogue.link.line.arrive ((dialogue.transit.take count).map .ok) = some line) :
      Moves dialogue (.arrive count)
        { dialogue with
          link := { dialogue.link with line }
          transit := dialogue.transit.drop count }

namespace Paired

variable {dialogue next : Dialogue} {ended : List Nat} {reader : Option (Nat × Assembler)}
  {event : DialogueEvent}

/-- What an exchange reads next is part of the answer that has its number. -/
theorem receive_cases (h : dialogue.Paired ended reader) {index connection epoch : Nat}
    {assembler : Assembler}
    (hstage : dialogue.link.calls[index]? = some (.exchanging connection epoch assembler))
    {arrival : Arrival} {line : Line}
    (hreceive : dialogue.link.line.receive 0 = some (arrival, line)) :
    ∃ packet packets, arrival = .ok packet ∧
      ({ dialogue.link with line } : Link).inbox = packets.map .ok ∧
      ((∃ next, assembler.push packet = (.ok none, next) ∧
          next.Delivers (packets ++ dialogue.transit)
            ((dialogue.replies.drop ended.length).map Prod.snd)) ∨
        ∃ message, assembler.push packet = (.ok (some message), .empty) ∧
          (dialogue.replies[ended.length]?).map Prod.snd = some message ∧
          Assembler.empty.Delivers (packets ++ dialogue.transit)
            ((dialogue.replies.drop (ended.length + 1)).map Prod.snd)) := by
  obtain ⟨-, -, rfl⟩ := h.reading hstage
  obtain ⟨packets, hinbox, hdelivers⟩ := h.unread
  obtain ⟨-, hfirst, -⟩ := h.steady.receive_eq hreceive
  rw [hinbox] at hfirst
  cases packets with
  | nil => contradiction
  | cons packet packets =>
    obtain ⟨hpacket, hrest⟩ := List.cons.inj hfirst
    refine ⟨packet, packets, hpacket.symm, hrest.symm, ?_⟩
    rcases hdelivers.push_cases with hmore | ⟨message, rest, hpush, hmessages, hempty⟩
    · exact Or.inl hmore
    · obtain ⟨reply, replies, hreplies, rfl, rfl⟩ := List.map_eq_cons_iff.1 hmessages
      refine Or.inr ⟨reply.2, hpush, ?_, ?_⟩
      · rw [← List.head?_drop, hreplies]
        rfl
      · rw [← List.tail_drop, hreplies]
        exact hempty

/-- There are no other events. -/
theorem moves (h : dialogue.Paired ended reader) (hstep : dialogue.step event = some next) :
    dialogue.Moves event next := by
  cases event with
  | call request =>
    obtain rfl := Option.some.inj hstep
    exact .call request
  | cancel =>
    by_cases hidle : dialogue.link.queue = []
    · simp only [step, Link.step, Link.cancel, hidle, List.isEmpty_nil, if_true, Option.map_some,
        List.append_nil] at hstep
      obtain rfl := Option.some.inj hstep
      exact .cancel hidle
    · have hbusy : dialogue.link.queue.isEmpty = false := by simpa using hidle
      simp only [step, Link.step, h.steady.cancel_eq hidle, hbusy, Bool.false_eq_true, if_false,
        Option.map_some] at hstep
      obtain rfl := Option.some.inj hstep
      exact .interrupt hidle
  | wait milliseconds =>
    obtain rfl := Option.some.inj hstep
    exact .wait milliseconds
  | proceed index =>
    cases hcall : dialogue.link.calls[index]? with
    | none =>
      simp only [step, Link.step, Link.proceed?, hcall] at hstep
      contradiction
    | some stage =>
      cases stage with
      | queued request =>
        by_cases hturn : dialogue.link.turn = some index
        · simp only [step, Link.step, Link.proceed?, hcall, if_pos hturn, h.steady.exchange_eq]
            at hstep
          obtain rfl := Option.some.inj hstep
          exact .ask index request hcall hturn
        · simp only [step, Link.step, Link.proceed?, hcall, if_neg hturn] at hstep
          contradiction
      | exchanging connection epoch assembler =>
        obtain ⟨rfl, rfl, hreader⟩ := h.reading hcall
        have hepoch : ¬ 0 ≠ dialogue.link.epoch := by simp [h.steady.epoch]
        simp only [step, Link.step, Link.proceed?, hcall, if_neg hepoch] at hstep
        cases hreceive : dialogue.link.line.receive 0 with
        | none =>
          simp only [hreceive] at hstep
          contradiction
        | some received =>
          obtain ⟨arrival, line⟩ := received
          simp only [hreceive] at hstep
          obtain rfl := Option.some.inj hstep
          obtain ⟨packet, packets, rfl, -, ⟨next, hpush, -⟩ | ⟨message, hpush, hmessage, -⟩⟩ :=
            h.receive_cases hcall hreceive
          · simp only [Link.take, hpush]
            exact .read index assembler next packet line hcall hreceive hpush
          · simp only [Link.take, hpush]
            refine .hear index assembler packet line message hcall hreceive hpush
              ⟨ended.length, ?_, hmessage⟩
            simp [h.exchanges_eq, hreader]
      | yielding deadline =>
        simp only [step, Link.step, Link.proceed?, hcall] at hstep
        split at hstep
        · obtain rfl := Option.some.inj hstep
          exact .yield index deadline _ hcall
        · split at hstep
          · obtain rfl := Option.some.inj hstep
            exact .yield index deadline _ hcall
          · contradiction
      | ended | dropped =>
        simp only [step, Link.step, Link.proceed?, hcall] at hstep
        contradiction
  | reply number message =>
    simp only [step] at hstep
    split at hstep
    · rename_i hreply
      obtain rfl := Option.some.inj hstep
      exact .reply number message hreply.1 hreply.2.1 hreply.2.2
    · contradiction
  | arrive count =>
    simp only [step, Link.step, Option.map_map, Option.map_eq_some_iff] at hstep
    obtain ⟨line, harrive, rfl⟩ := hstep
    exact .arrive count line harrive

/-- A change of the link that leaves the exchanges alone keeps the invariant. -/
theorem of_link (h : dialogue.Paired ended reader) {link : Link} (sent : List Message)
    (hsteady : link.IsSteady) (hinbox : link.inbox = dialogue.link.inbox)
    (hturn : ∀ {index : Nat} {assembler}, dialogue.link.turn = some index →
      dialogue.link.calls[index]? = some (.exchanging 0 0 assembler) → link.turn = some index)
    (hcalls : ∀ (index connection epoch : Nat) (assembler : Assembler),
      link.calls[index]? = some (.exchanging connection epoch assembler) ↔
        dialogue.link.calls[index]? = some (.exchanging connection epoch assembler)) :
    ({ dialogue with link, sent } : Dialogue).Paired ended reader := by
  refine ⟨hsteady, h.exchanges_eq, fun hstage => h.reading ((hcalls _ _ _ _).1 hstage), ?_,
    h.heard, hinbox ▸ h.unread⟩
  intro index assembler hreader
  obtain ⟨hhead, hstage⟩ := h.turn hreader
  exact ⟨hturn hhead hstage, (hcalls _ _ _ _).2 hstage⟩

/-- A call that is added at the end of the queue leaves the exchanges alone. -/
theorem of_enqueue (h : dialogue.Paired ended reader) {link : Link} (sent : List Message)
    (stage : CallStage) (hstage : ∀ connection epoch assembler,
      stage ≠ .exchanging connection epoch assembler)
    (hsteady : link.IsSteady) (hinbox : link.inbox = dialogue.link.inbox)
    (hqueue : link.queue = dialogue.link.queue) (hcalls : link.calls = dialogue.link.calls) :
    ({ dialogue with link := link.enqueue stage, sent } : Dialogue).Paired ended reader := by
  refine h.of_link sent (hsteady.enqueue stage) hinbox ?_ ?_
  · intro index assembler hhead _
    simp only [Link.turn] at hhead
    simp only [Link.turn, Link.enqueue, hqueue, List.head?_append, hhead, Option.some_or]
  · intro index connection epoch assembler
    simp only [Link.enqueue, hcalls]
    by_cases hlt : index < dialogue.link.calls.length
    · rw [List.getElem?_append_left hlt]
    · rw [List.getElem?_append_right (by omega), List.getElem?_eq_none (Nat.not_lt.1 hlt)]
      refine ⟨fun hlast => ?_, fun hnone => by simp at hnone⟩
      obtain ⟨_, hsame⟩ := List.getElem?_eq_some_iff.1 hlast
      rw [List.getElem_singleton] at hsame
      exact absurd hsame (hstage connection epoch assembler)

theorem step (h : dialogue.Paired ended reader) (hmoves : dialogue.Moves event next) :
    ∃ ended reader, next.Paired ended reader := by
  cases hmoves with
  | call request =>
    exact ⟨ended, reader, h.of_enqueue _ _ (by simp) h.steady rfl rfl rfl⟩
  | cancel hidle =>
    exact ⟨ended, reader, h.of_enqueue _ _ (by simp) h.steady rfl rfl rfl⟩
  | interrupt hbusy =>
    exact ⟨ended, reader, h.of_enqueue _ _ (by simp) (h.steady.send _) (h.steady.send_inbox _)
      (h.steady.send_queue _) (h.steady.send_calls _)⟩
  | wait milliseconds =>
    refine ⟨ended, reader, h.of_link _ ?_ rfl (fun hhead _ => hhead) fun _ _ _ _ => Iff.rfl⟩
    exact ⟨h.steady.openings, h.steady.writings, h.steady.epoch, h.steady.connection⟩
  | ask index request hstage hturn =>
    have hnone : reader = none := by
      cases reader with
      | none => rfl
      | some reading =>
        obtain ⟨hhead, hreading⟩ := h.turn rfl
        rw [hturn] at hhead
        rw [← Option.some.inj hhead, hstage] at hreading
        simp at hreading
    subst hnone
    obtain ⟨packets, hinbox, hdelivers⟩ := h.unread
    have hlt := (List.getElem?_eq_some_iff.1 hstage).1
    refine ⟨ended, some (index, .empty), ?_, ?_, ?_, ?_, h.heard, packets, ?_, hdelivers⟩
    · exact (h.steady.send request).stay _ _
    · simp [h.exchanges_eq]
    · intro other connection epoch assembler hother
      simp only [Link.stay, h.steady.send_calls] at hother
      rcases Link.stage_cases_of_set hother with ⟨rfl, hstage⟩ | ⟨-, hother⟩
      · obtain ⟨rfl, rfl, rfl⟩ := CallStage.exchanging.inj hstage
        exact ⟨rfl, rfl, rfl⟩
      · exact absurd (h.reading hother).2.2 (by simp)
    · intro other assembler hreader
      obtain ⟨rfl, rfl⟩ := Prod.mk.inj (Option.some.inj hreader)
      simp only [Link.stay, Link.turn, h.steady.send_calls, h.steady.send_queue]
      exact ⟨hturn, List.getElem?_set_self hlt⟩
    · exact (h.steady.send_inbox request).trans hinbox
  | read index assembler after packet line hstage hreceive hpush =>
    obtain ⟨-, -, rfl⟩ := h.reading hstage
    obtain ⟨packet, packets, hpacket, hinbox, hdelivers⟩ := h.receive_cases hstage hreceive
    obtain rfl := Except.ok.inj hpacket
    have hlt := (List.getElem?_eq_some_iff.1 hstage).1
    refine ⟨ended, some (index, after), ?_, h.exchanges_eq, ?_, ?_, h.heard, packets, hinbox, ?_⟩
    · exact (h.steady.receive_eq hreceive).1.stay _ _
    · intro other connection epoch assembler' hother
      simp only [Link.stay] at hother
      rcases Link.stage_cases_of_set hother with ⟨rfl, hstage⟩ | ⟨hne, hother⟩
      · obtain ⟨rfl, rfl, rfl⟩ := CallStage.exchanging.inj hstage
        exact ⟨rfl, rfl, rfl⟩
      · obtain ⟨-, -, hreader⟩ := h.reading hother
        exact absurd (Prod.mk.inj (Option.some.inj hreader)).1 hne
    · intro other assembler' hreader
      obtain ⟨rfl, rfl⟩ := Prod.mk.inj (Option.some.inj hreader)
      exact ⟨(h.turn rfl).1, List.getElem?_set_self hlt⟩
    · rcases hdelivers with ⟨following, hsame, hmore⟩ | ⟨message, hother, -⟩
      · rw [hpush] at hsame
        obtain ⟨-, rfl⟩ := Prod.mk.inj hsame
        exact hmore
      · rw [hpush] at hother
        simp at hother
  | hear index assembler packet line message hstage hreceive hpush _ =>
    obtain ⟨-, -, rfl⟩ := h.reading hstage
    obtain ⟨packet, packets, hpacket, hinbox, hdelivers⟩ := h.receive_cases hstage hreceive
    obtain rfl := Except.ok.inj hpacket
    rcases hdelivers with ⟨following, hother, -⟩ | ⟨message', hsame, hreply, hempty⟩
    · rw [hpush] at hother
      simp at hother
    · refine ⟨ended ++ [index], none, ?_, ?_, ?_, by simp, ?_, packets, hinbox, ?_⟩
      · exact (h.steady.receive_eq hreceive).1.finish _ _
      · simp [h.exchanges_eq]
      · intro other connection epoch assembler' hother
        simp only [Link.finish] at hother
        rcases Link.stage_cases_of_set hother with ⟨-, hended⟩ | ⟨hne, hother⟩
        · contradiction
        · obtain ⟨-, -, hreader⟩ := h.reading hother
          exact absurd (Prod.mk.inj (Option.some.inj hreader)).1 hne
      · obtain ⟨reply, hreply, -⟩ := Option.map_eq_some_iff.1 hreply
        have hlt := (List.getElem?_eq_some_iff.1 hreply).1
        simp only [List.length_append, List.length_singleton]
        omega
      · simpa using hempty
  | yield index deadline result hstage =>
    have hlt := (List.getElem?_eq_some_iff.1 hstage).1
    refine ⟨ended, reader, h.of_link _ (h.steady.finish _ _) rfl ?_ ?_⟩
    · intro head assembler hhead hreading
      have hother : head ≠ index := by
        rintro rfl
        rw [hstage] at hreading
        simp at hreading
      simp only [Link.turn, Link.finish] at hhead ⊢
      obtain ⟨rest, hqueue⟩ := List.head?_eq_some_iff.1 hhead
      simp [hqueue, List.erase_cons_tail, hother]
    · intro other connection epoch assembler
      simp only [Link.finish]
      by_cases hsame : index = other
      · subst hsame
        simp [List.getElem?_set_self hlt, hstage]
      · rw [List.getElem?_set_ne hsame]
  | reply number message hnumbers hsent hlength =>
    obtain ⟨packets, hinbox, hdelivers⟩ := h.unread
    refine ⟨ended, reader, h.steady, h.exchanges_eq, h.reading, h.turn, ?_, packets, hinbox, ?_⟩
    · have := h.heard
      simp only [List.length_append]
      omega
    · rw [List.drop_append_of_le_length h.heard, List.map_append, ← List.append_assoc]
      exact hdelivers.append_packets hlength
  | arrive count line harrive =>
    obtain ⟨packets, hinbox, hdelivers⟩ := h.unread
    obtain ⟨hsteady, harrived, -⟩ := h.steady.arrive_eq harrive
    refine ⟨ended, reader, hsteady, h.exchanges_eq, h.reading, h.turn, h.heard,
      packets ++ dialogue.transit.take count, ?_, ?_⟩
    · rw [harrived, hinbox, List.map_append]
    · rw [List.append_assoc, List.take_append_drop]
      exact hdelivers

end Paired

end Dialogue

end WalletGateway
