import WalletGateway.Proofs.Link.Rest

/-!
# What a cancellation waits for

A cancellation that finds an exchange under way writes its request past the queue, and then queues
up itself.  So it does not wait for that exchange alone, but for every call that was in the queue
before it: `cancellation_waits_for_calls_ahead`.  It returns at the moment when the exchange under
way ends exactly if no other call ahead of it is left then, and `queued_call_delays_cancellation` is
a link on which one is left.

The proof follows one cancellation.  `Yields` says how it can stand, `Yields.moves` that every move
keeps it so, and `leads_of_yielding` what comes of that when all calls wait again.
-/

namespace WalletGateway.Link

variable {link next last : Link} {event : LinkEvent} {index deadline : Nat}

/-! ## Runs -/

/-- A call that has left the queue does not come back. -/
theorem mem_queue_of_run {events : List LinkEvent} (hrun : link.run events = some last)
    (hlt : index < link.calls.length) (hindex : index ∈ last.queue) : index ∈ link.queue := by
  refine (run_induction (fun other => link.calls.length ≤ other.calls.length ∧
    (index ∈ other.queue → index ∈ link.queue)) hrun ⟨Nat.le_refl _, id⟩ ?_).2 hindex
  rintro middle event next ⟨hle, hback⟩ hmoves
  exact ⟨Nat.le_trans hle hmoves.length_le,
    fun hnext => hback (hmoves.mem_queue (Nat.lt_of_lt_of_le hlt hle) hnext)⟩

theorem length_le_of_run {events : List LinkEvent} (hrun : link.run events = some last) :
    link.calls.length ≤ last.calls.length :=
  run_induction (fun other => link.calls.length ≤ other.calls.length) hrun (Nat.le_refl _)
    fun hle hmoves => Nat.le_trans hle hmoves.length_le

theorem now_le_of_run {events : List LinkEvent} (hrun : link.run events = some last) :
    link.now ≤ last.now := by
  refine run_induction (fun other => link.now ≤ other.now) hrun (Nat.le_refl _) ?_
  intro middle event next hle hmoves
  rcases hmoves.now_eq with hsame | ⟨milliseconds, -, rfl⟩
  · exact hsame ▸ hle
  · exact Nat.le_add_right_of_le hle

/-- It takes no time for calls to go on. -/
theorem now_eq_of_proceeds {order : List Nat} (hrun : link.run (order.map .proceed) = some last) :
    last.now = link.now := by
  refine proceeds_induction (fun other => other.now = link.now) hrun rfl ?_
  intro middle next other hsame hmoves
  rcases hmoves.now_eq with hnow | ⟨_, hevent, -⟩
  · exact hnow.trans hsame
  · contradiction

/-! ## One cancellation -/

/-- How a cancellation can stand that has written its request past the queue. -/
inductive Yields (link : Link) (index deadline : Nat) : Prop where
  | waits (h : link.calls[index]? = some (.yielding deadline))
  /-- It has had its turn. -/
  | returns (h : link.calls[index]? = some (.ended (.ok cancelled)))
      (hfirst : ∀ other ∈ link.queue, index ≤ other)
  | givesUp (h : link.calls[index]? = some (.ended (.error .timeout))) (hlate : deadline ≤ link.now)

theorem Yields.lt_length (h : link.Yields index deadline) : index < link.calls.length := by
  cases h with
  | waits h | returns h | givesUp h => exact (List.getElem?_eq_some_iff.1 h).1

theorem Yields.moves (h : link.Yields index deadline) (hlink : link.Coherent)
    (hmoves : link.Moves event next) (hkept : event ≠ .drop index) :
    next.Yields index deadline := by
  have hlt := h.lt_length
  cases h with
  | waits hstage =>
    by_cases hproceed : event = .proceed index
    · subst hproceed
      -- A cancellation goes on in two ways only.
      cases hmoves with
      | unreached hother | cut hother | ask hother | abort hother | read hother | hear hother
      | fail hother =>
        rw [hstage] at hother
        simp at hother
      | yield _ hturn =>
        refine .returns (List.getElem?_set_self hlt) fun other hother => ?_
        exact hlink.lined.first_le hturn (List.mem_of_mem_erase hother)
      | giveUp hother hlate =>
        obtain rfl := CallStage.yielding.inj (Option.some.inj (hother.symm.trans hstage))
        exact .givesUp (List.getElem?_set_self hlt) hlate
    · exact .waits (hmoves.stage_eq hstage hproceed hkept)
  | returns hstage hfirst =>
    refine .returns (hmoves.over_eq hlink hstage rfl) fun other hother => ?_
    refine Nat.le_of_not_lt fun hahead => ?_
    have := hfirst other (hmoves.mem_queue (Nat.lt_trans hahead hlt) hother)
    omega
  | givesUp hstage hlate =>
    refine .givesUp (hmoves.over_eq hlink hstage rfl) ?_
    rcases hmoves.now_eq with hsame | ⟨milliseconds, -, rfl⟩
    · exact hsame ▸ hlate
    · exact Nat.le_add_right_of_le hlate

theorem Yields.proceeds (h : link.Yields index deadline) (hlink : link.Coherent) {order : List Nat}
    (hrun : link.run (order.map .proceed) = some last) : last.Yields index deadline := by
  refine (proceeds_induction (fun other => other.Coherent ∧ other.Yields index deadline) hrun
    ⟨hlink, h⟩ ?_).2
  rintro link next other ⟨hlink, hyields⟩ hmoves
  exact ⟨hlink.moves hmoves, hyields.moves hlink hmoves (by simp)⟩

/-- Where all calls wait, a cancellation that waits is behind the call that is at its exchange. -/
theorem AtRest.stands_ahead (h : link.AtRest) (hlink : link.Coherent)
    (hstage : link.calls[index]? = some (.yielding deadline)) :
    ∃ first connection, link.Stands first connection ∧ first < index := by
  have hindex : index ∈ link.queue := hlink.lined.mem_iff.2 ⟨_, hstage, rfl⟩
  obtain ⟨first, hfirst⟩ := Option.isSome_iff_exists.1
    (List.isSome_head?.2 (List.ne_nil_of_mem hindex))
  obtain ⟨connection, hstands⟩ := h.first_stands hlink hfirst
  refine ⟨first, connection, hstands, Nat.lt_of_le_of_ne (hlink.lined.first_le hfirst hindex) ?_⟩
  rintro rfl
  obtain ⟨assembler, hreading⟩ := hstands.reading
  rw [hstage] at hreading
  simp at hreading

/-- What an event leads to for a cancellation that waits.  The two reasons to end it cannot come
together: an exchange does not end because time passes. -/
theorem leads_of_yielding (hlink : link.Coherent) (hrest : link.AtRest)
    (hstage : link.calls[index]? = some (.yielding deadline)) (hleads : link.Leads event next)
    (hkept : event ≠ .drop index) :
    next.calls[index]? = some
      (if ∀ other ∈ next.queue, index ≤ other then .ended (.ok cancelled)
      else if deadline ≤ next.now then .ended (.error .timeout)
      else .yielding deadline) := by
  obtain ⟨middle, order, hmiddle, horder, hnext⟩ := hleads.moves
  have hmoves := moves_of_step hmiddle
  have hcoherent := hlink.moves hmoves
  have hyields := ((Yields.waits hstage).moves hlink hmoves hkept).proceeds hcoherent horder
  have hahead : ∀ {first connection : Nat}, next.Stands first connection → first < index →
      ¬ ∀ other ∈ next.queue, index ≤ other := by
    intro first connection hstands hlt hfirst
    have := hfirst first (Coherent.mem_of_turn hstands.first)
    omega
  cases hyields with
  | waits hwaits =>
    obtain ⟨first, connection, hstands, hlt⟩ := hnext.stands_ahead (hlink.leads hleads) hwaits
    rw [if_neg (hahead hstands hlt), if_neg (Nat.not_le.2 (hnext.lt_deadline hwaits))]
    exact hwaits
  | returns hended hfirst =>
    rw [if_pos hfirst]
    exact hended
  | givesUp hended hlate =>
    -- The deadline has passed in this event, so the event was that time passed.
    have hpatient := hrest.lt_deadline hstage
    have hnow := now_eq_of_proceeds horder
    obtain ⟨first, connection, hstands, hlt⟩ := hrest.stands_ahead hlink hstage
    rcases hmoves.now_eq with hsame | ⟨milliseconds, -, rfl⟩
    · omega
    · have hstill : ({ link with now := link.now + milliseconds } : Link).Stands first connection :=
        ⟨hstands.first, hstands.reading, hstands.opened, hstands.read⟩
      rw [if_neg (hahead (hstill.proceeds hcoherent horder) hlt), if_pos hlate]
      exact hended

/-! ## The calls ahead -/

/-- How a link stands after a cancellation has started on another link, where all calls wait. -/
structure Follows (link last : Link) (deadline : Nat) : Prop where
  coherent : last.Coherent
  rest : last.AtRest
  length_le : link.calls.length < last.calls.length
  /-- The calls that are ahead of the cancellation were ahead of it when it started. -/
  ahead : ∀ other ∈ last.queue, other < link.calls.length → other ∈ link.queue
  waits : last.calls[link.calls.length]? = some (.yielding deadline) ∨
    (∀ ahead ∈ link.queue, ahead ∉ last.queue) ∨ deadline ≤ last.now

/-- The cancellation is the first one in the queue when the calls ahead are over. -/
theorem first_iff (hlink : link.Coherent)
    (hahead : ∀ other ∈ last.queue, other < link.calls.length → other ∈ link.queue) :
    (∀ other ∈ last.queue, link.calls.length ≤ other) ↔
      ∀ ahead ∈ link.queue, ahead ∉ last.queue := by
  refine ⟨fun hfirst ahead hmem hleft => ?_, fun hover other hother => ?_⟩
  · exact Nat.not_lt.2 (hfirst ahead hleft) (hlink.lined.lt_length hmem)
  · refine Nat.le_of_not_lt fun hlt => ?_
    exact hover other (hahead other hother hlt) hother

namespace Follows

theorem ahead_of_leads (h : link.Follows last deadline) (hleads : last.Leads event next) :
    ∀ other ∈ next.queue, other < link.calls.length → other ∈ link.queue := by
  intro other hother hlt
  obtain ⟨order, hrun, -⟩ := hleads
  exact h.ahead other (mem_queue_of_run hrun (Nat.lt_trans hlt h.length_le) hother) hlt

/-- What the next event leads to for a cancellation that still waits. -/
theorem leads_eq (h : link.Follows last deadline) (hlink : link.Coherent)
    (hstage : last.calls[link.calls.length]? = some (.yielding deadline))
    (hleads : last.Leads event next) (hkept : event ≠ .drop link.calls.length) :
    next.calls[link.calls.length]? = some
      (if ∀ ahead ∈ link.queue, ahead ∉ next.queue then .ended (.ok cancelled)
      else if deadline ≤ next.now then .ended (.error .timeout)
      else .yielding deadline) := by
  rw [leads_of_yielding h.coherent h.rest hstage hleads hkept]
  simp only [first_iff hlink (h.ahead_of_leads hleads)]

theorem leads (h : link.Follows last deadline) (hlink : link.Coherent)
    (hleads : last.Leads event next) (hkept : event ≠ .drop link.calls.length) :
    link.Follows next deadline := by
  have hahead := h.ahead_of_leads hleads
  obtain ⟨order, hrun, hrest⟩ := hleads
  refine ⟨h.coherent.run hrun, hrest, Nat.lt_of_lt_of_le h.length_le (length_le_of_run hrun),
    hahead, ?_⟩
  rcases h.waits with hstage | hover | hlate
  · have hnext := h.leads_eq hlink hstage ⟨order, hrun, hrest⟩ hkept
    split at hnext
    · rename_i hover
      exact Or.inr (Or.inl hover)
    · split at hnext
      · rename_i hlate
        exact Or.inr (Or.inr hlate)
      · exact Or.inl hnext
  · refine Or.inr (Or.inl fun ahead hmem hleft => ?_)
    have hlt := Nat.lt_trans (hlink.lined.lt_length hmem) h.length_le
    exact hover ahead hmem (mem_queue_of_run hrun hlt hleft)
  · exact Or.inr (Or.inr (Nat.le_trans hlate (now_le_of_run hrun)))

theorem course {events : List LinkEvent} {asked : Link} (h : link.Follows asked deadline)
    (hlink : link.Coherent) (hcourse : asked.Course events last)
    (hkept : LinkEvent.drop link.calls.length ∉ events) : link.Follows last deadline := by
  induction hcourse with
  | start => exact h
  | event hcourse hleads ih =>
    rw [List.mem_append, not_or] at hkept
    exact (ih hkept.1).leads hlink hleads fun hsame => hkept.2 (hsame ▸ List.mem_singleton_self _)

/-- A cancellation waits as long as a call ahead of it is left, and it has patience. -/
theorem yielding_iff (h : link.Follows last deadline) :
    last.calls[link.calls.length]? = some (.yielding deadline) ↔
      last.now < deadline ∧ ∃ ahead ∈ link.queue, ahead ∈ last.queue := by
  refine ⟨fun hstage => ⟨h.rest.lt_deadline hstage, ?_⟩, fun ⟨hpatient, ahead, hmem, hleft⟩ => ?_⟩
  · obtain ⟨first, connection, hstands, hlt⟩ := h.rest.stands_ahead h.coherent hstage
    have hfirst := Coherent.mem_of_turn hstands.first
    exact ⟨first, h.ahead first hfirst hlt, hfirst⟩
  · rcases h.waits with hstage | hover | hlate
    · exact hstage
    · exact absurd hleft (hover ahead hmem)
    · omega

end Follows

/-- A cancellation that is written past the queue waits until a moment. -/
theorem cancel_written {running connection : Nat} (hstands : link.Stands running connection)
    (hwritten : link.cancel.calls[link.calls.length]? = some (.yielding deadline)) :
    deadline = link.now + link.patience := by
  obtain ⟨sent, writings, -, ⟨-, hcancel⟩ | ⟨error, -, hcancel⟩⟩ := hstands.cancel_cases
  all_goals
    rw [hcancel] at hwritten
    have hlast := Option.some.inj (List.getElem?_concat_length.symm.trans hwritten)
  · exact (CallStage.yielding.inj hlast).symm
  · contradiction

/-- A cancellation of an exchange that waits has to wait itself, unless it has no patience. -/
theorem follows_of_cancel {asked : Link} {running connection : Nat} (hlink : link.Coherent)
    (hstands : link.Stands running connection)
    (hwritten : link.cancel.calls[link.calls.length]? = some (.yielding deadline))
    (hasked : link.Leads .cancel asked) :
    link.Follows asked deadline ∧ asked.calls[link.calls.length]? = some
      (if link.patience = 0 then .ended (.error .timeout) else .yielding deadline) := by
  obtain ⟨order, hrun, hrest⟩ := hasked
  obtain ⟨middle, hmiddle, horder⟩ := Option.bind_eq_some_iff.1 hrun
  obtain rfl : link.cancel = middle := Option.some.inj hmiddle
  obtain rfl := cancel_written hstands hwritten
  have hcoherent := hlink.moves (moves_of_step hmiddle)
  have hyields := (Yields.waits hwritten).proceeds hcoherent horder
  have hnow : asked.now = link.now := by
    rw [now_eq_of_proceeds horder]
    obtain ⟨_, _, -, ⟨-, hcancel⟩ | ⟨_, -, hcancel⟩⟩ := hstands.cancel_cases
    all_goals
      rw [hcancel]
      rfl
  have hfollows : asked.calls[link.calls.length]? = some (.yielding (link.now + link.patience)) ∨
      (∀ ahead ∈ link.queue, ahead ∉ asked.queue) ∨ link.now + link.patience ≤ asked.now →
        link.Follows asked (link.now + link.patience) := fun hwaits =>
    ⟨hcoherent.run horder, hrest, hyields.lt_length,
      fun other hother hlt => mem_queue_of_run hrun hlt hother, hwaits⟩
  cases hyields with
  | waits hstage =>
    have hpatient := hrest.lt_deadline hstage
    rw [if_neg (by omega)]
    exact ⟨hfollows (Or.inl hstage), hstage⟩
  | returns hended hfirst =>
    -- The exchange under way has nothing to read, so that it is still ahead of the cancellation.
    have hahead := hfirst running
      (Coherent.mem_of_turn (hstands.cancel.proceeds hcoherent horder).first)
    have hlt := hlink.lined.lt_length (Coherent.mem_of_turn hstands.first)
    omega
  | givesUp hended hlate =>
    rw [if_pos (by omega)]
    exact ⟨hfollows (Or.inr (Or.inr hlate)), hended⟩

/-- A cancellation finds an exchange under way and writes its request past the queue.  From then on
it waits for all calls that are in the queue before it, and not only for that exchange.  It returns
at the moment when the last of them is over, if it has patience until then, and fails when its
patience is at its end otherwise.  So when the exchange ends in time, the cancellation returns at
that moment exactly if the other calls before it are over as well. -/
theorem cancellation_waits_for_calls_ahead {patience : Nat} {before after : List LinkEvent}
    {link asked last : Link} {running connection epoch deadline : Nat} {assembler : Assembler}
    (hbefore : ({ patience } : Link).run before = some link) (hrest : link.AtRest)
    (hflight : link.calls[running]? = some (.exchanging connection epoch assembler))
    (hwritten : link.cancel.calls[link.calls.length]? = some (.yielding deadline))
    (hasked : link.Leads .cancel asked) (hafter : asked.Course after last)
    (hkept : LinkEvent.drop link.calls.length ∉ after) :
    deadline = link.now + link.patience ∧
    asked.calls[link.calls.length]? = some
      (if link.patience = 0 then .ended (.error .timeout) else .yielding deadline) ∧
    (last.calls[link.calls.length]? = some (.yielding deadline) ↔
      last.now < deadline ∧ ∃ ahead ∈ link.queue, ahead ∈ last.queue) ∧
    ∀ {event : LinkEvent} {next : Link},
      last.calls[link.calls.length]? = some (.yielding deadline) →
        last.Leads event next → event ≠ .drop link.calls.length →
          next.calls[link.calls.length]? = some
            (if ∀ ahead ∈ link.queue, ahead ∉ next.queue then .ended (.ok cancelled)
            else if deadline ≤ next.now then .ended (.error .timeout)
            else .yielding deadline) ∧
          (running ∉ next.queue →
            (next.calls[link.calls.length]? = some (.ended (.ok cancelled)) ↔
              ∀ ahead ∈ link.queue, ahead ≠ running → ahead ∉ next.queue)) := by
  have hlink : link.Coherent := (coherent_of_unused patience).run hbefore
  obtain ⟨hstands, -⟩ := hrest.stands_of_exchanging hlink hflight
  obtain ⟨hfollows, hstart⟩ := follows_of_cancel hlink hstands hwritten hasked
  have hlast := hfollows.course hlink hafter hkept
  refine ⟨cancel_written hstands hwritten, hstart, hlast.yielding_iff,
    fun {event next} hstage hleads hdrop => ?_⟩
  have hnext := hlast.leads_eq hlink hstage hleads hdrop
  refine ⟨hnext, fun hended => ?_⟩
  have hothers : (∀ ahead ∈ link.queue, ahead ∉ next.queue) ↔
      ∀ ahead ∈ link.queue, ahead ≠ running → ahead ∉ next.queue := by
    refine ⟨fun h ahead hmem _ => h ahead hmem, fun h ahead hmem => ?_⟩
    by_cases hsame : ahead = running
    · exact hsame ▸ hended
    · exact h ahead hmem hsame
  rw [hnext, ← hothers]
  split
  · rename_i hover
    exact ⟨fun _ => hover, fun _ => rfl⟩
  · rename_i hleft
    refine ⟨fun hreturned => ?_, fun hover => absurd hover hleft⟩
    split at hreturned <;> simp at hreturned

/-- A second call is waiting when the first one is cancelled.  The first reply leaves the
cancellation waiting, and the second one lets it return. -/
theorem cancellation_returns_after_second_reply :
    let reply : LinkEvent := .arrive ((⟨2, []⟩ : Message).packets.map .ok)
    ∃ link asked last next : Link,
      ({ patience := 10000 } : Link).run [.call DeviceRequest.backup.message, .proceed 0,
        .call DeviceRequest.wipe.message] = some link ∧
      link.AtRest ∧ link.calls[0]? = some (.exchanging 0 0 .empty) ∧
      link.cancel.calls[link.calls.length]? = some (.yielding 10000) ∧
      link.Leads .cancel asked ∧ asked.Course [reply] last ∧
      LinkEvent.drop link.calls.length ∉ [reply] ∧
      10000 = link.now + link.patience ∧
      (last.calls[link.calls.length]? = some (.yielding 10000) ↔
        last.now < 10000 ∧ ∃ ahead ∈ link.queue, ahead ∈ last.queue) ∧
      last.calls[link.calls.length]? = some (.yielding 10000) ∧ last.Leads reply next ∧
      reply ≠ .drop link.calls.length ∧ (∀ ahead ∈ link.queue, ahead ∉ next.queue) ∧
      next.calls[link.calls.length]? = some (.ended (.ok cancelled)) := by
  intro reply
  have hruns : (({ patience := 10000 } : Link).run [.call DeviceRequest.backup.message, .proceed 0,
      .call DeviceRequest.wipe.message]).any fun link => link.AtRest ∧
        link.calls[0]? = some (.exchanging 0 0 .empty) ∧
        link.cancel.calls[link.calls.length]? = some (.yielding 10000) ∧
        (link.run [.cancel]).any fun asked => asked.AtRest ∧
          (asked.run [reply, .proceed 0, .proceed 1]).any fun last => last.AtRest ∧
            last.calls[link.calls.length]? = some (.yielding 10000) ∧
            (last.run [reply, .proceed 1, .proceed 2]).any fun next => next.AtRest ∧
              ∀ ahead ∈ link.queue, ahead ∉ next.queue := by
    decide +kernel
  obtain ⟨link, hlink, hruns⟩ := (Option.any_eq_true _ _).1 hruns
  obtain ⟨hrest, hflight, hwritten, hruns⟩ := of_decide_eq_true hruns
  obtain ⟨asked, hasked, hruns⟩ := (Option.any_eq_true _ _).1 hruns
  obtain ⟨hwaits, hruns⟩ := of_decide_eq_true hruns
  obtain ⟨last, hlast, hruns⟩ := (Option.any_eq_true _ _).1 hruns
  obtain ⟨hstill, hstage, hruns⟩ := of_decide_eq_true hruns
  obtain ⟨next, hnext, hruns⟩ := (Option.any_eq_true _ _).1 hruns
  obtain ⟨hdone, hover⟩ := of_decide_eq_true hruns
  have hcancel : link.Leads .cancel asked := ⟨[], hasked, hwaits⟩
  have hcourse : asked.Course [reply] last := .event .start ⟨[0, 1], hlast, hstill⟩
  have hleads : last.Leads reply next := ⟨[1, 2], hnext, hdone⟩
  have hkept : LinkEvent.drop link.calls.length ∉ [reply] := by simp [reply]
  have hother : reply ≠ .drop link.calls.length := by simp [reply]
  obtain ⟨hdeadline, -, hiff, hends⟩ := cancellation_waits_for_calls_ahead hlink hrest hflight
    hwritten hcancel hcourse hkept
  have hended := (hends hstage hleads hother).1
  rw [if_pos hover] at hended
  exact ⟨link, asked, last, next, hlink, hrest, hflight, hwritten, hcancel, hcourse, hkept,
    hdeadline, hiff, hstage, hleads, hother, hover, hended⟩

/-- A second call is waiting when the first one is cancelled.  The exchange of the first call ends
in time, and the cancellation goes on waiting, for the second call. -/
theorem queued_call_delays_cancellation :
    ¬ ∀ (patience running connection epoch deadline : Nat) (before after : List LinkEvent)
      (event : LinkEvent) (link asked last next : Link) (assembler : Assembler),
      ({ patience } : Link).run before = some link → link.AtRest →
      link.calls[running]? = some (.exchanging connection epoch assembler) →
      link.cancel.calls[link.calls.length]? = some (.yielding deadline) →
      link.Leads .cancel asked → asked.Course after last →
      LinkEvent.drop link.calls.length ∉ after →
      running ∈ last.queue → last.Leads event next → running ∉ next.queue →
      event ≠ .drop link.calls.length → next.now < deadline →
      next.calls[link.calls.length]? = some (.ended (.ok cancelled)) := by
  intro hclaim
  have hruns : (({ patience := 10000 } : Link).run [.call DeviceRequest.backup.message, .proceed 0,
      .call DeviceRequest.wipe.message]).any fun link => link.AtRest ∧
        link.calls[0]? = some (.exchanging 0 0 .empty) ∧
        link.cancel.calls[link.calls.length]? = some (.yielding 10000) ∧
        (link.run [.cancel]).any fun asked => asked.AtRest ∧ 0 ∈ asked.queue ∧
          (asked.run [.arrive ((⟨2, []⟩ : Message).packets.map .ok), .proceed 0, .proceed 1]).any
            fun next => next.AtRest ∧ 0 ∉ next.queue ∧ next.now < 10000 ∧
              next.calls[link.calls.length]? = some (.yielding 10000) := by
    decide +kernel
  obtain ⟨link, hlink, hruns⟩ := (Option.any_eq_true _ _).1 hruns
  obtain ⟨hrest, hflight, hwritten, hruns⟩ := of_decide_eq_true hruns
  obtain ⟨asked, hasked, hruns⟩ := (Option.any_eq_true _ _).1 hruns
  obtain ⟨hwaits, hrunning, hruns⟩ := of_decide_eq_true hruns
  obtain ⟨next, hnext, hruns⟩ := (Option.any_eq_true _ _).1 hruns
  obtain ⟨hdone, hended, htime, hstage⟩ := of_decide_eq_true hruns
  have hreturned := hclaim 10000 0 0 0 10000 _ [] _ link asked asked next .empty hlink hrest hflight
    hwritten ⟨[], hasked, hwaits⟩ .start (by simp) hrunning ⟨[0, 1], hnext, hdone⟩ hended (by simp)
    htime
  rw [hstage] at hreturned
  simp at hreturned

end WalletGateway.Link
