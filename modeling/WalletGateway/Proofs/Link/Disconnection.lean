import WalletGateway.Proofs.Link.Framing
import WalletGateway.Proofs.Link.Opening
import WalletGateway.Proofs.Link.Rest

/-!
# Disconnecting

A disconnection closes the connection and ends the exchange that is under way.  The calls that wait
then have their exchanges, in the order of their start, on connections that are opened afterwards.

* `Outlives`: what a disconnection can lead to for one call, one constructor for each way.
* `Resumes`: the invariant while the calls go on after a disconnection, until all of them wait.
* `IsAborted`: a disconnection has ended the exchange of a call.  Only a disconnection does that,
  and only to an exchange that is under way (`isMet_of_run`).
* `disconnection_ends_exchange_under_way` puts this together.
-/

namespace WalletGateway.Link

variable {link next last : Link} {event : LinkEvent} {index : Nat} {stage : CallStage}

/-! ## Exchanges that a disconnection has ended -/

/-- A disconnection has ended the exchange of a call, which can only fail from then on. -/
def IsAborted (link : Link) (index : Nat) : Prop :=
  ∃ (connection epoch : Nat) (assembler : Assembler),
    link.calls[index]? = some (.exchanging connection epoch assembler) ∧ epoch ≠ link.epoch

/-- A call is at its exchange. -/
def IsExchanging (link : Link) (index : Nat) : Prop :=
  ∃ (connection epoch : Nat) (assembler : Assembler),
    link.calls[index]? = some (.exchanging connection epoch assembler)

theorem IsAborted.step_eq (h : link.IsAborted index) :
    link.step (.proceed index) = some (link.close.finish index (.error .disconnected)) := by
  obtain ⟨connection, epoch, assembler, hstage, hepoch⟩ := h
  exact step_of_epoch_ne hstage hepoch

/-- A disconnection ends the exchanges that are under way. -/
theorem isAborted_disconnect (hlink : link.Coherent) :
    IsAborted { link.close with epoch := link.epoch + 1 } index ↔ link.IsExchanging index := by
  refine ⟨fun ⟨connection, epoch, assembler, hstage, _⟩ => ⟨connection, epoch, assembler, hstage⟩,
    fun ⟨connection, epoch, assembler, hstage⟩ => ⟨connection, epoch, assembler, hstage, ?_⟩⟩
  have hbegun := (hlink.reading hstage).2.begun
  exact Nat.ne_of_lt (Nat.lt_succ_of_le hbegun)

theorem Moves.epoch_eq (h : link.Moves event next) (hevent : event ≠ .disconnect) :
    next.epoch = link.epoch := by
  cases h with
  | disconnect => contradiction
  | unheard _ hopen | unsaid _ hopen | interrupt _ hopen | unreached _ _ hopen | cut _ _ hopen
  | ask _ _ hopen => exact (opens_of_eq hopen).epoch_eq
  | call | cancel | drop | arrive | wait | expectOpenings | expectWritings | abort | read | hear
  | fail | yield | giveUp => rfl

/-- Nothing but a disconnection ends an exchange that is under way. -/
theorem Moves.isAborted (h : link.Moves event next) (hevent : event ≠ .disconnect)
    (haborted : next.IsAborted index) : link.IsAborted index := by
  obtain ⟨connection, epoch, assembler, hstage, hepoch⟩ := haborted
  rw [h.epoch_eq hevent] at hepoch
  rcases h.exchanging_cases hstage with ⟨before, hold⟩ | ⟨-, hnow⟩
  · exact ⟨connection, epoch, before, hold, hepoch⟩
  · contradiction

/-- One of the events is a disconnection that finds a call at its exchange, which no other
disconnection has ended. -/
def IsMet (link : Link) (events : List LinkEvent) (index : Nat) : Prop :=
  ∃ (earlier later : List LinkEvent) (found : Link), events = earlier ++ .disconnect :: later ∧
    link.run earlier = some found ∧ found.IsExchanging index ∧ ¬ found.IsAborted index

/-- When an exchange has been ended in a run, one of the disconnections in the run has done it. -/
theorem isMet_of_run {events : List LinkEvent} (hlink : link.Coherent)
    (hrun : link.run events = some last) (haborted : last.IsAborted index) :
    link.IsAborted index ∨ link.IsMet events index := by
  induction events generalizing link with
  | nil => exact Or.inl (Option.some.inj hrun ▸ haborted)
  | cons event events ih =>
    obtain ⟨next, hnext, hrest⟩ := Option.bind_eq_some_iff.1 hrun
    have hmoves := moves_of_step hnext
    by_cases hbefore : link.IsAborted index
    · exact Or.inl hbefore
    rcases ih (hlink.moves hmoves) hrest with hnow | ⟨earlier, later, found, rfl, hfound, hmet⟩
    · obtain rfl : event = .disconnect :=
        Classical.byContradiction fun hother => hbefore (hmoves.isAborted hother hnow)
      obtain rfl := Option.some.inj hnext
      exact Or.inr ⟨[], events, link, rfl, rfl, (isAborted_disconnect hlink).1 hnow, hbefore⟩
    · refine Or.inr ⟨event :: earlier, later, found, rfl, ?_, hmet⟩
      simp only [run, hnext, Option.bind_some, hfound]

/-! ## New connections -/

/-- From some moment on there are other connections than those that there were. -/
def HasNewer (link : Link) (count : Nat) : Prop :=
  count ≤ link.line.inboxes.length ∧ ∀ connection, link.connection = some connection →
    count ≤ connection

theorem HasNewer.opens {opened : Link} {count : Nat} {result : Except DeviceError Nat}
    (h : link.HasNewer count) (hopen : link.Opens result opened) :
    opened.HasNewer count ∧ ∀ connection, result = .ok connection → count ≤ connection := by
  obtain ⟨hlength, hnewer⟩ := h
  cases hopen with
  | kept hconnection =>
    refine ⟨⟨hlength, hnewer⟩, fun connection hsame => ?_⟩
    exact hnewer connection (hconnection.trans (congrArg some (Except.ok.inj hsame)))
  | opened hnone =>
    refine ⟨⟨?_, fun connection hconnection => ?_⟩, fun connection hsame => ?_⟩
    · simp only [List.length_append]
      omega
    · exact Option.some.inj hconnection ▸ hlength
    · exact Except.ok.inj hsame ▸ hlength
  | failed hnone => exact ⟨⟨hlength, hnewer⟩, fun connection hsame => nomatch hsame⟩

theorem HasNewer.moves {count : Nat} (h : link.HasNewer count) (hmoves : link.Moves event next) :
    next.HasNewer count := by
  cases hmoves.writes with
  | nothing hrests =>
    exact ⟨hrests.inboxes ▸ h.1,
      fun connection hopen => h.2 connection (was_open hrests.connection hopen)⟩
  | opened hopen hrests =>
    obtain ⟨hopened, -⟩ := h.opens hopen
    exact ⟨hrests.inboxes ▸ hopened.1,
      fun connection hopen => hopened.2 connection (was_open hrests.connection hopen)⟩
  | whole hopen _ hline hconnection =>
    obtain ⟨hopened, -⟩ := h.opens hopen
    exact ⟨by rw [hline]; exact hopened.1, fun connection hopen =>
      hopened.2 connection (hconnection ▸ hopen)⟩
  | part hopen _ _ _ hline hconnection =>
    obtain ⟨hopened, -⟩ := h.opens hopen
    refine ⟨by rw [hline]; exact hopened.1, fun connection hopen => ?_⟩
    rw [hconnection] at hopen
    contradiction

theorem Opens.silent {opened : Link} {count : Nat} {result : Except DeviceError Nat}
    (h : link.Opens result opened)
    (hsilent : ∀ {connection : Nat} {inbox : List Arrival}, count ≤ connection →
      link.line.inboxes[connection]? = some inbox → inbox = [])
    {connection : Nat} {inbox : List Arrival} (hle : count ≤ connection)
    (hinbox : opened.line.inboxes[connection]? = some inbox) : inbox = [] := by
  cases h with
  | kept | failed => exact hsilent hle hinbox
  | opened =>
    simp only [List.getElem?_append, List.getElem?_singleton] at hinbox
    split at hinbox
    · exact hsilent hle hinbox
    · split at hinbox
      · exact (Option.some.inj hinbox).symm
      · contradiction

/-- A call that waits has its exchange when the calls before it are over, on a new connection, or it
fails with the error of the attempt to open one. -/
structure BeginsInTurn (link : Link) (count index : Nat) (request : Message) (next : Link) :
    Prop where
  first : ∀ other ∈ link.queue, index ≤ other
  begins : (∃ error, link.open?.1 = .error error ∧
      next.calls[index]? = some (.ended (.error error))) ∨
    ∃ connection, link.open?.1 = .ok connection ∧ count ≤ connection ∧
      (next.calls[index]? = some (.exchanging connection next.epoch .empty) ∨
        ∃ error, (link.open?.2.line.write connection request.packets).1 = some error ∧
          next.calls[index]? = some (.ended (.error error)))

theorem beginsInTurn_of_step {count : Nat} {request : Message} (hlink : link.Coherent)
    (hnewer : link.HasNewer count) (hstage : link.calls[index]? = some (.queued request))
    (h : link.step (.proceed index) = some next) :
    link.BeginsInTurn count index request next := by
  obtain ⟨hturn, hbegins⟩ := begins_of_step hstage h
  have hlt := (List.getElem?_eq_some_iff.1 hstage).1
  refine ⟨fun other hother => hlink.lined.first_le hturn hother, ?_⟩
  cases hbegins with
  | unreached hopen =>
    rw [hopen]
    refine Or.inl ⟨_, rfl, List.getElem?_set_self ?_⟩
    rw [(opens_of_eq hopen).calls_eq]
    exact hlt
  | cut hopen hwrite =>
    rw [hopen]
    refine Or.inr ⟨_, rfl, (hnewer.opens (opens_of_eq hopen)).2 _ rfl,
      Or.inr ⟨_, congrArg Prod.fst hwrite, List.getElem?_set_self ?_⟩⟩
    simp only [close, (opens_of_eq hopen).calls_eq]
    exact hlt
  | ask hopen hwrite =>
    rw [hopen]
    refine Or.inr ⟨_, rfl, (hnewer.opens (opens_of_eq hopen)).2 _ rfl, Or.inl ?_⟩
    refine List.getElem?_set_self ?_
    simp only [(opens_of_eq hopen).calls_eq]
    exact hlt

/-! ## What a disconnection leads to -/

/-- What a disconnection of a link can lead to for one call, from where it stands to where it stands
when all calls wait again. -/
inductive Outlives (link : Link) : CallStage → CallStage → Prop where
  /-- The call is not concerned, or waits on. -/
  | same {stage : CallStage}
      (h : ∀ connection epoch assembler, stage ≠ .exchanging connection epoch assembler) :
      Outlives link stage stage
  /-- The exchange under way has failed. -/
  | aborted {connection epoch : Nat} {assembler : Assembler} :
      Outlives link (.exchanging connection epoch assembler) (.ended (.error .disconnected))
  /-- A call that waited is at its exchange, on a connection that was not there. -/
  | begun {request : Message} {connection : Nat} (h : link.line.inboxes.length ≤ connection) :
      Outlives link (.queued request) (.exchanging connection (link.epoch + 1) .empty)
  /-- No connection could be opened for a call that waited. -/
  | unreached {request : Message} {error : DeviceError} (h : some error ∈ link.line.openings) :
      Outlives link (.queued request) (.ended (.error error))
  /-- The request of a call that waited could not be written. -/
  | cut {request : Message} {error : DeviceError} (h : some error ∈ link.line.writings) :
      Outlives link (.queued request) (.ended (.error error))
  /-- A cancellation that waited has had its turn. -/
  | yielded {deadline : Nat} :
      Outlives link (.yielding deadline) (.ended (.ok cancelled))

/-- How a link stands while its calls go on after a disconnection of another link, on which all
calls were waiting. -/
structure Resumes (link last : Link) : Prop where
  coherent : last.Coherent
  epoch_eq : last.epoch = link.epoch + 1
  now_eq : last.now = link.now
  length_eq : last.calls.length = link.calls.length
  newer : last.HasNewer link.line.inboxes.length
  /-- Nothing has arrived on the new connections. -/
  silent : ∀ {connection : Nat} {inbox : List Arrival}, link.line.inboxes.length ≤ connection →
    last.line.inboxes[connection]? = some inbox → inbox = []
  openings : last.line.openings <:+ link.line.openings
  writings : last.line.writings <:+ link.line.writings
  stages : ∀ {index : Nat} {stage : CallStage}, link.calls[index]? = some stage →
    last.calls[index]? = some stage ∨
      ∃ now, last.calls[index]? = some now ∧ link.Outlives stage now

theorem resumes_disconnect (hlink : link.Coherent) :
    link.Resumes { link.close with epoch := link.epoch + 1 } where
  coherent := hlink.moves .disconnect
  epoch_eq := rfl
  now_eq := rfl
  length_eq := rfl
  newer := ⟨Nat.le_refl _, fun connection hopen => nomatch hopen⟩
  silent hle hinbox := by
    rw [List.getElem?_eq_none (by exact hle)] at hinbox
    contradiction
  openings := List.suffix_rfl
  writings := List.suffix_rfl
  stages := Or.inl

namespace Resumes

/-- A call goes on, and the line does not change but for what was settled for it. -/
theorem of_set (h : link.Resumes last) (hlast : last.step (.proceed index) = some next)
    {old new : CallStage} (hold : link.calls[index]? = some old)
    (hold' : last.calls[index]? = some old) (houtlives : link.Outlives old new)
    (hcalls : next.calls = last.calls.set index new) (hepoch : next.epoch = last.epoch)
    (hsilent : ∀ {connection : Nat} {inbox : List Arrival}, link.line.inboxes.length ≤ connection →
      next.line.inboxes[connection]? = some inbox → inbox = [])
    (hopenings : next.line.openings <:+ last.line.openings)
    (hwritings : next.line.writings <:+ last.line.writings) : link.Resumes next := by
  have hmoves := moves_of_step hlast
  refine ⟨h.coherent.moves hmoves, hepoch.trans h.epoch_eq, ?_, ?_, h.newer.moves hmoves, hsilent,
    hopenings.trans h.openings, hwritings.trans h.writings, fun {other stage} hstage => ?_⟩
  · rcases hmoves.now_eq with hsame | ⟨_, hevent, -⟩
    · exact hsame.trans h.now_eq
    · contradiction
  · rw [hcalls, List.length_set, h.length_eq]
  · by_cases hsame : other = index
    · subst hsame
      obtain rfl := Option.some.inj (hold.symm.trans hstage)
      refine Or.inr ⟨new, ?_, houtlives⟩
      rw [hcalls, List.getElem?_set_self (List.getElem?_eq_some_iff.1 hold').1]
    · rw [hcalls, List.getElem?_set_ne (Ne.symm hsame)]
      exact h.stages hstage

/-- A call that waited begins its exchange. -/
theorem begins (h : link.Resumes last) (hlast : last.step (.proceed index) = some next)
    {request : Message} (hold : link.calls[index]? = some (.queued request))
    (hold' : last.calls[index]? = some (.queued request)) : link.Resumes next := by
  obtain ⟨-, hbegins⟩ := begins_of_step hold' hlast
  cases hbegins with
  | unreached hopen =>
    have hopens := opens_of_eq hopen
    obtain ⟨hwritings, hopenings⟩ := open?_keeps_line hopen
    refine h.of_set hlast hold hold' (.unreached (h.openings.subset (mem_openings_of_open? hopen)))
      ?_ hopens.epoch_eq (hopens.silent h.silent) hopenings (hwritings ▸ List.suffix_rfl)
    simp only [finish, hopens.calls_eq]
  | @cut connection error opened line hopen hwrite =>
    have hopens := opens_of_eq hopen
    obtain ⟨hwritings, hopenings⟩ := open?_keeps_line hopen
    obtain ⟨hinboxes, hopenings', -, hwritings'⟩ := Line.write_keeps hwrite
    have hfails : some error ∈ last.line.writings :=
      hwritings ▸ Line.mem_writings_of_write hwrite
    refine h.of_set hlast hold hold' (.cut (h.writings.subset hfails)) ?_ hopens.epoch_eq
      (fun hle hinbox => hopens.silent h.silent hle (hinboxes ▸ hinbox))
      (hopenings'.symm ▸ hopenings) (hwritings ▸ hwritings')
    simp only [finish, close, hopens.calls_eq]
  | @ask connection opened line hopen hwrite =>
    have hopens := opens_of_eq hopen
    obtain ⟨hwritings, hopenings⟩ := open?_keeps_line hopen
    obtain ⟨hinboxes, hopenings', -, hwritings'⟩ := Line.write_keeps hwrite
    have hconnection := (h.newer.opens hopens).2 _ rfl
    have hepoch := hopens.epoch_eq.trans h.epoch_eq
    refine h.of_set hlast hold hold' (.begun hconnection) ?_ hopens.epoch_eq
      (fun hle hinbox => hopens.silent h.silent hle (hinboxes ▸ hinbox))
      (hopenings'.symm ▸ hopenings) (hwritings ▸ hwritings')
    simp only [stay, hopens.calls_eq, hepoch]

/-- An exchange that goes on is the one that was disconnected: those that have begun since have
nothing to read. -/
theorem aborts (h : link.Resumes last) (hlast : last.step (.proceed index) = some next)
    {old : CallStage} {connection epoch : Nat} {assembler : Assembler}
    (hold : link.calls[index]? = some old)
    (hstage : last.calls[index]? = some (.exchanging connection epoch assembler))
    (hway : old = .exchanging connection epoch assembler ∨
      link.Outlives old (.exchanging connection epoch assembler)) : link.Resumes next := by
  by_cases hepoch : epoch = last.epoch
  · subst hepoch
    have hopen := (h.coherent.reading hstage).2.current rfl
    obtain ⟨arrival, arrivals, hinbox, -⟩ := takes_of_step hstage hlast
    exact absurd (h.silent (h.newer.2 _ hopen) hinbox) (List.cons_ne_nil _ _)
  · have haborts := step_of_epoch_ne hstage hepoch
    obtain rfl := Option.some.inj (haborts.symm.trans hlast)
    rcases hway with rfl | houtlives
    · exact h.of_set haborts hold hstage .aborted rfl rfl h.silent List.suffix_rfl List.suffix_rfl
    · cases houtlives with
      | same hother => exact absurd rfl (hother _ _ _)
      | begun => exact absurd h.epoch_eq.symm hepoch

/-- Whatever a call does when it goes on, it is one of the ways that there are. -/
theorem proceed (h : link.Resumes last) (hrest : link.AtRest)
    (hlast : last.step (.proceed index) = some next) : link.Resumes next := by
  cases hstage : last.calls[index]? with
  | none => simp [step, proceed?, hstage] at hlast
  | some current =>
    have hlt : index < link.calls.length :=
      h.length_eq ▸ (List.getElem?_eq_some_iff.1 hstage).1
    obtain ⟨old, hold⟩ : ∃ old, link.calls[index]? = some old :=
      ⟨_, List.getElem?_eq_getElem hlt⟩
    have hway : old = current ∨ link.Outlives old current := by
      rcases h.stages hold with hsame | ⟨now, hnow, houtlives⟩
      · exact Or.inl (Option.some.inj (hsame.symm.trans hstage))
      · exact Or.inr (Option.some.inj (hnow.symm.trans hstage) ▸ houtlives)
    cases current with
    | ended | dropped => simp [step, proceed?, hstage] at hlast
    | queued request =>
      obtain rfl : old = .queued request := by
        rcases hway with hsame | houtlives
        · exact hsame
        · cases houtlives
          rfl
      exact h.begins hlast hold hstage
    | yielding deadline =>
      obtain rfl : old = .yielding deadline := by
        rcases hway with hsame | houtlives
        · exact hsame
        · cases houtlives
          rfl
      cases moves_of_step hlast with
      | yield =>
        exact h.of_set hlast hold hstage .yielded rfl rfl h.silent List.suffix_rfl List.suffix_rfl
      | giveUp hother hlate =>
        -- The cancellation had patience left, and no time has passed.
        obtain rfl := CallStage.yielding.inj (Option.some.inj (hother.symm.trans hstage))
        exact absurd (h.now_eq ▸ hlate) (Nat.not_le.2 (hrest.lt_deadline hold))
      | unreached hother | cut hother | ask hother | abort hother | read hother | hear hother
      | fail hother =>
        rw [hstage] at hother
        simp at hother
    | exchanging connection epoch assembler => exact h.aborts hlast hold hstage hway

theorem proceeds (h : link.Resumes last) (hrest : link.AtRest) {order : List Nat}
    (hrun : last.run (order.map .proceed) = some next) : link.Resumes next := by
  induction order generalizing last with
  | nil => exact Option.some.inj hrun ▸ h
  | cons index order ih =>
    obtain ⟨middle, hmiddle, horder⟩ := Option.bind_eq_some_iff.1 hrun
    exact ih (h.proceed hrest hmiddle) horder

/-- When all calls wait again, the exchange that was disconnected has ended. -/
theorem outlives (h : link.Resumes last) (hlink : link.Coherent) (hrest : last.AtRest)
    (hstage : link.calls[index]? = some stage) :
    ∃ now, last.calls[index]? = some now ∧ link.Outlives stage now := by
  rcases h.stages hstage with hsame | houtlives
  · refine ⟨stage, hsame, .same ?_⟩
    rintro connection epoch assembler rfl
    have hbegun := (hlink.reading hstage).2.begun
    have hepoch := (hrest.stands_of_exchanging h.coherent hsame).2
    rw [h.epoch_eq] at hepoch
    omega
  · exact houtlives

end Resumes

theorem hasNewer_of_run {events : List LinkEvent}
    (hrun : link.run (.disconnect :: events) = some last) :
    last.HasNewer link.line.inboxes.length := by
  obtain ⟨middle, hmiddle, hrest⟩ := Option.bind_eq_some_iff.1 hrun
  obtain rfl := Option.some.inj hmiddle
  exact run_induction (fun other => other.HasNewer link.line.inboxes.length) hrest
    ⟨Nat.le_refl _, fun connection hopen => nomatch hopen⟩ fun hnewer hmoves => hnewer.moves hmoves

/-- A link on which all calls wait can be disconnected.  When all calls wait again, the exchange
that was under way has failed with `disconnected`, and no other call has failed but for an attempt
to open a connection or to write.  From then on, whatever happens:

* the connections that there were stay closed;
* whenever all calls wait, the first of them is at its exchange on a new connection;
* a call that goes on has its exchange in the order of the start, on a new connection, or it fails
  with the error of the attempt to open one;
* no exchange fails because of a disconnection but the one that was under way, and those that
  another disconnection finds under way. -/
theorem disconnection_ends_exchange_under_way {patience : Nat} {before : List LinkEvent}
    {link : Link} (hbefore : ({ patience } : Link).run before = some link) (hrest : link.AtRest) :
    (∃ next, link.Leads .disconnect next) ∧
    (∀ {next : Link}, link.Leads .disconnect next →
      ∀ {index : Nat} {stage : CallStage}, link.calls[index]? = some stage →
        ∃ now, next.calls[index]? = some now ∧ link.Outlives stage now) ∧
    ∀ {events : List LinkEvent} {last : Link}, link.run (.disconnect :: events) = some last →
      (∀ connection < link.line.inboxes.length, last.IsOver connection) ∧
      (last.AtRest → ∀ {first : Nat}, last.turn = some first →
        ∃ connection, link.line.inboxes.length ≤ connection ∧ last.Stands first connection) ∧
      (∀ {index : Nat} {request : Message} {next : Link},
        last.calls[index]? = some (.queued request) → last.step (.proceed index) = some next →
          last.BeginsInTurn link.line.inboxes.length index request next) ∧
      ∀ {index : Nat}, last.IsAborted index →
        last.step (.proceed index) = some (last.close.finish index (.error .disconnected)) ∧
        (link.IsExchanging index ∨
          ∃ found, link.step .disconnect = some found ∧ found.IsMet events index) := by
  have hlink : link.Coherent := (coherent_of_unused patience).run hbefore
  refine ⟨⟨_, leads_of_after? rfl⟩, fun {next} hleads index stage hstage => ?_,
    fun {events last} hrun => ?_⟩
  · obtain ⟨middle, order, hmiddle, horder, hwaits⟩ := hleads.moves
    obtain rfl := Option.some.inj hmiddle
    exact ((resumes_disconnect hlink).proceeds hrest horder).outlives hlink hwaits hstage
  · have hcoherent := hlink.run hrun
    have hnewer := hasNewer_of_run hrun
    refine ⟨fun connection hlt => ⟨fun hopen => ?_, Nat.lt_of_lt_of_le hlt hnewer.1⟩,
      fun hwaits first hfirst => ?_,
      fun hstage hstep => beginsInTurn_of_step hcoherent hnewer hstage hstep,
      fun {index} haborted => ?_⟩
    · exact Nat.not_le.2 hlt (hnewer.2 connection hopen)
    · obtain ⟨connection, hstands⟩ := hwaits.first_stands hcoherent hfirst
      exact ⟨connection, hnewer.2 connection hstands.opened, hstands⟩
    · refine ⟨haborted.step_eq, ?_⟩
      obtain ⟨found, hfound, hlater⟩ := Option.bind_eq_some_iff.1 hrun
      obtain rfl := Option.some.inj hfound
      rcases isMet_of_run (hlink.moves .disconnect) hlater haborted with hnow | hmet
      · exact Or.inl ((isAborted_disconnect hlink).1 hnow)
      · exact Or.inr ⟨_, hfound, hmet⟩

/-- An exchange is under way, a cancellation and two calls wait, and the next connection cannot be
opened. -/
theorem disconnection_lets_second_call_begin :
    let gone : DeviceError := .transport "gone"
    ∃ link next : Link,
      ({ patience := 10000 } : Link).run [.call DeviceRequest.backup.message, .proceed 0, .cancel,
        .call DeviceRequest.wipe.message, .call DeviceRequest.backup.message,
        .expectOpenings [some gone]] = some link ∧
      link.AtRest ∧ link.Leads .disconnect next ∧
      next.calls = [.ended (.error .disconnected), .ended (.ok cancelled), .ended (.error gone),
        .exchanging 1 1 .empty] ∧
      (∃ now, next.calls[2]? = some now ∧
        link.Outlives (.queued DeviceRequest.wipe.message) now) ∧
      next.IsOver 0 ∧ ∃ connection, 1 ≤ connection ∧ next.Stands 3 connection := by
  intro gone
  have hruns : (({ patience := 10000 } : Link).run [.call DeviceRequest.backup.message, .proceed 0,
      .cancel, .call DeviceRequest.wipe.message, .call DeviceRequest.backup.message,
      .expectOpenings [some gone]]).any fun link => link.AtRest ∧
        link.calls[2]? = some (.queued DeviceRequest.wipe.message) ∧
        link.line.inboxes.length = 1 ∧
        (link.run [.disconnect, .proceed 0, .proceed 1, .proceed 2, .proceed 3]).any fun next =>
          next.AtRest ∧ next.turn = some 3 ∧
            next.calls = [.ended (.error .disconnected), .ended (.ok cancelled),
              .ended (.error gone), .exchanging 1 1 .empty] := by
    decide +kernel
  obtain ⟨link, hlink, hruns⟩ := (Option.any_eq_true _ _).1 hruns
  obtain ⟨hrest, hqueued, hcount, hruns⟩ := of_decide_eq_true hruns
  obtain ⟨next, hnext, hruns⟩ := (Option.any_eq_true _ _).1 hruns
  obtain ⟨hwaits, hfirst, hcalls⟩ := of_decide_eq_true hruns
  have hleads : link.Leads .disconnect next := ⟨[0, 1, 2, 3], hnext, hwaits⟩
  obtain ⟨-, houtlives, hlater⟩ := disconnection_ends_exchange_under_way hlink hrest
  obtain ⟨hover, hstands, -⟩ := hlater hnext
  rw [hcount] at hover hstands
  exact ⟨link, next, hlink, hrest, hleads, hcalls, houtlives hleads hqueued, hover 0 (by decide),
    hstands hwaits hfirst⟩

end WalletGateway.Link
