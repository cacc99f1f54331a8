import WalletGateway.Proofs.Access.Settling
import WalletGateway.Proofs.Api.Traffic

/-!
# The service as traffic

After each event a service lets everything go on until all of it waits, with devices that answer
from a script.  This is one of the courses that its traffic may take, and `Service.follows_run` says
which calls and disconnections the devices see on the way.  So what holds of all traffic holds of
every service.
-/

namespace WalletGateway.Api

open Access (Rehearsal)
open Http (Request Response)

/-- The traffic of a service. -/
def Service.traffic (service : Service) : Traffic where
  config := service.config
  secret := service.secret
  access device := (service.access device).state
  told device := (service.access device).delivered
  exchanges := service.exchanges

/-- A service comes from another by what happens in its traffic, and its devices have seen the calls
and the disconnections that belong to it. -/
structure Service.Follows (first : Service) (incidents : List Incident) (last : Service) :
    Prop where
  traffic : last.traffic = first.traffic.run incidents
  sent : ∀ device, (last.access device).device.sent
    = (Access.sent (first.traffic.steps device incidents)).reverse
      ++ (first.access device).device.sent
  disconnects : ∀ device, (last.access device).device.disconnects
    = (first.access device).device.disconnects
      + Access.disconnects (first.traffic.steps device incidents)

/-- Whether something happens inside the service, and not by a client. -/
def Incident.isInner : Incident → Bool
  | .arrive .. | .leave _ => false
  | .signal .. | .collect _ => true

/-- What a client does in an event. -/
def ServiceEvent.incident? : ServiceEvent → Option Incident
  | .request now nonce asking => some (.arrive now nonce asking)
  | .leave exchange => some (.leave exchange)
  | .reply .. | .extend .. | .setFailing .. => none

/-- Its devices have nothing to say at the moment. -/
def Service.IsQuiet (service : Service) : Prop :=
  ∀ device, (service.access device).due = none

/-! ## Operations that go on -/

namespace Traffic

variable {traffic : Traffic} {device : DeviceId}

/-- A step in which an operation goes on is an incident at its device, and at no other. -/
theorem step?_signal {step : Access.Step} {index : Nat} {signal : Access.Signal}
    (hbefore : step.before = traffic.access device) (hlawful : step.IsLawful)
    (hevent : step.event = .signal index signal) (hinner : signal.isInner = true)
    (other : DeviceId) :
    traffic.step? other (.signal device index signal)
      = if other = device then some step else none := by
  by_cases hother : other = device
  · subst hother
    rw [if_pos rfl]
    exact step?_eq_of_event (by simp [event?, hinner, hevent]) hbefore hlawful
  · simp [step?, event?, hother, Ne.symm hother]

/-- Operations of a device that go on, step by step. -/
def signals (device : DeviceId) (steps : List Access.Step) : List Incident :=
  steps.filterMap fun step =>
    match step.event with
    | .begin .. => none
    | .signal index signal => some (.signal device index signal)

theorem isInner_of_mem_signals {steps : List Access.Step} {incident : Incident}
    (h : incident ∈ signals device steps) : incident.isInner = true := by
  obtain ⟨step, -, hstep⟩ := List.mem_filterMap.1 h
  split at hstep
  · contradiction
  · obtain rfl := Option.some.inj hstep
    rfl

theorem run_signals {steps : List Access.Step} {last : Access.State}
    (h : Access.Execution (traffic.access device) steps last)
    (hinner : ∀ step ∈ steps, step.IsInner) :
    traffic.run (signals device steps)
        = { traffic with
            access := fun other => if other = device then last else traffic.access other
            told := fun other =>
              (if other = device then Access.told steps else []) ++ traffic.told other } ∧
      ∀ other, traffic.steps other (signals device steps)
        = if other = device then steps else [] := by
  induction h with
  | refl =>
    constructor
    · apply Traffic.ext <;> try rfl
      · funext other
        show traffic.access other = if other = device then traffic.access device else _
        split
        · rename_i hother
          rw [hother]
        · rfl
      · funext other
        simp [signals]
    · simp [signals]
  | @snoc steps step hsteps hlawful ih =>
    obtain ⟨hrun, hfront⟩ := ih fun other hother => hinner other (List.mem_append_left _ hother)
    obtain ⟨index, signal, hevent, hsignal⟩ := hinner step (by simp)
    have hsignals : signals device (steps ++ [step])
        = signals device steps ++ [.signal device index signal] := by
      simp [signals, hevent]
    have hbefore : step.before = (traffic.run (signals device steps)).access device := by
      simp [hrun]
    have hstep := step?_signal hbefore hlawful hevent hsignal
    rw [hsignals]
    constructor
    · rw [run_append, run_cons, run_nil]
      apply Traffic.ext
      · simp
      · simp
      · funext other
        rw [step_access, hstep other]
        by_cases hother : other = device <;> simp [hother, hrun]
      · funext other
        rw [step_told, hstep other]
        by_cases hother : other = device <;> simp [hother, hrun]
      · show (traffic.run (signals device steps)).exchanges = _
        rw [hrun]
    · intro other
      rw [steps_append, hfront other, steps_cons, hstep other]
      by_cases hother : other = device <;> simp [hother]

/-- Each of the first requests takes note of the outcome of its operation. -/
theorem run_collects (traffic : Traffic) (count : Nat) :
    (traffic.run ((List.range count).map .collect)).access = traffic.access ∧
      (traffic.run ((List.range count).map .collect)).told = traffic.told ∧
      (∀ place : Nat, (traffic.run ((List.range count).map .collect)).exchanges[place]?
        = if place < count then (traffic.exchanges[place]?).map (·.collect traffic.told)
          else traffic.exchanges[place]?) ∧
      ∀ device, traffic.steps device ((List.range count).map .collect) = [] := by
  induction count with
  | zero => simp
  | succ count ih =>
    obtain ⟨haccess, htold, hexchanges, hsteps⟩ := ih
    rw [List.range_succ, List.map_append, run_append]
    refine ⟨haccess, htold, fun place => ?_, fun device => ?_⟩
    · show ((traffic.run ((List.range count).map .collect)).exchanges.modify count
        (·.collect (traffic.run ((List.range count).map .collect)).told))[place]? = _
      rw [List.getElem?_modify, hexchanges place, htold]
      by_cases hplace : count = place
      · simp [hplace]
      · simp [hplace, show place < count + 1 ↔ place < count by omega]
    · rw [steps_append, hsteps device]
      rfl

end Traffic

/-! ## What happens to a service -/

namespace Service

variable {service : Service} {device : DeviceId}

theorem setAccess_traffic (service : Service) (device : DeviceId) (access : Rehearsal) :
    (service.setAccess device access).traffic
      = { service.traffic with
          access := fun other =>
            if other = device then access.state else (service.access other).state
          told := fun other =>
            if other = device then access.delivered else (service.access other).delivered } := by
  apply Traffic.ext
  · cases device <;> rfl
  · cases device <;> rfl
  · funext other
    show ((service.setAccess device access).access other).state
      = if other = device then access.state else (service.access other).state
    rw [access_setAccess]
    split <;> rfl
  · funext other
    show ((service.setAccess device access).access other).delivered
      = if other = device then access.delivered else (service.access other).delivered
    rw [access_setAccess]
    split <;> rfl
  · exact setAccess_exchanges service device access

theorem setAccess_setAccess (service : Service) (device : DeviceId) (first second : Rehearsal) :
    (service.setAccess device first).setAccess device second = service.setAccess device second := by
  cases device <;> rfl

theorem Follows.refl (service : Service) : service.Follows [] service where
  traffic := rfl
  sent _ := rfl
  disconnects _ := rfl

theorem Follows.trans {first middle last : Service} {incidents later : List Incident}
    (h : first.Follows incidents middle) (h' : middle.Follows later last) :
    first.Follows (incidents ++ later) last where
  traffic := by rw [h'.traffic, h.traffic, Traffic.run_append]
  sent device := by
    rw [h'.sent, h.sent, h.traffic, Traffic.steps_append, Access.sent_append, List.reverse_append,
      List.append_assoc]
  disconnects device := by
    rw [h'.disconnects, h.disconnects, h.traffic, Traffic.steps_append, Access.disconnects_append,
      Nat.add_assoc]

/-- The operations of a device go on. -/
theorem follows_setAccess {access : Rehearsal} {steps : List Access.Step}
    (h : (service.access device).Evolves steps access) (hinner : ∀ step ∈ steps, step.IsInner) :
    service.Follows (Traffic.signals device steps) (service.setAccess device access) := by
  have hexecution : Access.Execution (service.traffic.access device) steps access.state :=
    h.execution
  obtain ⟨hrun, hsteps⟩ := Traffic.run_signals hexecution hinner
  constructor
  · rw [hrun, setAccess_traffic]
    apply Traffic.ext <;> try rfl
    funext other
    show (if other = device then access.delivered else (service.access other).delivered)
      = (if other = device then Access.told steps else []) ++ (service.access other).delivered
    split
    · rename_i hother
      rw [hother, h.delivered]
    · rfl
  · intro other
    rw [access_setAccess, hsteps other]
    split
    · rename_i hother
      rw [hother, h.sent]
    · simp
  · intro other
    rw [access_setAccess, hsteps other]
    split
    · rename_i hother
      rw [hother, h.disconnects]
    · simp

/-- A device is left to itself until everything waits. -/
theorem follows_settled (service : Service) (device : DeviceId)
    (hdue : (service.access device).IsDueInner)
    (hothers : ∀ other, other ≠ device → (service.access other).due = none) :
    ∃ incidents, (∀ incident ∈ incidents, incident.isInner = true) ∧
      service.Follows incidents (service.setAccess device (service.access device).settle) ∧
      (service.setAccess device (service.access device).settle).IsQuiet := by
  obtain ⟨steps, hinner, hsettle, hsilent⟩ := Rehearsal.evolves_settle hdue
  refine ⟨_, fun _ => Traffic.isInner_of_mem_signals, follows_setAccess hsettle hinner,
    fun other => ?_⟩
  rw [access_setAccess]
  split
  · exact hsilent
  · rename_i hother
    exact hothers other hother

/-- All requests take note of the outcomes of their operations, one after the other. -/
theorem follows_collect (service : Service) :
    ∃ incidents, (∀ incident ∈ incidents, incident.isInner = true) ∧
      service.Follows incidents service.collect := by
  obtain ⟨haccess, htold, hexchanges, hsteps⟩ :=
    service.traffic.run_collects service.exchanges.length
  refine ⟨(List.range service.exchanges.length).map .collect, ?_, ?_, fun device => ?_,
    fun device => ?_⟩
  · intro incident hincident
    obtain ⟨place, -, rfl⟩ := List.mem_map.1 hincident
    rfl
  · apply Traffic.ext
    · rw [Traffic.run_config]
      rfl
    · rw [Traffic.run_secret]
      rfl
    · rw [haccess]
      funext device
      cases device <;> rfl
    · rw [htold]
      funext device
      cases device <;> rfl
    · apply List.ext_getElem?
      intro place
      rw [hexchanges place]
      show (service.exchanges.map fun exchange => exchange.collect service.traffic.told)[place]? = _
      rw [List.getElem?_map]
      split
      · rfl
      · rename_i hplace
        have hnone : service.exchanges[place]? = none := List.getElem?_eq_none (by omega)
        have hnone' : service.traffic.exchanges[place]? = none := hnone
        rw [hnone, hnone']
        rfl
  · rw [hsteps device]
    cases device <;> rfl
  · rw [hsteps device]
    cases device <;> rfl

theorem collect_isQuiet (h : service.IsQuiet) : service.collect.IsQuiet := by
  intro device
  rw [access_collect]
  exact h device

/-- One incident, given what it is for each device and for the requests. -/
theorem follows_incident {last : Service} {incident : Incident}
    (hconfig : last.config = service.config) (hsecret : last.secret = service.secret)
    (hexchanges : last.exchanges = (service.traffic.step incident).exchanges)
    (hevolves : ∀ device, (service.access device).Evolves
      (service.traffic.step? device incident).toList (last.access device)) :
    service.Follows [incident] last where
  traffic := by
    apply Traffic.ext
    · exact hconfig
    · exact hsecret
    · funext device
      have hexecution := (hevolves device).execution
      show (last.access device).state = (service.traffic.step incident).access device
      rw [Traffic.step_access]
      cases hstep : service.traffic.step? device incident with
      | none =>
        rw [hstep] at hexecution
        exact hexecution.of_nil
      | some step =>
        rw [hstep] at hexecution
        exact hexecution.of_singleton.2.2
    · funext device
      exact (hevolves device).delivered
    · exact hexchanges
  sent device := by
    rw [Traffic.steps_cons, Traffic.steps_nil, List.append_nil]
    exact (hevolves device).sent
  disconnects device := by
    rw [Traffic.steps_cons, Traffic.steps_nil, List.append_nil]
    exact (hevolves device).disconnects

/-- The access to a device with one more operation, which has not done anything yet. -/
def begun (access : Rehearsal) (purpose : Access.Purpose) (message : Message) : Rehearsal :=
  { access with
    state := { access.state with
      operations := access.state.operations ++ [.new purpose message] } }

/-- A request starts an operation. -/
theorem follows_begun {now : Instant} {nonce : List UInt8} {request : Request}
    {endpoint : Endpoint} {asked : DeviceRequest}
    (hhandling : service.traffic.handling now nonce request = .operate device endpoint asked) :
    service.Follows [.arrive now nonce request]
      ((service.setAccess device (begun (service.access device)
          (.supervised endpoint.isSerialized) asked.message)).withExchange
        ⟨Dressing.of service.config request,
          .operating device endpoint (service.access device).state.operations.length⟩) := by
  let event : Access.Event := .begin (.supervised endpoint.isSerialized) asked.message
  have hevent : ∀ other, service.traffic.event? other (.arrive now nonce request)
      = if device = other then some event else none := by
    intro other
    simp only [Traffic.event?, hhandling]
    rfl
  refine follows_incident ?_ ?_ ?_ fun other => ?_
  · cases device <;> rfl
  · cases device <;> rfl
  · show (service.setAccess device _).exchanges ++ [_]
      = service.exchanges ++ [service.traffic.opening now nonce request]
    rw [setAccess_exchanges]
    simp only [Traffic.opening, hhandling]
    rfl
  · rw [access_withExchange, access_setAccess]
    by_cases hother : other = device
    · subst hother
      let step : Access.Step :=
        { before := (service.access other).state
          event
          effect := none
          after := (begun (service.access other)
            (.supervised endpoint.isSerialized) asked.message).state }
      have hlawful : step.IsLawful := rfl
      rw [Traffic.step?_eq_of_event (by rw [hevent, if_pos rfl]) rfl hlawful, if_pos rfl]
      have hone : Access.Execution (service.access other).state ([] ++ [step]) step.after :=
        .snoc .refl hlawful
      exact ⟨hone, rfl, rfl, rfl⟩
    · have hnone : service.traffic.step? other (.arrive now nonce request) = none := by
        simp [Traffic.step?, hevent, Ne.symm hother]
      rw [hnone, if_neg hother]
      exact .refl _

/-- A request comes, and its operation, if it starts one, goes on as far as it can. -/
theorem follows_takeUp (hquiet : service.IsQuiet) (now : Instant) (nonce : List UInt8)
    (request : Request) :
    ∃ incidents, (∀ incident ∈ incidents, incident.isInner = true) ∧
      service.Follows (.arrive now nonce request :: incidents)
        (service.takeUp now nonce request) ∧
      (service.takeUp now nonce request).IsQuiet := by
  unfold takeUp
  cases hhandling : handle ⟨service.config, service.secret, now, nonce⟩ request with
  | respond response =>
    have htraffic : service.traffic.handling now nonce request = .respond response := hhandling
    refine ⟨[], by simp, follows_incident rfl rfl ?_ fun device => ?_, fun device => ?_⟩
    · show service.exchanges ++ [_]
        = service.exchanges ++ [service.traffic.opening now nonce request]
      simp only [Traffic.opening, htraffic]
      rfl
    · have hnone : service.traffic.step? device (.arrive now nonce request) = none := by
        simp [Traffic.step?, Traffic.event?, htraffic]
      rw [hnone, access_withExchange]
      exact .refl _
    · rw [access_withExchange]
      exact hquiet device
  | operate device endpoint asked =>
    let access := begun (service.access device) (.supervised endpoint.isSerialized) asked.message
    let exchange : Exchange := ⟨Dressing.of service.config request,
      .operating device endpoint (service.access device).state.operations.length⟩
    let started := (service.setAccess device access).withExchange exchange
    have hfirst : service.Follows [.arrive now nonce request] started := follows_begun hhandling
    have hdevice : started.access device = access := by simp [started]
    have hdue : access.due = none := hquiet device
    obtain ⟨later, hinner, hsecond, hsettled⟩ := follows_settled started device
      (by simp [hdevice, Rehearsal.IsDueInner, hdue])
      fun other hother => by simp [started, hother, hquiet other]
    have hlast : started.setAccess device access.settle
        = (service.setAccess device access.settle).withExchange exchange := by
      cases device <;> rfl
    rw [hdevice, hlast] at hsecond hsettled
    exact ⟨later, hinner, hfirst.trans hsecond, hsettled⟩

/-- A client goes away from its operation, which is given up. -/
theorem follows_abandon (hquiet : service.IsQuiet) {index : Nat} {dressing : Dressing}
    {endpoint : Endpoint} {operation : Nat}
    (hexchange : service.exchanges[index]?
      = some ⟨dressing, .operating device endpoint operation⟩) :
    let given := ((service.access device).signal? operation .abandon).getD (service.access device)
    service.Follows [.leave index]
        { service.setAccess device given with
          exchanges := service.exchanges.set index ⟨dressing, .abandoned⟩ } ∧
      given.IsDueInner := by
  intro given
  have htraffic : service.traffic.exchanges[index]? = _ := hexchange
  have hevent : ∀ other, service.traffic.event? other (.leave index)
      = if device = other then some (.signal operation .abandon) else none := by
    intro other
    simp only [Traffic.event?, htraffic]
    rfl
  have hgiven : (service.access device).Evolves
      (service.traffic.step? device (.leave index)).toList given ∧ given.IsDueInner := by
    have hdue : (service.access device).IsDueInner := by simp [Rehearsal.IsDueInner, hquiet device]
    cases hsignal : (service.access device).signal? operation .abandon with
    | none =>
      have hnone : service.traffic.step? device (.leave index) = none := by
        have hstep := Rehearsal.step_of_signal?_eq_none hsignal
        have hsame : service.traffic.access device = (service.access device).state := rfl
        simp [Traffic.step?, hevent, hsame, hstep]
      rw [hnone]
      simp only [given, hsignal, Option.getD_none]
      exact ⟨.refl _, hdue⟩
    | some next =>
      obtain ⟨step, hstep, hevolves, hnext⟩ := Rehearsal.evolves_signal? hsignal
      obtain ⟨hbefore, hlawful, -⟩ := hevolves.execution.of_singleton
      rw [Traffic.step?_eq_of_event (by rw [hevent, if_pos rfl, hstep]) hbefore hlawful]
      simp only [given, hsignal, Option.getD_some]
      exact ⟨hevolves, hnext hdue⟩
  refine ⟨follows_incident ?_ ?_ ?_ fun other => ?_, hgiven.2⟩
  · cases device <;> rfl
  · cases device <;> rfl
  · have : Inhabited Exchange := ⟨⟨dressing, .abandoned⟩⟩
    show service.exchanges.set index _ = service.exchanges.modify index Exchange.abandon
    rw [List.modify_eq_set, hexchange]
    rfl
  · show (service.access other).Evolves _ ((service.setAccess device given).access other)
    rw [access_setAccess]
    split
    · rename_i hother
      subst hother
      exact hgiven.1
    · rename_i hother
      have hnone : service.traffic.step? other (.leave index) = none := by
        simp [Traffic.step?, hevent, Ne.symm hother]
      rw [hnone]
      exact .refl _

/-- The client of a request goes away, and its operation is given up as far as it can be. -/
theorem follows_leave (hquiet : service.IsQuiet) (index : Nat) :
    ∃ incidents, (∀ incident ∈ incidents, incident.isInner = true) ∧
      service.Follows (.leave index :: incidents) (service.leave index).1 ∧
      (service.leave index).1.IsQuiet := by
  unfold leave
  split
  · rename_i dressing device endpoint operation hexchange
    let given := ((service.access device).signal? operation .abandon).getD (service.access device)
    let left : Service :=
      { service.setAccess device given with
        exchanges := service.exchanges.set index ⟨dressing, .abandoned⟩ }
    obtain ⟨hfirst, hdue⟩ := follows_abandon hquiet hexchange
    have haccess : ∀ other, left.access other
        = if other = device then given else service.access other :=
      fun other => access_setAccess service device other given
    obtain ⟨later, hinner, hsecond, hsettled⟩ := follows_settled left device
      (by rw [haccess, if_pos rfl]; exact hdue)
      fun other hother => by rw [haccess, if_neg hother]; exact hquiet other
    have hlast : left.setAccess device given.settle
        = { service.setAccess device given.settle with
            exchanges := service.exchanges.set index ⟨dressing, .abandoned⟩ } := by
      cases device <;> rfl
    rw [haccess, if_pos rfl, hlast] at hsecond hsettled
    exact ⟨later, hinner, hfirst.trans hsecond, hsettled⟩
  · rename_i hended
    have hstage : ∀ dressing device endpoint operation, service.traffic.exchanges[index]?
        ≠ some ⟨dressing, .operating device endpoint operation⟩ := hended
    refine ⟨[], by simp, follows_incident rfl rfl ?_ fun device => ?_, hquiet⟩
    · exact (Traffic.modify_abandon_of_ended hstage).symm
    · rw [Traffic.step?_leave_of_ended hstage]
      exact .refl _

/-- Something becomes of a device that its operations do not notice. -/
theorem follows_silently (hquiet : service.IsQuiet) {access : Rehearsal}
    (hevolves : (service.access device).Evolves [] access) (hdue : access.due = none) :
    service.Follows [] (service.setAccess device access) ∧
      (service.setAccess device access).IsQuiet := by
  refine ⟨follows_setAccess hevolves (by simp), fun other => ?_⟩
  rw [access_setAccess]
  split
  · exact hdue
  · exact hquiet other

/-- A device answers one of its open calls. -/
theorem follows_reply (hquiet : service.IsQuiet) (device : DeviceId) (position : Nat)
    (reply : Except DeviceError Message) :
    ∃ incidents, (∀ incident ∈ incidents, incident.isInner = true) ∧
      service.Follows incidents
        (service.setAccess device ((service.access device).reply position reply).1) ∧
      (service.setAccess device ((service.access device).reply position reply).1).IsQuiet := by
  unfold Rehearsal.reply
  split
  · exact ⟨[], by simp, follows_silently hquiet (.refl _) (hquiet device)⟩
  · rename_i owner howner
    let answered : Rehearsal := { service.access device with
      device := { (service.access device).device with
        pending := (service.access device).device.pending.eraseIdx position } }
    have hanswered : (service.access device).Evolves [] answered := ⟨.refl, rfl, rfl, rfl⟩
    have hdue : answered.IsDueInner := by
      simp [Rehearsal.IsDueInner, answered, hquiet device]
    split
    · let heard := (answered.signal? owner (.answer reply)).getD answered
      show ∃ incidents, (∀ incident ∈ incidents, incident.isInner = true) ∧
        service.Follows incidents (service.setAccess device heard.settle) ∧
        (service.setAccess device heard.settle).IsQuiet
      have hheard : ∃ steps : List Access.Step, (∀ step ∈ steps, step.IsInner) ∧
          (service.access device).Evolves steps heard ∧ heard.IsDueInner := by
        cases hsignal : answered.signal? owner (.answer reply) with
        | none =>
          simp only [heard, hsignal, Option.getD_none]
          exact ⟨[], by simp, hanswered, hdue⟩
        | some next =>
          obtain ⟨step, hstep, hevolves, hnext⟩ := Rehearsal.evolves_signal? hsignal
          simp only [heard, hsignal, Option.getD_some]
          refine ⟨[step], ?_, hanswered.trans hevolves, hnext hdue⟩
          intro other hother
          obtain rfl := List.mem_singleton.1 hother
          exact ⟨owner, _, hstep, rfl⟩
      obtain ⟨steps, hinner, hevolves, hnext⟩ := hheard
      have hfirst := follows_setAccess hevolves hinner
      obtain ⟨later, hlater, hsecond, hsettled⟩ := follows_settled
        (service.setAccess device heard) device
        (by rw [access_setAccess, if_pos rfl]; exact hnext)
        fun other hother => by rw [access_setAccess, if_neg hother]; exact hquiet other
      rw [access_setAccess, if_pos rfl, setAccess_setAccess] at hsecond hsettled
      refine ⟨_, fun incident hincident => ?_, hfirst.trans hsecond, hsettled⟩
      exact (List.mem_append.1 hincident).elim Traffic.isInner_of_mem_signals (hlater incident)
    · exact ⟨[], by simp, follows_silently hquiet ⟨.refl, rfl, rfl, rfl⟩ (hquiet device)⟩

/-- An event brings into the traffic what a client does, and then what follows from it inside the
service. -/
theorem follows_step (hquiet : service.IsQuiet) (event : ServiceEvent) :
    ∃ incidents, (∀ incident ∈ incidents, incident.isInner = true) ∧
      service.Follows (event.incident?.toList ++ incidents) (service.step event).1 ∧
      (service.step event).1.IsQuiet := by
  have hcollect : ∀ {middle : Service} (outer : List Incident),
      (∃ incidents, (∀ incident ∈ incidents, incident.isInner = true) ∧
        service.Follows (outer ++ incidents) middle ∧ middle.IsQuiet) →
      ∃ incidents, (∀ incident ∈ incidents, incident.isInner = true) ∧
        service.Follows (outer ++ incidents) middle.collect ∧ middle.collect.IsQuiet := by
    rintro middle outer ⟨incidents, hinner, hfollows, hmiddle⟩
    obtain ⟨later, hlater, hlast⟩ := middle.follows_collect
    refine ⟨incidents ++ later, fun incident hincident => ?_, ?_, collect_isQuiet hmiddle⟩
    · exact (List.mem_append.1 hincident).elim (hinner incident) (hlater incident)
    · rw [← List.append_assoc]
      exact hfollows.trans hlast
  cases event with
  | request now nonce request => exact hcollect [_] (follows_takeUp hquiet now nonce request)
  | leave index => exact hcollect [_] (follows_leave hquiet index)
  | reply device position reply => exact hcollect [] (follows_reply hquiet device position reply)
  | extend device script =>
    exact ⟨[], by simp, follows_silently hquiet ⟨.refl, rfl, rfl, rfl⟩ (hquiet device)⟩
  | setFailing device failing =>
    exact ⟨[], by simp, follows_silently hquiet ⟨.refl, rfl, rfl, rfl⟩ (hquiet device)⟩

/-- A run of a service is one of the courses that its traffic may take.  Its clients do the same in
both, and its devices see the calls and the disconnections of that course. -/
theorem follows_run (hquiet : service.IsQuiet) (events : List ServiceEvent) :
    ∃ incidents, service.Follows incidents (service.run events) ∧
      (incidents.filter fun incident => !incident.isInner)
        = events.filterMap ServiceEvent.incident? := by
  induction events generalizing service with
  | nil => exact ⟨[], .refl service, rfl⟩
  | cons event events ih =>
    obtain ⟨incidents, hinner, hfirst, hnext⟩ := follows_step hquiet event
    obtain ⟨later, hsecond, houter⟩ := ih hnext
    refine ⟨_, hfirst.trans hsecond, ?_⟩
    have hnone : (incidents.filter fun incident => !incident.isInner) = [] := by
      simpa [List.filter_eq_nil_iff] using hinner
    have hclient : (event.incident?.toList.filter fun incident => !incident.isInner)
        = event.incident?.toList := by
      cases event <;> rfl
    rw [List.filter_append, List.filter_append, hnone, hclient, houter, List.append_nil]
    cases hincident : event.incident? <;> simp [hincident]

end Service

end WalletGateway.Api
