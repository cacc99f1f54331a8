import Mathlib.Data.List.Induction
import WalletGateway.Api.Service
import WalletGateway.Proofs.Access.Deed

/-!
# Traffic

The traffic of a service are its requests and the operations that they start.  Here nothing is said
about the devices, and nothing settles: between two incidents everything may be under way, a device
may answer whenever a call is outstanding, and a caller hears of an outcome some time after it was
told.

* `Traffic.step` says what one incident does.  Incidents come in any order; one that cannot occur
  does nothing.
* `Traffic.steps` are the steps of the access to one device, and they are an execution
  (`Traffic.execution`): what holds of executions holds of each device of a service.
* `Traffic.run_exchange` says what may become of a request: its operation is told an outcome, or the
  client goes away.
-/

namespace WalletGateway.Api

open Http (Request Response)

/-- The requests of a service, and the operations on its devices. -/
@[ext] structure Traffic where
  config : Config := {}
  /-- The key of CSRF tokens, if they are in use. -/
  secret : Option Hmac.Key := none
  access : DeviceId → Access.State := fun _ => {}
  /-- What the operations of a device have told, the latest first. -/
  told : DeviceId → List (Nat × Access.Outcome) := fun _ => []
  /-- All requests, in the order in which they came. -/
  exchanges : List Exchange := []

/-- What happens in the traffic of a service. -/
inductive Incident where
  /-- A request comes. The nonce is for a token, should one be issued. -/
  | arrive (now : Instant) (nonce : List UInt8) (request : Request)
  /-- The client of a request goes away. -/
  | leave (exchange : Nat)
  /-- An operation goes on, of its own or because the device has answered. -/
  | signal (device : DeviceId) (operation : Nat) (signal : Access.Signal)
  /-- A request takes note of the outcome of its operation. -/
  | collect (exchange : Nat)

/-- The client goes away, unless it has its answer already. -/
def Exchange.abandon (exchange : Exchange) : Exchange :=
  match exchange.stage with
  | .operating .. => { exchange with stage := .abandoned }
  | _ => exchange

theorem modify_eq_self_of_getElem? {α : Type} {list : List α} {index : Nat} {entry : α}
    {change : α → α} (h : list[index]? = some entry) (hkeep : change entry = entry) :
    list.modify index change = list := by
  apply List.ext_getElem?
  intro place
  rw [List.getElem?_modify]
  split
  · rename_i hplace
    subst hplace
    simp [h, hkeep]
  · simp

/-- What may become of a request in some time: its operation has an outcome, or its client has
gone. -/
def Exchange.MayBecome (first last : Exchange) : Prop :=
  last.dressing = first.dressing ∧
    (last.stage = first.stage ∨
      ∃ device endpoint operation, first.stage = .operating device endpoint operation ∧
        (last.stage = .abandoned ∨
          ∃ result, last.stage = .answered (first.dressing.apply (endpoint.response result))))

namespace Exchange

theorem MayBecome.refl (exchange : Exchange) : exchange.MayBecome exchange :=
  ⟨rfl, Or.inl rfl⟩

theorem MayBecome.trans {first second third : Exchange} (h : first.MayBecome second)
    (h' : second.MayBecome third) : first.MayBecome third := by
  obtain ⟨hdressing, hstage⟩ := h
  obtain ⟨hdressing', hstage'⟩ := h'
  refine ⟨hdressing'.trans hdressing, ?_⟩
  rcases hstage with hsame | ⟨device, endpoint, operation, hoperating, hend⟩
  · rw [hsame, hdressing] at hstage'
    exact hstage'
  · -- The request is answered or abandoned already, so nothing more becomes of it.
    refine Or.inr ⟨device, endpoint, operation, hoperating, ?_⟩
    rcases hstage' with hsame | ⟨_, _, _, hoperating', -⟩
    · rwa [hsame]
    · rw [hoperating'] at hend
      simp at hend

theorem mayBecome_abandon (exchange : Exchange) : exchange.MayBecome exchange.abandon := by
  unfold abandon
  split
  · rename_i device endpoint operation hstage
    exact ⟨rfl, Or.inr ⟨device, endpoint, operation, hstage, Or.inl rfl⟩⟩
  · exact .refl exchange

theorem mayBecome_collect (exchange : Exchange) (told : DeviceId → List (Nat × Access.Outcome)) :
    exchange.MayBecome (exchange.collect told) := by
  unfold collect
  split
  · rename_i device endpoint operation hstage
    split
    · exact .refl exchange
    · exact ⟨rfl, Or.inr ⟨device, endpoint, operation, hstage, Or.inr ⟨_, rfl⟩⟩⟩
  · exact .refl exchange

/-- Nothing more becomes of a request that has its answer. -/
theorem MayBecome.eq_of_answered {first last : Exchange} (h : first.MayBecome last)
    {response : Response} (hanswered : first.stage = .answered response) : last = first := by
  obtain ⟨hdressing, hstage⟩ := h
  have hsame : last.stage = first.stage := by
    rcases hstage with hsame | ⟨_, _, _, hoperating, -⟩
    · exact hsame
    · rw [hanswered] at hoperating
      contradiction
  cases last
  cases first
  simp only at hdressing hsame
  rw [hdressing, hsame]

end Exchange

namespace Traffic

/-- What becomes of a request. -/
def handling (traffic : Traffic) (now : Instant) (nonce : List UInt8) (request : Request) :
    Handling :=
  handle ⟨traffic.config, traffic.secret, now, nonce⟩ request

/-- The exchange that a request opens. -/
def opening (traffic : Traffic) (now : Instant) (nonce : List UInt8) (request : Request) :
    Exchange :=
  let dressing := Dressing.of traffic.config request
  match traffic.handling now nonce request with
  | .respond response => ⟨dressing, .answered (dressing.apply response)⟩
  | .operate device endpoint _ =>
    ⟨dressing, .operating device endpoint (traffic.access device).operations.length⟩

/-- The event that an incident is for the access to a device, if it is one. -/
def event? (traffic : Traffic) (device : DeviceId) : Incident → Option Access.Event
  | .arrive now nonce request =>
    match traffic.handling now nonce request with
    | .respond _ => none
    | .operate other endpoint asked =>
      if other = device then some (.begin (.supervised endpoint.isSerialized) asked.message)
      else none
  | .leave exchange =>
    match (traffic.exchanges[exchange]?).map Exchange.stage with
    | some (.operating other _ operation) =>
      if other = device then some (.signal operation .abandon) else none
    | _ => none
  | .signal other operation signal =>
    if other = device ∧ signal.isInner then some (.signal operation signal) else none
  | .collect _ => none

/-- The step that an incident is for the access to a device, if it is one and can occur. -/
def step? (traffic : Traffic) (device : DeviceId) (incident : Incident) : Option Access.Step :=
  (traffic.event? device incident).bind fun event =>
    ((traffic.access device).step event).map fun (after, effect) =>
      ⟨traffic.access device, event, effect, after⟩

/-- The traffic after an incident. -/
def step (traffic : Traffic) (incident : Incident) : Traffic where
  config := traffic.config
  secret := traffic.secret
  access device :=
    ((traffic.step? device incident).map Access.Step.after).getD (traffic.access device)
  told device := Access.told (traffic.step? device incident).toList ++ traffic.told device
  exchanges :=
    match incident with
    | .arrive now nonce request => traffic.exchanges ++ [traffic.opening now nonce request]
    | .leave exchange => traffic.exchanges.modify exchange Exchange.abandon
    | .signal .. => traffic.exchanges
    | .collect exchange => traffic.exchanges.modify exchange (·.collect traffic.told)

/-- The traffic after several incidents. -/
def run (traffic : Traffic) (incidents : List Incident) : Traffic :=
  incidents.foldl step traffic

/-- The steps of the access to a device. -/
def steps (traffic : Traffic) (device : DeviceId) : List Incident → List Access.Step
  | [] => []
  | incident :: incidents =>
    (traffic.step? device incident).toList ++ (traffic.step incident).steps device incidents

variable {traffic : Traffic} {device : DeviceId}

/-! ## Runs -/

@[simp] theorem run_nil (traffic : Traffic) : traffic.run [] = traffic := rfl

@[simp] theorem run_cons (traffic : Traffic) (incident : Incident) (incidents : List Incident) :
    traffic.run (incident :: incidents) = (traffic.step incident).run incidents :=
  rfl

@[simp] theorem run_append (traffic : Traffic) (first second : List Incident) :
    traffic.run (first ++ second) = (traffic.run first).run second :=
  List.foldl_append

@[simp] theorem steps_nil (traffic : Traffic) (device : DeviceId) : traffic.steps device [] = [] :=
  rfl

@[simp] theorem steps_cons (traffic : Traffic) (device : DeviceId) (incident : Incident)
    (incidents : List Incident) :
    traffic.steps device (incident :: incidents)
      = (traffic.step? device incident).toList ++ (traffic.step incident).steps device incidents :=
  rfl

@[simp] theorem steps_append (traffic : Traffic) (device : DeviceId)
    (first second : List Incident) :
    traffic.steps device (first ++ second)
      = traffic.steps device first ++ (traffic.run first).steps device second := by
  induction first generalizing traffic with
  | nil => rfl
  | cons incident first ih => simp [ih]

@[simp] theorem step_config (traffic : Traffic) (incident : Incident) :
    (traffic.step incident).config = traffic.config :=
  rfl

@[simp] theorem step_secret (traffic : Traffic) (incident : Incident) :
    (traffic.step incident).secret = traffic.secret :=
  rfl

theorem step_access (traffic : Traffic) (incident : Incident) (device : DeviceId) :
    (traffic.step incident).access device
      = ((traffic.step? device incident).map Access.Step.after).getD (traffic.access device) :=
  rfl

theorem step_told (traffic : Traffic) (incident : Incident) (device : DeviceId) :
    (traffic.step incident).told device
      = Access.told (traffic.step? device incident).toList ++ traffic.told device :=
  rfl

@[simp] theorem run_config (traffic : Traffic) (incidents : List Incident) :
    (traffic.run incidents).config = traffic.config := by
  induction incidents generalizing traffic with
  | nil => rfl
  | cons incident incidents ih => simp [ih]

@[simp] theorem run_secret (traffic : Traffic) (incidents : List Incident) :
    (traffic.run incidents).secret = traffic.secret := by
  induction incidents generalizing traffic with
  | nil => rfl
  | cons incident incidents ih => simp [ih]

/-! ## The access to one device -/

/-- An event for a device is a request that starts an operation there, a client that goes away from
one, or an operation that goes on. -/
theorem event?_cases {incident : Incident} {event : Access.Event}
    (h : traffic.event? device incident = some event) :
    (∃ now nonce request endpoint asked, incident = .arrive now nonce request ∧
        traffic.handling now nonce request = .operate device endpoint asked ∧
        event = .begin (.supervised endpoint.isSerialized) asked.message) ∨
      (∃ place dressing endpoint operation, incident = .leave place ∧
        traffic.exchanges[place]? = some ⟨dressing, .operating device endpoint operation⟩ ∧
        event = .signal operation .abandon) ∨
      ∃ operation signal, incident = .signal device operation signal ∧
        signal.isInner = true ∧ event = .signal operation signal := by
  cases incident with
  | arrive now nonce request =>
    simp only [event?] at h
    split at h
    · contradiction
    · rename_i other endpoint asked hhandling
      split at h
      · rename_i hother
        subst hother
        exact Or.inl ⟨now, nonce, request, endpoint, asked, rfl, hhandling,
          (Option.some.inj h).symm⟩
      · contradiction
  | leave place =>
    simp only [event?] at h
    split at h
    · rename_i other endpoint operation hstage
      split at h
      · rename_i hother
        subst hother
        obtain ⟨⟨dressing, stage⟩, hexchange, rfl⟩ := Option.map_eq_some_iff.1 hstage
        exact Or.inr (Or.inl ⟨place, dressing, endpoint, operation, rfl, hexchange,
          (Option.some.inj h).symm⟩)
      · contradiction
    · contradiction
  | signal other operation signal =>
    simp only [event?] at h
    split at h
    · rename_i hinner
      obtain ⟨rfl, hinner⟩ := hinner
      exact Or.inr (Or.inr ⟨operation, signal, rfl, hinner, (Option.some.inj h).symm⟩)
    · contradiction
  | collect => simp [event?] at h

theorem step?_eq_some {incident : Incident} {step : Access.Step}
    (h : traffic.step? device incident = some step) :
    traffic.event? device incident = some step.event ∧ step.before = traffic.access device ∧
      step.IsLawful ∧ (traffic.step incident).access device = step.after := by
  have hafter : (traffic.step incident).access device = step.after := by
    simp [step_access, h]
  simp only [step?, Option.bind_eq_some_iff, Option.map_eq_some_iff] at h
  obtain ⟨event, hevent, ⟨after, effect⟩, hstep, rfl⟩ := h
  exact ⟨hevent, rfl, hstep, hafter⟩

theorem step?_eq_of_event {incident : Incident} {step : Access.Step}
    (hevent : traffic.event? device incident = some step.event)
    (hbefore : step.before = traffic.access device) (hlawful : step.IsLawful) :
    traffic.step? device incident = some step := by
  obtain ⟨before, event, effect, after⟩ := step
  simp only at hbefore hevent
  subst hbefore
  simp only [Access.Step.IsLawful] at hlawful
  simp [step?, hevent, hlawful]

theorem step_access_of_none {incident : Incident} (h : traffic.step? device incident = none) :
    (traffic.step incident).access device = traffic.access device := by
  simp [step_access, h]

/-- A client that has its answer, or has gone, does not go away any more. -/
theorem step?_leave_of_ended {index : Nat} (hended : ∀ dressing device endpoint operation,
    traffic.exchanges[index]? ≠ some ⟨dressing, .operating device endpoint operation⟩)
    (device : DeviceId) : traffic.step? device (.leave index) = none := by
  have hevent : traffic.event? device (.leave index) = none := by
    simp only [event?]
    split
    · rename_i other endpoint operation hstage
      obtain ⟨⟨dressing, stage⟩, hexchange, rfl⟩ := Option.map_eq_some_iff.1 hstage
      exact absurd hexchange (hended dressing other endpoint operation)
    · rfl
  simp [step?, hevent]

theorem modify_abandon_of_ended {index : Nat} (hended : ∀ dressing device endpoint operation,
    traffic.exchanges[index]? ≠ some ⟨dressing, .operating device endpoint operation⟩) :
    traffic.exchanges.modify index Exchange.abandon = traffic.exchanges := by
  cases hexchange : traffic.exchanges[index]? with
  | none => exact List.modify_eq_self (List.getElem?_eq_none_iff.1 hexchange)
  | some exchange =>
    refine modify_eq_self_of_getElem? hexchange ?_
    unfold Exchange.abandon
    split
    · rename_i device endpoint operation hstage
      obtain ⟨dressing, stage⟩ := exchange
      simp only at hstage
      subst hstage
      exact absurd hexchange (hended dressing device endpoint operation)
    · rfl

/-- What happens at one device is an execution. -/
theorem execution (traffic : Traffic) (device : DeviceId) (incidents : List Incident) :
    Access.Execution (traffic.access device) (traffic.steps device incidents)
      ((traffic.run incidents).access device) := by
  induction incidents using List.reverseRecOn with
  | nil => exact .refl
  | append_singleton incidents incident ih =>
    rw [steps_append, run_append]
    cases hstep : (traffic.run incidents).step? device incident with
    | none => simpa [hstep, step_access_of_none hstep] using ih
    | some step =>
      obtain ⟨-, hbefore, hlawful, hafter⟩ := step?_eq_some hstep
      have hsteps := (hbefore ▸ ih).snoc hlawful
      simpa [hstep, hafter] using hsteps

/-! ## What becomes of a request -/

theorem step_exchange {index : Nat} {exchange : Exchange}
    (h : traffic.exchanges[index]? = some exchange) (incident : Incident) :
    ∃ later, (traffic.step incident).exchanges[index]? = some later ∧
      exchange.MayBecome later := by
  have hmodify : ∀ (place : Nat) (change : Exchange → Exchange),
      (∀ exchange : Exchange, exchange.MayBecome (change exchange)) →
      ∃ later, (traffic.exchanges.modify place change)[index]? = some later ∧
        exchange.MayBecome later := by
    intro place change hchange
    rw [List.getElem?_modify, h]
    split
    · exact ⟨_, rfl, hchange exchange⟩
    · exact ⟨_, rfl, .refl exchange⟩
  cases incident with
  | arrive now nonce request =>
    have hlt := (List.getElem?_eq_some_iff.1 h).1
    exact ⟨exchange, (List.getElem?_append_left hlt).trans h, .refl exchange⟩
  | leave place => exact hmodify place _ Exchange.mayBecome_abandon
  | signal => exact ⟨exchange, h, .refl exchange⟩
  | collect place =>
    exact hmodify place (·.collect traffic.told) fun exchange => exchange.mayBecome_collect _

theorem run_exchange {index : Nat} {exchange : Exchange}
    (h : traffic.exchanges[index]? = some exchange) (incidents : List Incident) :
    ∃ later, (traffic.run incidents).exchanges[index]? = some later ∧
      exchange.MayBecome later := by
  induction incidents generalizing traffic exchange with
  | nil => exact ⟨exchange, h, .refl exchange⟩
  | cons incident incidents ih =>
    obtain ⟨later, hlater, hfirst⟩ := step_exchange h incident
    obtain ⟨last, hlast, hsecond⟩ := ih hlater
    exact ⟨last, hlast, hfirst.trans hsecond⟩

/-- The exchange of a request stands behind those of the requests before it. -/
theorem step_arrive_exchange (traffic : Traffic) (now : Instant) (nonce : List UInt8)
    (request : Request) :
    (traffic.step (.arrive now nonce request)).exchanges[traffic.exchanges.length]?
      = some (traffic.opening now nonce request) := by
  simp [Traffic.step]

/-- A request that is answered at once keeps its answer. -/
theorem run_of_respond {now : Instant} {nonce : List UInt8} {request : Request}
    {response : Response} (h : traffic.handling now nonce request = .respond response)
    (incidents : List Incident) :
    (traffic.run (.arrive now nonce request :: incidents)).exchanges[traffic.exchanges.length]?
      = some ⟨Dressing.of traffic.config request,
          .answered ((Dressing.of traffic.config request).apply response)⟩ := by
  have hopening : traffic.opening now nonce request
      = ⟨Dressing.of traffic.config request,
          .answered ((Dressing.of traffic.config request).apply response)⟩ := by
    simp [opening, h]
  obtain ⟨last, hlast, hbecomes⟩ :=
    run_exchange (traffic.step_arrive_exchange now nonce request) incidents
  rw [hopening] at hbecomes
  rw [run_cons, hlast, hbecomes.eq_of_answered rfl]

/-! ## A busy device -/

/-- The request for a backup of the USB device. -/
def backupRequest : Request :=
  { method := .post, target := { path := "/api/v1/backup" } }

/-- The request for the features of the USB device. -/
def featuresRequest : Request :=
  { method := .get, target := { path := "/api/v1/features" } }

/-- The USB device starts to make a backup. -/
def backupIncidents : List Incident :=
  [.arrive ⟨0⟩ [] backupRequest, .signal .usb 0 .start, .signal .usb 0 .send]

/-- The USB device makes a backup, in a service that checks no headers and uses no tokens. -/
def backingUp : Traffic :=
  ({ config := { checksHeaders := false } } : Traffic).run backupIncidents

end Traffic

end WalletGateway.Api
