import WalletGateway.Proofs.Api.Admission
import WalletGateway.Proofs.Api.Traffic

/-!
# Refused requests

A request that is answered with one of the statuses of a refusal was answered when it came, and
nothing else came of it: the traffic goes on as it would have without the request.

`Traffic.without` and `Incident.without` take a request out of the traffic and out of what happens
there.  `Traffic.step_without` is the step: a request that has its answer makes no difference to
what an incident does.
-/

namespace WalletGateway.Api

open Http (Request Response)

/-- The traffic without one of its requests. -/
def Traffic.without (traffic : Traffic) (index : Nat) : Traffic :=
  { traffic with exchanges := traffic.exchanges.eraseIdx index }

/-- An incident in the traffic without one of its requests: the requests behind it move up. -/
def Incident.without (index : Nat) : Incident → Option Incident
  | .leave exchange =>
    if exchange = index then none
    else some (.leave (if exchange < index then exchange else exchange - 1))
  | .collect exchange =>
    if exchange = index then none
    else some (.collect (if exchange < index then exchange else exchange - 1))
  | incident => some incident

/-! ## Lists -/

theorem eraseIdx_modify {α : Type} (list : List α) {index place : Nat} (change : α → α)
    (hplace : place ≠ index) :
    (list.modify place change).eraseIdx index
      = (list.eraseIdx index).modify (if place < index then place else place - 1) change := by
  apply List.ext_getElem?
  intro other
  simp only [List.getElem?_eraseIdx, List.getElem?_modify]
  by_cases hother : other < index
  · have hmoved : (if place < index then place else place - 1) = other ↔ place = other := by
      split <;> omega
    simp [hother, hmoved]
  · have hmoved : (if place < index then place else place - 1) = other ↔ place = other + 1 := by
      split <;> omega
    simp [hother, hmoved]

theorem getElem?_eraseIdx_moved {α : Type} (list : List α) {index place : Nat}
    (hplace : place ≠ index) :
    (list.eraseIdx index)[if place < index then place else place - 1]? = list[place]? := by
  rw [List.getElem?_eraseIdx]
  by_cases hlt : place < index
  · simp [hlt]
  · have hback : place - 1 + 1 = place := by omega
    simp [hlt, show ¬ place - 1 < index by omega, hback]

/-! ## Taking a request out -/

namespace Traffic

variable {traffic : Traffic} {index : Nat} {exchange : Exchange} {response : Response}

theorem not_operating_of_answered (h : traffic.exchanges[index]? = some exchange)
    (hanswered : exchange.stage = .answered response) (dressing : Dressing) (device : DeviceId)
    (endpoint : Endpoint) (operation : Nat) :
    traffic.exchanges[index]? ≠ some ⟨dressing, .operating device endpoint operation⟩ := by
  intro hoperating
  obtain rfl := Option.some.inj (h.symm.trans hoperating)
  contradiction

/-- Of what happens to a request that has its answer, the devices see nothing. -/
theorem step?_of_without_eq_none (h : traffic.exchanges[index]? = some exchange)
    (hanswered : exchange.stage = .answered response) {incident : Incident}
    (hgone : incident.without index = none) (device : DeviceId) :
    traffic.step? device incident = none := by
  cases incident with
  | leave place =>
    obtain rfl : place = index := by simpa [Incident.without] using hgone
    exact step?_leave_of_ended (not_operating_of_answered h hanswered) device
  | collect => rfl
  | arrive | signal => simp [Incident.without] at hgone

/-- What else happens is the same for the devices. -/
theorem step?_without {incident moved : Incident} (hmoved : incident.without index = some moved)
    (device : DeviceId) :
    (traffic.without index).step? device moved = traffic.step? device incident := by
  have hevent : (traffic.without index).event? device moved = traffic.event? device incident := by
    cases incident with
    | leave place =>
      simp only [Incident.without] at hmoved
      split at hmoved
      · contradiction
      · rename_i hplace
        obtain rfl := Option.some.inj hmoved
        simp only [event?, without, getElem?_eraseIdx_moved _ hplace]
    | collect place =>
      simp only [Incident.without] at hmoved
      split at hmoved
      · contradiction
      · obtain rfl := Option.some.inj hmoved
        rfl
    | arrive | signal =>
      obtain rfl := Option.some.inj hmoved
      rfl
  have haccess : (traffic.without index).access device = traffic.access device := rfl
  simp only [step?, hevent, haccess]

theorem step_exchanges_of_without_eq_none (h : traffic.exchanges[index]? = some exchange)
    (hanswered : exchange.stage = .answered response) {incident : Incident}
    (hgone : incident.without index = none) :
    (traffic.step incident).exchanges = traffic.exchanges := by
  cases incident with
  | leave place =>
    obtain rfl : place = index := by simpa [Incident.without] using hgone
    exact modify_abandon_of_ended (not_operating_of_answered h hanswered)
  | collect place =>
    obtain rfl : place = index := by simpa [Incident.without] using hgone
    exact modify_eq_self_of_getElem? h (by simp [Exchange.collect, hanswered])
  | arrive | signal => simp [Incident.without] at hgone

theorem step_exchanges_without (hlt : index < traffic.exchanges.length)
    {incident moved : Incident} (hmoved : incident.without index = some moved) :
    ((traffic.without index).step moved).exchanges
      = (traffic.step incident).exchanges.eraseIdx index := by
  cases incident with
  | arrive now nonce request =>
    obtain rfl := Option.some.inj hmoved
    exact (List.eraseIdx_append_of_lt_length hlt _).symm
  | leave place =>
    simp only [Incident.without] at hmoved
    split at hmoved
    · contradiction
    · rename_i hplace
      obtain rfl := Option.some.inj hmoved
      exact (eraseIdx_modify traffic.exchanges _ hplace).symm
  | signal =>
    obtain rfl := Option.some.inj hmoved
    rfl
  | collect place =>
    simp only [Incident.without] at hmoved
    split at hmoved
    · contradiction
    · rename_i hplace
      obtain rfl := Option.some.inj hmoved
      exact (eraseIdx_modify traffic.exchanges _ hplace).symm

/-- A request that has its answer makes no difference to what an incident does. -/
theorem step_without (h : traffic.exchanges[index]? = some exchange)
    (hanswered : exchange.stage = .answered response) (incident : Incident) :
    (traffic.step incident).without index
        = (traffic.without index).run (incident.without index).toList ∧
      ∀ device, (traffic.without index).steps device (incident.without index).toList
        = (traffic.step? device incident).toList := by
  cases hmoved : incident.without index with
  | none =>
    have hnone := step?_of_without_eq_none h hanswered hmoved
    have hexchanges := step_exchanges_of_without_eq_none h hanswered hmoved
    constructor
    · apply Traffic.ext
      · rfl
      · rfl
      · funext device
        exact step_access_of_none (hnone device)
      · funext device
        show (traffic.step incident).told device = traffic.told device
        simp [step_told, hnone device]
      · exact congrArg (·.eraseIdx index) hexchanges
    · simp [hnone]
  | some moved =>
    have hlt := (List.getElem?_eq_some_iff.1 h).1
    have hstep : ∀ device,
        (traffic.without index).step? device moved = traffic.step? device incident :=
      step?_without hmoved
    have hexchanges := step_exchanges_without hlt hmoved
    constructor
    · apply Traffic.ext
      · rfl
      · rfl
      · funext device
        show (traffic.step incident).access device
          = ((traffic.without index).step moved).access device
        rw [step_access, step_access, hstep device]
        rfl
      · funext device
        show (traffic.step incident).told device = ((traffic.without index).step moved).told device
        rw [step_told, step_told, hstep device]
        rfl
      · exact hexchanges.symm
    · intro device
      simp [hstep device]

/-- A request that has its answer makes no difference to what happens later. -/
theorem run_without (h : traffic.exchanges[index]? = some exchange)
    (hanswered : exchange.stage = .answered response) (incidents : List Incident) :
    (traffic.run incidents).without index
        = (traffic.without index).run (incidents.filterMap (Incident.without index)) ∧
      ∀ device, traffic.steps device incidents
        = (traffic.without index).steps device (incidents.filterMap (Incident.without index)) := by
  induction incidents generalizing traffic with
  | nil => exact ⟨rfl, fun _ => rfl⟩
  | cons incident incidents ih =>
    obtain ⟨later, hlater, hbecomes⟩ := step_exchange h incident
    obtain rfl := hbecomes.eq_of_answered hanswered
    obtain ⟨hrun, hsteps⟩ := ih hlater
    obtain ⟨hstep, hfirst⟩ := step_without h hanswered incident
    have hall : (incident :: incidents).filterMap (Incident.without index)
        = (incident.without index).toList ++ incidents.filterMap (Incident.without index) := by
      cases hmoved : incident.without index <;> simp [hmoved]
    rw [hall]
    constructor
    · rw [run_cons, hrun, hstep, run_append]
    · intro device
      rw [steps_cons, hsteps device, steps_append, hfirst device, hstep]

end Traffic

/-! ## Refused requests -/

/-- A request that is answered at once has no other effect, then or later. -/
theorem Traffic.run_without_responded {traffic : Traffic} {now : Instant} {nonce : List UInt8}
    {request : Request} {given : Response}
    (h : traffic.handling now nonce request = .respond given) (incidents : List Incident) :
    traffic.step (.arrive now nonce request)
        = { traffic with exchanges := traffic.exchanges ++ [traffic.opening now nonce request] } ∧
      (∀ device, traffic.steps device (.arrive now nonce request :: incidents)
        = traffic.steps device
            (incidents.filterMap (Incident.without traffic.exchanges.length))) ∧
      (traffic.run (.arrive now nonce request :: incidents)).without traffic.exchanges.length
        = traffic.run (incidents.filterMap (Incident.without traffic.exchanges.length)) := by
  have hquiet : ∀ device, traffic.step? device (.arrive now nonce request) = none := by
    intro device
    simp [step?, event?, h]
  have hstep : traffic.step (.arrive now nonce request)
      = { traffic with
          exchanges := traffic.exchanges ++ [traffic.opening now nonce request] } := by
    apply Traffic.ext
    · rfl
    · rfl
    · funext device
      exact step_access_of_none (hquiet device)
    · funext device
      simp [step_told, hquiet device]
    · rfl
  have hwithout : (traffic.step (.arrive now nonce request)).without traffic.exchanges.length
      = traffic := by
    simp [hstep, without, List.eraseIdx_append_of_length_le]
  have hanswered : (traffic.opening now nonce request).stage
      = .answered ((traffic.opening now nonce request).dressing.apply given) := by
    simp [opening, h]
  obtain ⟨hrun, hsteps⟩ :=
    run_without (traffic.step_arrive_exchange now nonce request) hanswered incidents
  rw [hwithout] at hrun hsteps
  refine ⟨hstep, fun device => ?_, hrun⟩
  rw [steps_cons, hquiet device, Option.toList_none, List.nil_append, hsteps device]

/-- A request with the answer of a refusal got it when it came. -/
theorem Traffic.handling_of_refusal {traffic : Traffic} {now : Instant} {nonce : List UInt8}
    {request : Request} {dressing : Dressing} {response : Response}
    (hbecomes : (traffic.opening now nonce request).MayBecome ⟨dressing, .answered response⟩)
    (hrefusal : response.status.code ∈ refusals) :
    traffic.opening now nonce request = ⟨dressing, .answered response⟩ ∧
      ∃ given, traffic.handling now nonce request = .respond given := by
  cases hhandling : traffic.handling now nonce request with
  | respond given =>
    have hanswered : (traffic.opening now nonce request).stage
        = .answered ((traffic.opening now nonce request).dressing.apply given) := by
      simp [opening, hhandling]
    exact ⟨(hbecomes.eq_of_answered hanswered).symm, given, rfl⟩
  | operate device endpoint asked =>
    have hoperating : (traffic.opening now nonce request).stage
        = .operating device endpoint (traffic.access device).operations.length := by
      simp [opening, hhandling]
    obtain ⟨-, hsame | ⟨other, answering, operation, hstage, habandoned | ⟨result, hanswered⟩⟩⟩ :=
      hbecomes
    · simp [hoperating] at hsame
    · simp at habandoned
    · -- The answer would come from an outcome, and no outcome has such a status.
      obtain rfl : response = _ := ExchangeStage.answered.inj hanswered
      exact absurd hrefusal (code_notMem_refusals (answering.response_status_mem_outcomes result))

/-- A request whose answer is a refusal has that answer from the moment it comes, and has no other
effect then: all operations, slots and outcomes stay as they are.  What happens later happens as it
would without the request: at each device the same steps are taken, with the same calls and
disconnections, and everything else comes out the same. -/
theorem run_without_refused_request (traffic : Traffic) (now : Instant) (nonce : List UInt8)
    (request : Request) (incidents : List Incident) {dressing : Dressing} {response : Response}
    (hanswer :
      (traffic.run (.arrive now nonce request :: incidents)).exchanges[traffic.exchanges.length]?
        = some ⟨dressing, .answered response⟩)
    (hrefusal : response.status.code ∈ [400, 403, 404, 405, 415, 422]) :
    traffic.step (.arrive now nonce request)
        = { traffic with exchanges := traffic.exchanges ++ [⟨dressing, .answered response⟩] } ∧
      (∀ device, traffic.steps device (.arrive now nonce request :: incidents)
        = traffic.steps device
            (incidents.filterMap (Incident.without traffic.exchanges.length))) ∧
      (traffic.run (.arrive now nonce request :: incidents)).without traffic.exchanges.length
        = traffic.run (incidents.filterMap (Incident.without traffic.exchanges.length)) := by
  obtain ⟨last, hlast, hbecomes⟩ :=
    Traffic.run_exchange (traffic.step_arrive_exchange now nonce request) incidents
  rw [Traffic.run_cons, hlast] at hanswer
  obtain rfl := Option.some.inj hanswer
  obtain ⟨hopening, given, hhandling⟩ := Traffic.handling_of_refusal hbecomes hrefusal
  rw [← hopening]
  exact Traffic.run_without_responded hhandling incidents

/-- While a backup is under way, a request without a body is refused, and the backup is answered
and ends as it would have. -/
theorem refused_request_leaves_backup :
    let traffic := Traffic.backingUp
    let request : Request := { method := .post, target := { path := "/api/v1/signMessage" } }
    let incidents : List Incident :=
      [.signal .usb 0 (.answer (.ok ⟨2, []⟩)), .signal .usb 0 .settle, .collect 0, .collect 1]
    ∃ dressing response,
      (traffic.run (.arrive ⟨0⟩ [] request :: incidents)).exchanges[traffic.exchanges.length]?
          = some ⟨dressing, .answered response⟩ ∧
        response.status.code ∈ [400, 403, 404, 405, 415, 422] ∧
        traffic.step (.arrive ⟨0⟩ [] request)
          = { traffic with exchanges := traffic.exchanges ++ [⟨dressing, .answered response⟩] } ∧
        (∀ device, traffic.steps device (.arrive ⟨0⟩ [] request :: incidents)
          = traffic.steps device
              (incidents.filterMap (Incident.without traffic.exchanges.length))) ∧
        (traffic.run (.arrive ⟨0⟩ [] request :: incidents)).without traffic.exchanges.length
          = traffic.run (incidents.filterMap (Incident.without traffic.exchanges.length)) := by
  intro traffic request incidents
  have hhandling : traffic.handling ⟨0⟩ [] request
      = .respond (ApiError.of .unsupportedMediaType "").response := by
    decide +kernel
  have hanswer := Traffic.run_of_respond hhandling incidents
  have hrefusal : (ApiError.of .unsupportedMediaType "").response.status.code
      ∈ [400, 403, 404, 405, 415, 422] := by
    decide
  exact ⟨_, _, hanswer, hrefusal,
    run_without_refused_request traffic ⟨0⟩ [] request incidents hanswer hrefusal⟩

end WalletGateway.Api
