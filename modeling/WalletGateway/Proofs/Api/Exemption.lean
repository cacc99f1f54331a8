import WalletGateway.Proofs.Access.Conduct
import WalletGateway.Proofs.Api.Refusal
import WalletGateway.Proofs.Api.TokenGate

/-!
# Requests without a token

A request that only reads needs no CSRF token.  It is answered at once, or reads the features of a
device; but for that it takes the slot of the device like every other operation, and is given up
like every other when its client goes away.  So it is harmless only while nobody else holds the
slot, and as long as its client stays: `exempt_request_disturbs_iff`.
-/

namespace WalletGateway.Api

open Access (deeds)
open Http (Request Response)

namespace Traffic

variable {traffic : Traffic} {device : DeviceId}

/-! ## Steps and what they come from -/

/-- Every step at a device comes from an incident. -/
theorem exists_incident {incidents : List Incident} {step : Access.Step}
    (h : step ∈ traffic.steps device incidents) :
    ∃ before incident after, incidents = before ++ incident :: after ∧
      (traffic.run before).step? device incident = some step := by
  induction incidents generalizing traffic with
  | nil => contradiction
  | cons incident incidents ih =>
    rw [steps_cons, List.mem_append, Option.mem_toList] at h
    rcases h with hfirst | hlater
    · exact ⟨[], incident, incidents, rfl, hfirst⟩
    · obtain ⟨before, other, after, rfl, hother⟩ := ih hlater
      exact ⟨incident :: before, other, after, rfl, hother⟩

/-- A request that starts an operation begins it at its device. -/
theorem Starts.begins {now : Instant} {nonce : List UInt8} {request : Request}
    {endpoint : Endpoint} {index : Nat}
    (h : traffic.Starts now nonce request device endpoint index) :
    ∃ asked step, traffic.handling now nonce request = .operate device endpoint asked ∧
      traffic.step? device (.arrive now nonce request) = some step ∧
      step.Begins index (.supervised endpoint.isSerialized) asked.message := by
  obtain ⟨⟨asked, hasked⟩, hindex⟩ := h
  let purpose : Access.Purpose := .supervised endpoint.isSerialized
  let step : Access.Step :=
    { before := traffic.access device
      event := .begin purpose asked.message
      effect := none
      after := { traffic.access device with
        operations := (traffic.access device).operations ++ [.new purpose asked.message] } }
  have hevent : traffic.event? device (.arrive now nonce request) = some step.event := by
    simp [event?, hasked, step, purpose]
  exact ⟨asked, step, hasked, step?_eq_of_event hevent rfl rfl, rfl, hindex⟩

/-! ## Clients that go away -/

/-- A request whose operation is under way was there before, or has started the operation. -/
theorem step_operating {incident : Incident} {place : Nat} {dressing : Dressing}
    {endpoint : Endpoint} {operation : Nat}
    (h : (traffic.step incident).exchanges[place]?
      = some ⟨dressing, .operating device endpoint operation⟩) :
    traffic.exchanges[place]? = some ⟨dressing, .operating device endpoint operation⟩ ∨
      place = traffic.exchanges.length ∧ ∃ now nonce request,
        incident = .arrive now nonce request ∧
        traffic.Starts now nonce request device endpoint operation := by
  cases hold : traffic.exchanges[place]? with
  | some exchange =>
    obtain ⟨later, hlater, hdressing, hstage⟩ := step_exchange hold incident
    obtain rfl := Option.some.inj (hlater.symm.trans h)
    rcases hstage with hsame | ⟨_, _, _, -, habandoned | ⟨_, hanswered⟩⟩
    · exact Or.inl (congrArg some (congr (congrArg Exchange.mk hdressing) hsame).symm)
    · contradiction
    · contradiction
  | none =>
    have hend : traffic.exchanges.length ≤ place := List.getElem?_eq_none_iff.1 hold
    cases incident with
    | arrive now nonce request =>
      have happend : (traffic.exchanges ++ [traffic.opening now nonce request])[place]?
          = some ⟨dressing, .operating device endpoint operation⟩ := h
      rw [List.getElem?_append_right hend, List.getElem?_singleton] at happend
      split at happend
      · rename_i hplace
        have hopening := Option.some.inj happend
        unfold opening at hopening
        cases hhandling : traffic.handling now nonce request with
        | respond response => simp [hhandling] at hopening
        | operate other target asked =>
          simp only [hhandling, Exchange.mk.injEq, ExchangeStage.operating.injEq] at hopening
          obtain ⟨-, rfl, rfl, hoperation⟩ := hopening
          exact Or.inr ⟨by omega, now, nonce, request, rfl, ⟨asked, hhandling⟩, hoperation⟩
      · contradiction
    | leave exchange =>
      have hmodify : (traffic.exchanges.modify exchange Exchange.abandon)[place]? = _ := h
      simp [List.getElem?_modify, hold] at hmodify
    | signal => exact absurd (hold.symm.trans h) (by simp)
    | collect exchange =>
      have hmodify : (traffic.exchanges.modify exchange (·.collect traffic.told))[place]? = _ := h
      simp [List.getElem?_modify, hold] at hmodify

theorem length_le_run (traffic : Traffic) (device : DeviceId) (incidents : List Incident) :
    (traffic.access device).operations.length
      ≤ ((traffic.run incidents).access device).operations.length :=
  (traffic.execution device incidents).length_le

/-- There is one more operation after a request has started one. -/
theorem Starts.length_step {now : Instant} {nonce : List UInt8} {request : Request}
    {endpoint : Endpoint} {index : Nat}
    (h : traffic.Starts now nonce request device endpoint index) :
    ((traffic.step (.arrive now nonce request)).access device).operations.length = index + 1 := by
  obtain ⟨asked, step, -, hstep, hevent, hlength⟩ := h.begins
  obtain ⟨-, -, hlawful, hafter⟩ := step?_eq_some hstep
  rw [hafter]
  rcases hlawful.cases with ⟨_, _, -, -, hoperations⟩ | ⟨_, _, _, _, hsignal, -⟩
  · simp [hoperations, hlength]
  · rw [hevent] at hsignal
    contradiction

/-- The operations that are under way for requests are operations of the device. -/
theorem operating_lt {config : Config} {secret : Option Hmac.Key} {incidents : List Incident}
    {place : Nat} {dressing : Dressing} {endpoint : Endpoint} {operation : Nat}
    (h : (({ config, secret } : Traffic).run incidents).exchanges[place]?
      = some ⟨dressing, .operating device endpoint operation⟩) :
    operation
      < ((({ config, secret } : Traffic).run incidents).access device).operations.length := by
  induction incidents using List.reverseRecOn with
  | nil => simp at h
  | append_singleton incidents incident ih =>
    rw [run_append, run_cons, run_nil] at h ⊢
    rcases step_operating h with hold | ⟨-, now, nonce, request, rfl, hstarts⟩
    · exact Nat.lt_of_lt_of_le (ih hold) (length_le_run _ device [incident])
    · rw [hstarts.length_step]
      omega

/-- A request whose operation is under way was there from the start, or its operation is new. -/
theorem run_operating {incidents : List Incident} {place : Nat} {dressing : Dressing}
    {endpoint : Endpoint} {operation : Nat}
    (h : (traffic.run incidents).exchanges[place]?
      = some ⟨dressing, .operating device endpoint operation⟩) :
    traffic.exchanges[place]? = some ⟨dressing, .operating device endpoint operation⟩ ∨
      (traffic.access device).operations.length ≤ operation := by
  induction incidents using List.reverseRecOn with
  | nil => exact Or.inl h
  | append_singleton incidents incident ih =>
    rw [run_append, run_cons, run_nil] at h
    rcases step_operating h with hold | ⟨-, now, nonce, request, -, hstarts⟩
    · exact ih hold
    · exact Or.inr (hstarts.index ▸ traffic.length_le_run device incidents)

/-- The signals of a device's operations come from inside, but for those of clients that go away. -/
theorem of_signal {incidents : List Incident} {step : Access.Step}
    (h : step ∈ traffic.steps device incidents) {index : Nat} {signal : Access.Signal}
    (hevent : step.event = .signal index signal) (houter : signal.isInner = false) :
    signal = .abandon ∧ ∃ before place after dressing endpoint,
      incidents = before ++ .leave place :: after ∧ (traffic.run before).exchanges[place]?
        = some ⟨dressing, .operating device endpoint index⟩ := by
  obtain ⟨before, incident, after, rfl, hstep⟩ := exists_incident h
  have hincident := (step?_eq_some hstep).1
  rw [hevent] at hincident
  rcases event?_cases hincident with
    ⟨_, _, _, _, _, -, -, hbegin⟩ |
    ⟨place, dressing, endpoint, operation, rfl, hexchange, habandon⟩ |
    ⟨operation, sent, -, hinner, hsent⟩
  · contradiction
  · obtain ⟨rfl, rfl⟩ := Access.Event.signal.inj habandon
    exact ⟨rfl, before, place, after, dressing, endpoint, rfl, hexchange⟩
  · obtain ⟨rfl, rfl⟩ := Access.Event.signal.inj hsent
    rw [hinner] at houter
    contradiction

/-- Only the client of the request gives its operation up. -/
theorem Starts.leave_of_abandon {config : Config} {secret : Option Hmac.Key}
    {before after : List Incident} {now : Instant} {nonce : List UInt8} {request : Request}
    {endpoint : Endpoint} {index : Nat}
    (h : (({ config, secret } : Traffic).run before).Starts now nonce request device endpoint index)
    {step : Access.Step}
    (hstep : step ∈ ({ config, secret } : Traffic).steps device
      (before ++ .arrive now nonce request :: after))
    (hevent : step.event = .signal index .abandon) :
    .leave (({ config, secret } : Traffic).run before).exchanges.length ∈ after := by
  obtain ⟨asked, opening, -, hopening, hbegins, -⟩ := h.begins
  rw [steps_append, steps_cons, hopening] at hstep
  rcases List.mem_append.1 hstep with hearly | hlate
  · have hlt := (({ config, secret } : Traffic).execution device before).lt_of_signal hearly hevent
    have := h.index
    omega
  · rcases List.mem_append.1 hlate with hsame | hlater
    · obtain rfl : step = opening := by simpa using hsame
      rw [hbegins] at hevent
      contradiction
    · obtain ⟨-, first, place, second, dressing, target, rfl, hexchange⟩ :=
        of_signal hlater hevent rfl
      have hplace : place = (({ config, secret } : Traffic).run before).exchanges.length := by
        rcases run_operating hexchange with hthere | hnew
        · rcases step_operating hthere with hold | ⟨hplace, -⟩
          · have hlt := operating_lt hold
            have := h.index
            omega
          · exact hplace
        · have := h.length_step
          omega
      simp [hplace]

/-- An operation for a request to read goes about the features. -/
theorem handling_of_reads {now : Instant} {nonce : List UInt8} {request : Request}
    (hreads : request.method = .get ∨ request.method = .head) :
    (∃ response, traffic.handling now nonce request = .respond response) ∨
      ∃ device, traffic.handling now nonce request
        = .operate device .features .reportFeatures := by
  cases hhandling : traffic.handling now nonce request with
  | respond response => exact Or.inl ⟨response, rfl⟩
  | operate device endpoint asked =>
    have hadmits := handle_eq_operate_iff.1 hhandling
    obtain rfl := hadmits.toReaches.eq_features hreads
    obtain rfl : DeviceRequest.reportFeatures = asked := Except.ok.inj hadmits.asks
    exact Or.inr ⟨device, rfl⟩

end Traffic

/-! ## Requests that read -/

/-- The messages that belong to reading the features. -/
def featuresCalls : List Message :=
  [DeviceRequest.reportFeatures.message, DeviceRequest.acknowledgeButton.message]

/-- A request to read is answered at once, and then nothing else comes of it; or it starts an
operation that reads the features.  That calls the device for the features, acknowledges button
requests, and sends nothing else but Cancel requests.  It disturbs the others exactly when it finds
the slot held, or notices that it has been given up, for which its client must go away. -/
theorem exempt_request_disturbs_iff (config : Config) (secret : Option Hmac.Key)
    (before after : List Incident) (now : Instant) (nonce : List UInt8) (request : Request)
    (hreads : request.method = .get ∨ request.method = .head) :
    let fresh : Traffic := { config, secret }
    let traffic := fresh.run before
    let incidents := before ++ .arrive now nonce request :: after
    (∀ device, fresh.steps device incidents = fresh.steps device
          (before ++ after.filterMap (Incident.without traffic.exchanges.length))) ∧
        (fresh.run incidents).without traffic.exchanges.length
          = fresh.run (before ++ after.filterMap (Incident.without traffic.exchanges.length)) ∨
      ∃ device index, traffic.Starts now nonce request device .features index ∧
        (∀ message, (index, .call message) ∈ deeds (fresh.steps device incidents) →
          message ∈ featuresCalls ∨ message = DeviceRequest.cancel.message) ∧
        ((∃ step ∈ fresh.steps device incidents, step.Disturbs index featuresCalls) ↔
          (∃ step ∈ fresh.steps device incidents,
            step.event = .signal index .start ∧ step.before.slot.holder ≠ none) ∨
          ∃ step ∈ fresh.steps device incidents, step.event = .signal index .notice) ∧
        ((∃ step ∈ fresh.steps device incidents, step.event = .signal index .notice) →
          .leave traffic.exchanges.length ∈ after) := by
  intro fresh traffic incidents
  rcases traffic.handling_of_reads hreads with ⟨response, hresponse⟩ | ⟨device, hoperate⟩
  · obtain ⟨-, hsteps, hrun⟩ := Traffic.run_without_responded hresponse after
    refine Or.inl ⟨fun device => ?_, ?_⟩
    · rw [Traffic.steps_append, Traffic.steps_append]
      exact congrArg (fresh.steps device before ++ ·) (hsteps device)
    · rw [Traffic.run_append, Traffic.run_append]
      exact hrun
  · let index := (traffic.access device).operations.length
    have hstarts : traffic.Starts now nonce request device .features index :=
      ⟨⟨_, hoperate⟩, rfl⟩
    obtain ⟨asked, opening, hasked, hopening, hbegins⟩ := hstarts.begins
    obtain rfl : asked = .reportFeatures := by
      rw [hoperate] at hasked
      exact (Handling.operate.inj hasked).2.2.symm
    have hexecution := fresh.execution device incidents
    have hbegun : ∃ begin ∈ fresh.steps device incidents, begin.Begins index
        (.supervised true) DeviceRequest.reportFeatures.message := by
      refine ⟨opening, ?_, hbegins⟩
      rw [Traffic.steps_append, Traffic.steps_cons, hopening]
      simp
    refine Or.inr ⟨device, index, hstarts, ?_, hexecution.disturbs_iff hbegun (by decide), ?_⟩
    · intro message hcall
      obtain ⟨step, hstep, hdeed⟩ := List.mem_filterMap.1 hcall
      rcases hexecution.of_call hbegun hstep hdeed with ⟨-, -, hcancel⟩ | hown
      · exact Or.inr hcancel
      · exact Or.inl hown
    · rintro ⟨step, hstep, hnotice⟩
      obtain ⟨earlier, hearlier, habandon | hfire⟩ :=
        hexecution.given_up_of_notice hstep hnotice
      · exact hstarts.leave_of_abandon hearlier habandon
      · -- Operations for requests have no token that fires.
        have := (Traffic.of_signal hearlier hfire rfl).1
        contradiction

/-- While a backup is under way the slot is held, and the features are asked for. -/
theorem features_request_disturbs_backup :
    let fresh : Traffic := { config := { checksHeaders := false } }
    let incidents := Traffic.backupIncidents
      ++ [.arrive ⟨0⟩ [] Traffic.featuresRequest, .signal .usb 1 .start]
    (Traffic.featuresRequest.method = .get ∨ Traffic.featuresRequest.method = .head) ∧
      ((∀ device, fresh.steps device incidents = fresh.steps device
            (Traffic.backupIncidents ++ [.signal .usb 1 .start])) ∧
          (fresh.run incidents).without Traffic.backingUp.exchanges.length
            = fresh.run (Traffic.backupIncidents ++ [.signal .usb 1 .start]) ∨
        ∃ device index,
          Traffic.backingUp.Starts ⟨0⟩ [] Traffic.featuresRequest device .features index ∧
          (∀ message, (index, .call message) ∈ deeds (fresh.steps device incidents) →
            message ∈ featuresCalls ∨ message = DeviceRequest.cancel.message) ∧
          ((∃ step ∈ fresh.steps device incidents, step.Disturbs index featuresCalls) ↔
            (∃ step ∈ fresh.steps device incidents,
              step.event = .signal index .start ∧ step.before.slot.holder ≠ none) ∨
            ∃ step ∈ fresh.steps device incidents, step.event = .signal index .notice) ∧
          ((∃ step ∈ fresh.steps device incidents, step.event = .signal index .notice) →
            Incident.leave Traffic.backingUp.exchanges.length ∈ [.signal .usb 1 .start])) :=
  ⟨Or.inl rfl, exempt_request_disturbs_iff { checksHeaders := false } none Traffic.backupIncidents
    [.signal .usb 1 .start] ⟨0⟩ [] Traffic.featuresRequest (Or.inl rfl)⟩

/-- Then a Cancel request is sent for it, which is for the backup. -/
theorem features_request_cancels_backup :
    ¬ ∀ (config : Config) (secret : Option Hmac.Key) (before after : List Incident)
      (now : Instant) (nonce : List UInt8) (request : Request) (device : DeviceId)
      (endpoint : Endpoint) (index : Nat),
      (request.method = .get ∨ request.method = .head) →
      (({ config, secret } : Traffic).run before).Starts now nonce request device endpoint index →
      ∀ step ∈ ({ config, secret } : Traffic).steps device
        (before ++ .arrive now nonce request :: after), ¬ step.Disturbs index featuresCalls := by
  intro hclaim
  let fresh : Traffic := { config := { checksHeaders := false } }
  let incidents := Traffic.backupIncidents
    ++ [.arrive ⟨0⟩ [] Traffic.featuresRequest, .signal .usb 1 .start]
  have hstarts : Traffic.backingUp.Starts ⟨0⟩ [] Traffic.featuresRequest .usb .features 1 :=
    ⟨⟨.reportFeatures, by decide +kernel⟩, rfl⟩
  have hdeeds : deeds (fresh.steps .usb incidents)
      = [(0, .call DeviceRequest.backup.message), (1, .call DeviceRequest.cancel.message)] := rfl
  have hcancel : (1, .call DeviceRequest.cancel.message) ∈ deeds (fresh.steps .usb incidents) := by
    simp [hdeeds]
  obtain ⟨step, hstep, hdeed⟩ := List.mem_filterMap.1 hcancel
  exact hclaim _ none Traffic.backupIncidents [.signal .usb 1 .start] ⟨0⟩ []
    Traffic.featuresRequest .usb .features 1 (Or.inl rfl) hstarts step hstep
    (Or.inl ⟨_, hdeed, by decide⟩)

end WalletGateway.Api
