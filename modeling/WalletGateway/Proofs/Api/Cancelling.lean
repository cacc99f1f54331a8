import WalletGateway.Proofs.Access.Bypass
import WalletGateway.Proofs.Api.Bodies
import WalletGateway.Proofs.Api.Envelope
import WalletGateway.Proofs.Api.Exemption
import WalletGateway.Proofs.Api.Settled

/-!
# Requests to cancel

A request to cancel goes to its device at once, whoever holds the slot.  It leaves the slot and all
guards as they are, and is answered with what the device says to it; a refusal is no failure here.

* `Service.run_isOrderly`: every service that has settled is ready for the next request.
* `Starts.exists_bypasses` takes the course of an operation that bypasses the slot over to the
  traffic of a service, and `Starts.attended` says that its client is there while the request is
  open.
* `Starts.answered_of_answers` is the way to the answer: once the device has replied, the operation
  only has to end, and the request to take note of that.
-/

namespace WalletGateway.Api

open Access (Bypasses Execution callsOf repliesTo)
open Conversation (Answers asksButton)
open Http (Request Response)

/-! ## Services that have settled -/

/-- The operations of all devices have settled. -/
def Service.IsOrderly (service : Service) : Prop :=
  ∀ device, (service.access device).IsOrderly

namespace Service

variable {service : Service}

theorem IsOrderly.setAccess (h : service.IsOrderly) (device : DeviceId) {access : Access.Rehearsal}
    (haccess : access.IsOrderly) : (service.setAccess device access).IsOrderly := by
  intro other
  rw [access_setAccess]
  split
  · exact haccess
  · exact h other

theorem IsOrderly.collect (h : service.IsOrderly) : service.collect.IsOrderly := by
  intro device
  rw [access_collect]
  exact h device

/-- After each event everything has settled. -/
theorem IsOrderly.step (h : service.IsOrderly) (event : ServiceEvent) :
    (service.step event).1.IsOrderly := by
  cases event with
  | request now nonce request =>
    apply IsOrderly.collect
    intro other
    unfold takeUp
    split
    · rw [access_withExchange]
      exact h other
    · rename_i device endpoint asked _
      rw [access_withExchange]
      exact h.setAccess device ((h device).start _ _) other
  | leave index =>
    apply IsOrderly.collect
    split
    · rename_i device _ operation _
      have hleft := h.setAccess device ((h device).notify operation .abandon)
      intro other
      cases other
      · exact hleft .usb
      · exact hleft .emulator
    · exact h
  | reply device position reply =>
    exact (h.setAccess device ((h device).reply position reply)).collect
  | extend device script => exact h.setAccess device ((h device).extend script)
  | setFailing device failing => exact h.setAccess device ((h device).setFailing failing)

theorem IsOrderly.run (h : service.IsOrderly) (events : List ServiceEvent) :
    (service.run events).IsOrderly := by
  induction events generalizing service with
  | nil => exact h
  | cons event events ih => exact ih (h.step event)

/-- A service that has just been set up. -/
theorem fresh_isOrderly (config : Config) (secret : Option Hmac.Key) :
    ({ config, secret } : Service).IsOrderly := by
  intro device
  cases device <;> exact .empty

theorem fresh_isQuiet (config : Config) (secret : Option Hmac.Key) :
    ({ config, secret } : Service).IsQuiet := by
  intro device
  cases device <;> rfl

/-- A service keeps its configuration and its key. -/
theorem run_config_secret (config : Config) (secret : Option Hmac.Key)
    (events : List ServiceEvent) :
    (({ config, secret } : Service).run events).config = config ∧
      (({ config, secret } : Service).run events).secret = secret := by
  obtain ⟨incidents, hfollows, -⟩ := follows_run (fresh_isQuiet config secret) events
  exact ⟨(congrArg Traffic.config hfollows.traffic).trans (Traffic.run_config _ incidents),
    (congrArg Traffic.secret hfollows.traffic).trans (Traffic.run_secret _ incidents)⟩

end Service

/-! ## Requests that are over -/

/-- Nothing more becomes of a request that is not under way. -/
theorem Exchange.MayBecome.eq_of_not_operating {first last : Exchange} (h : first.MayBecome last)
    (hover : ∀ device endpoint operation, first.stage ≠ .operating device endpoint operation) :
    last = first := by
  obtain ⟨hdressing, hsame | ⟨device, endpoint, operation, hoperating, -⟩⟩ := h
  · cases last
    cases first
    simp only at hdressing hsame
    rw [hdressing, hsame]
  · exact absurd hoperating (hover device endpoint operation)

theorem Exchange.abandon_not_operating (exchange : Exchange) (device : DeviceId)
    (endpoint : Endpoint) (operation : Nat) :
    exchange.abandon.stage ≠ .operating device endpoint operation := by
  unfold abandon
  split
  · simp
  · rename_i hover
    exact hover device endpoint operation

namespace Traffic

variable {traffic : Traffic} {device : DeviceId}

theorem run_told (traffic : Traffic) (device : DeviceId) (incidents : List Incident) :
    (traffic.run incidents).told device
      = Access.told (traffic.steps device incidents) ++ traffic.told device := by
  induction incidents generalizing traffic with
  | nil => rfl
  | cons incident incidents ih =>
    rw [run_cons, ih, step_told, steps_cons, Access.told_append, List.append_assoc]

/-- When its client has gone, a request is not under way any more. -/
theorem not_operating_of_leave {place : Nat} {exchange : Exchange}
    (h : traffic.exchanges[place]? = some exchange) {incidents : List Incident}
    (hleave : .leave place ∈ incidents) (dressing : Dressing) (endpoint : Endpoint)
    (operation : Nat) :
    (traffic.run incidents).exchanges[place]?
      ≠ some ⟨dressing, .operating device endpoint operation⟩ := by
  obtain ⟨first, second, rfl⟩ := List.append_of_mem hleave
  obtain ⟨there, hthere, -⟩ := run_exchange h first
  have hgone : ((traffic.run first).step (.leave place)).exchanges[place]?
      = some there.abandon := by
    show ((traffic.run first).exchanges.modify place Exchange.abandon)[place]? = _
    simp [hthere]
  obtain ⟨last, hlast, hbecomes⟩ := run_exchange hgone second
  rw [run_append, run_cons, hlast]
  intro hoperating
  rw [hbecomes.eq_of_not_operating there.abandon_not_operating] at hoperating
  have hstage := congrArg Exchange.stage (Option.some.inj hoperating)
  exact there.abandon_not_operating _ _ _ hstage

/-! ## The course of a cancellation -/

section Course

variable {config : Config} {secret : Option Hmac.Key} {before : List Incident} {now : Instant}
  {nonce : List UInt8} {request : Request} {index : Nat}

/-- The exchange of a request that has started an operation. -/
theorem Starts.exchange {endpoint : Endpoint}
    (h : traffic.Starts now nonce request device endpoint index) :
    (traffic.step (.arrive now nonce request)).exchanges[traffic.exchanges.length]?
      = some ⟨Dressing.of traffic.config request, .operating device endpoint index⟩ := by
  obtain ⟨asked, hasked⟩ := h.handling
  rw [step_arrive_exchange, opening]
  simp only [hasked, h.index]

theorem handling_cancel {asked : DeviceRequest}
    (h : traffic.handling now nonce request = .operate device .cancel asked) :
    asked = .cancel := by
  have hasked : (Except.ok .cancel : Except ApiError DeviceRequest) = .ok asked :=
    (handle_eq_operate_iff.1 h).asks
  exact (Except.ok.inj hasked).symm

/-- A request to cancel begins an operation that bypasses the slot. -/
theorem Starts.begun
    (h : (({ config, secret } : Traffic).run before).Starts now nonce request device .cancel index)
    (after : List Incident) :
    ∃ begin ∈ ({ config, secret } : Traffic).steps device
        (before ++ .arrive now nonce request :: after),
      begin.Begins index (.supervised false) DeviceRequest.cancel.message := by
  obtain ⟨asked, opening, hasked, hopening, hbegins⟩ := h.begins
  rw [handling_cancel hasked] at hbegins
  refine ⟨opening, ?_, hbegins⟩
  rw [steps_append, steps_cons, hopening]
  simp

theorem Starts.exists_bypasses
    (h : (({ config, secret } : Traffic).run before).Starts now nonce request device .cancel index)
    (after : List Incident) :
    let fresh : Traffic := { config, secret }
    let incidents := before ++ .arrive now nonce request :: after
    ∃ operation, ((fresh.run incidents).access device).operations[index]? = some operation ∧
      Bypasses index (fresh.steps device incidents) operation := by
  intro fresh incidents
  have hexecution : Execution {} (fresh.steps device incidents)
      ((fresh.run incidents).access device) := fresh.execution device incidents
  obtain ⟨operation, hoperation, hpurpose, -⟩ := hexecution.operation_of_begins (h.begun after)
  exact ⟨operation, hoperation, hexecution.bypasses hoperation hpurpose⟩

/-- While a request is open its client waits for the operation. -/
theorem Starts.attended {after : List Incident} {operation : Access.Operation}
    (h : (({ config, secret } : Traffic).run before).Starts now nonce request device .cancel index)
    (hcourse : Bypasses index
      (({ config, secret } : Traffic).steps device (before ++ .arrive now nonce request :: after))
      operation)
    {dressing : Dressing}
    (hoperating : (({ config, secret } : Traffic).run
        (before ++ .arrive now nonce request :: after)).exchanges[
          (({ config, secret } : Traffic).run before).exchanges.length]?
      = some ⟨dressing, .operating device .cancel index⟩) :
    operation.attended = true := by
  by_contra hgone
  obtain ⟨step, hstep, habandon⟩ := hcourse.attends.left (Bool.not_eq_true _ ▸ hgone)
  have hleave := h.leave_of_abandon hstep habandon
  rw [run_append, run_cons] at hoperating
  exact not_operating_of_leave h.exchange hleave dressing .cancel index hoperating

/-- An operation whose drive is over has ended once it has taken note of that. -/
theorem not_driving_of_settle {operation : Access.Operation}
    (h : ((traffic.step (.signal device index .settle)).access device).operations[index]?
      = some operation)
    {result : Except DeviceError Resolution} (hdrive : operation.drive = .resolved result) :
    operation.stage ≠ .driving := by
  intro hstage
  cases hstep : traffic.step? device (.signal device index .settle) with
  | none =>
    rw [step_access_of_none hstep] at h
    have hreact : operation.react (traffic.access device).slot .settle
        = some (operation.finish (traffic.access device).slot (.result result)) := by
      simp [Access.Operation.react, hstage, hdrive]
    simp [step?, event?, Access.Signal.isInner, Access.State.step, h, hreact] at hstep
  | some step =>
    obtain ⟨hevent, -, hlawful, hafter⟩ := step?_eq_some hstep
    have hsignal : step.event = .signal index .settle := by
      simpa [event?, Access.Signal.isInner, eq_comm] using hevent
    rw [hafter] at h
    rcases hlawful.operation_cases h with
      ⟨_, _, hbegin, -⟩ | ⟨-, hother⟩ | ⟨signal, old, reaction, hown, -, hreacts, -, -, rfl⟩
    · rw [hsignal] at hbegin
      contradiction
    · exact hother _ hsignal
    · obtain ⟨-, rfl⟩ := Access.Event.signal.inj (hsignal.symm.trans hown)
      cases hreacts with
      | settle => simp at hstage

/-- The answer to a request to cancel comes from a reply of the device. -/
theorem Starts.reply_of_answered
    (h : (({ config, secret } : Traffic).run before).Starts now nonce request device .cancel index)
    (after : List Incident) :
    let fresh : Traffic := { config, secret }
    let incidents := before ++ .arrive now nonce request :: after
    ∀ dressing response,
      (fresh.run incidents).exchanges[(fresh.run before).exchanges.length]?
        = some ⟨dressing, .answered response⟩ →
      ∃ reply ∈ repliesTo index (fresh.steps device incidents), ∃ result, Answers reply result ∧
        response = (Dressing.of config request).apply (Endpoint.cancel.response result) := by
  intro fresh incidents dressing response hanswered
  obtain ⟨operation, -, hcourse⟩ := h.exists_bypasses after
  have hrun : fresh.run incidents
      = ((fresh.run before).step (.arrive now nonce request)).run after := by
    rw [run_append, run_cons]
  have hlast := hanswered
  rw [hrun] at hlast
  obtain ⟨result, htold, hresponse⟩ := run_answered h.exchange hlast rfl
  rw [run_config] at hresponse
  rw [← hrun, run_told, List.append_nil] at htold
  obtain ⟨ended, hended, hdrive⟩ := hcourse.attends.told _ htold
  obtain rfl := Access.Outcome.result.inj hended
  obtain ⟨reply, hreply, hanswers⟩ := (hcourse.speaks.resolved result).1 hdrive
  exact ⟨reply, hreply, result, hanswers, hresponse⟩

/-- Once the device has replied, the client of an open request is told so when the operation
ends. -/
theorem Starts.lookup_of_answers
    (h : (({ config, secret } : Traffic).run before).Starts now nonce request device .cancel index)
    (after : List Incident) {dressing : Dressing} :
    let fresh : Traffic := { config, secret }
    let incidents := before ++ .arrive now nonce request :: after
    (fresh.run incidents).exchanges[(fresh.run before).exchanges.length]?
      = some ⟨dressing, .operating device .cancel index⟩ →
    ∀ reply ∈ repliesTo index (fresh.steps device incidents), ∀ result, Answers reply result →
      ((fresh.run (incidents ++ [.signal device index .settle])).told device).lookup index
        = some (.result result) := by
  intro fresh incidents hopen reply hreply result hanswers
  have hincidents : incidents ++ [.signal device index .settle]
      = before ++ .arrive now nonce request :: (after ++ [.signal device index .settle]) := by
    simp [incidents]
  obtain ⟨operation, hoperation, hcourse⟩ :=
    h.exists_bypasses (after ++ [.signal device index .settle])
  have hstillOpen : (fresh.run
      (before ++ .arrive now nonce request :: (after ++ [.signal device index .settle]))).exchanges[
        (fresh.run before).exchanges.length]?
      = some ⟨dressing, .operating device .cancel index⟩ := by
    rw [← hincidents, run_append]
    exact hopen
  have hattended := h.attended hcourse hstillOpen
  rw [← hincidents] at hoperation hcourse
  have hdrive : operation.drive = .resolved result := by
    refine (hcourse.speaks.resolved result).2 ⟨reply, ?_, hanswers⟩
    rw [steps_append, Access.repliesTo_append]
    exact List.mem_append_left _ hreply
  have hover : operation.stage = .ended := by
    cases hstage : operation.stage with
    | waiting => exact absurd (Or.inl hstage) hcourse.aside.inside
    | preempting => exact absurd (Or.inr hstage) hcourse.aside.inside
    | driving =>
      rw [run_append] at hoperation
      exact absurd hstage (not_driving_of_settle hoperation hdrive)
    | disconnecting =>
      -- It would have been given up, and nobody waited for it.
      have hgone := hcourse.attends.given (hcourse.attends.closing hstage)
      rw [hattended] at hgone
      contradiction
    | ended => rfl
  rw [run_told, List.append_nil]
  exact hcourse.lookup_told hover hattended hdrive

/-- Once the device has replied, the request is answered when its operation has ended, unless its
client has gone. -/
theorem Starts.answered_of_answers
    (h : (({ config, secret } : Traffic).run before).Starts now nonce request device .cancel index)
    (after : List Incident) :
    let fresh : Traffic := { config, secret }
    let incidents := before ++ .arrive now nonce request :: after
    let place := (fresh.run before).exchanges.length
    let dressing := Dressing.of config request
    ∀ reply ∈ repliesTo index (fresh.steps device incidents), ∀ result, Answers reply result →
      (fresh.run incidents).exchanges[place]? = some ⟨dressing, .abandoned⟩ ∨
        (fresh.run (incidents ++ [.signal device index .settle, .collect place])).exchanges[place]?
          = some ⟨dressing, .answered (dressing.apply (Endpoint.cancel.response result))⟩ := by
  intro fresh incidents place dressing reply hreply result hanswers
  have hexchange : ((fresh.run before).step (.arrive now nonce request)).exchanges[place]?
      = some ⟨dressing, .operating device .cancel index⟩ := by
    have hopening := h.exchange
    rw [run_config] at hopening
    exact hopening
  have hrun : ((fresh.run before).step (.arrive now nonce request)).run after
      = fresh.run incidents := by
    rw [run_append, run_cons]
  obtain ⟨⟨worn, stage⟩, hlast, rfl, hstage⟩ := run_exchange hexchange after
  rw [hrun] at hlast
  rcases hstage with rfl | ⟨_, _, _, -, rfl | ⟨_, rfl⟩⟩
  · right
    have htold := h.lookup_of_answers after hlast reply hreply result hanswers
    let settled := fresh.run (incidents ++ [.signal device index .settle])
    have hsettled : settled.exchanges[place]?
        = some ⟨dressing, .operating device .cancel index⟩ := by
      show (fresh.run (incidents ++ [.signal device index .settle])).exchanges[place]? = _
      rw [run_append]
      exact hlast
    have hsplit : incidents ++ [.signal device index .settle, .collect place]
        = (incidents ++ [.signal device index .settle]) ++ [.collect place] := by simp
    rw [hsplit, run_append]
    show (settled.exchanges.modify place (·.collect settled.told))[place]? = _
    have hlookup : (settled.told device).lookup index = some (.result result) := htold
    simp [hsettled, Exchange.collect, hlookup, Access.Outcome.result?]
  · exact Or.inl hlast
  · right
    obtain ⟨other, hother, ended, hends, hresponse⟩ := h.reply_of_answered after _ _ hlast
    obtain ⟨operation, -, hcourse⟩ := h.exists_bypasses after
    have hdrive := (hcourse.speaks.resolved result).2 ⟨reply, hreply, hanswers⟩
    rw [(hcourse.speaks.resolved ended).2 ⟨other, hother, hends⟩] at hdrive
    obtain rfl := Access.Drive.resolved.inj hdrive
    obtain ⟨final, hfinal, hkept⟩ :=
      run_exchange hlast [.signal device index .settle, .collect place]
    rw [run_append, hfinal, hkept.eq_of_answered rfl, hresponse]

end Course

end Traffic

/-! ## Cancellations -/

/-- The device refuses, with a text. -/
def IsRefusal (reply : Conversation.Reply) (text : String) : Prop :=
  ∃ message payload, reply = .ok message ∧ message.kind? = some .failure ∧
    message.decode Payload.Failure = .ok payload ∧ text = payload.message.getD ""

theorem isRefusal_iff_answers {reply : Conversation.Reply} {text : String} :
    IsRefusal reply text ↔ Answers reply (.ok (.refused text)) := by
  constructor
  · rintro ⟨message, payload, rfl, hkind, hdecode, rfl⟩
    let resolution (payload : Payload.Failure) : Resolution :=
      .refused (payload.message.getD "")
    show Answers (.ok message) (.ok (resolution payload))
    exact .payload .failure hkind hdecode
  · generalize hresult : (Except.ok (.refused text) : Except DeviceError Resolution) = result
    intro hanswers
    cases hanswers with
    | @payload message _ _ _ payload htells hkind hdecode =>
      cases htells with
      | failure =>
        have hsame := Resolution.refused.inj (Except.ok.inj hresult)
        exact ⟨message, payload, rfl, hkind, hdecode, hsame⟩
      | success | addresses | signature | signatures | features => simp at hresult
    | error | interaction | undecodable | unexpected | unknown => simp at hresult

/-- A refusal gives its text as data; every other reply means the same as elsewhere. -/
theorem cancel_response_of_answers {reply : Conversation.Reply}
    {result : Except DeviceError Resolution} (h : Answers reply result) :
    (∀ text, IsRefusal reply text →
        Endpoint.cancel.response result = dataResponse (.text text) ∧
          (Endpoint.cancel.response result).status = .ok) ∧
      ((∀ text, ¬ IsRefusal reply text) →
        ∀ endpoint : Endpoint, Endpoint.cancel.response result = endpoint.response result) := by
  constructor
  · intro text hrefusal
    obtain rfl := h.unique (isRefusal_iff_answers.1 hrefusal)
    exact ⟨rfl, rfl⟩
  · intro hnone endpoint
    have hresult : ∀ text, result ≠ .ok (.refused text) := by
      rintro text rfl
      exact hnone text (isRefusal_iff_answers.2 h)
    unfold Endpoint.response
    split
    · exact absurd rfl (hresult _)
    · split
      · exact absurd rfl (hresult _)
      · rfl

/-- A request to cancel calls its device at once, whoever holds the slot and whatever is under way,
and acknowledges each button request that follows.  No step of its operation changes the slot or any
guard, whatever becomes of it.  The request is answered with what the device replies, once the
operation has ended and unless its client goes away: a refusal gives its text as data, and every
other reply what it gives elsewhere. -/
theorem cancellation_bypasses_slot {config : Config} {secret : Option Hmac.Key} {now : Instant}
    {request : Request} {device : DeviceId}
    (hgate : Gate.check config secret now request = .ok ())
    (hpath : request.target.path = device.root ++ Endpoint.cancel.path)
    (hmethod : request.method = .put) (nonce : List UInt8) :
    let cancel := DeviceRequest.cancel.message
    let dressing := Dressing.of config request
    (∀ events : List ServiceEvent,
      let service := ({ config, secret } : Service).run events
      ∃ later, ((service.step (.request now nonce request)).1.access device).device.sent
        = later ++ cancel :: (service.access device).device.sent) ∧
    (∀ before after : List Incident,
      let fresh : Traffic := { config, secret }
      let traffic := fresh.run before
      let index := (traffic.access device).operations.length
      let place := traffic.exchanges.length
      let incidents := before ++ .arrive now nonce request :: after
      let steps := fresh.steps device incidents
      (∃ begin ∈ steps, begin.Begins index (.supervised false) cancel) ∧
      (∀ worn response,
        (fresh.run incidents).exchanges[place]? = some ⟨worn, .answered response⟩ →
        ∃ reply ∈ repliesTo index steps, ∃ result, Answers reply result ∧
          response = dressing.apply (Endpoint.cancel.response result)) ∧
      (∀ reply ∈ repliesTo index steps, ∀ result, Answers reply result →
        (fresh.run incidents).exchanges[place]? = some ⟨dressing, .abandoned⟩ ∨
        (fresh.run (incidents ++ [.signal device index .settle, .collect place])).exchanges[place]?
          = some ⟨dressing, .answered (dressing.apply (Endpoint.cancel.response result))⟩)) ∧
    (∀ steps last index, Execution {} steps last →
      (∃ begin ∈ steps, begin.Begins index (.supervised false) cancel) →
      ((∃ operation, last.operations[index]? = some operation ∧
          callsOf index steps ++ operation.drive.unsent
            = cancel :: List.replicate ((repliesTo index steps).countP asksButton)
                DeviceRequest.acknowledgeButton.message) ∧
        (callsOf index steps = [] →
          ∃ after, last.step (.signal index .send) = some (after, some (.call cancel)))) ∧
      ∀ step ∈ steps, step.IsOf index → step.LeavesSlot ∧
        ∀ other, step.after.HasValidGuard other ↔ step.before.HasValidGuard other) ∧
    ∀ reply result, Answers reply result →
      (∀ text, IsRefusal reply text →
        Endpoint.cancel.response result = dataResponse (.text text) ∧
          (Endpoint.cancel.response result).status = .ok) ∧
      ((∀ text, ¬ IsRefusal reply text) →
        ∀ endpoint : Endpoint, Endpoint.cancel.response result = endpoint.response result) := by
  intro cancel dressing
  have hhandle : handle ⟨config, secret, now, nonce⟩ request
      = .operate device .cancel .cancel :=
    handle_of_gate hgate hpath hmethod
  refine ⟨fun events => ?_, fun before after => ?_, ?_, fun reply result hanswers => ?_⟩
  · intro service
    have horderly : service.IsOrderly := (Service.fresh_isOrderly config secret).run events
    obtain ⟨hconfig, hsecret⟩ := Service.run_config_secret config secret events
    have hasked : handle ⟨service.config, service.secret, now, nonce⟩ request
        = .operate device .cancel .cancel := by
      rw [hconfig, hsecret]
      exact hhandle
    rw [Service.step_of_operate hasked]
    exact (horderly device).start_sent cancel
  · intro fresh traffic index place incidents steps
    have hasked : traffic.handling now nonce request = .operate device .cancel .cancel := by
      rw [Traffic.handling_run]
      exact hhandle
    have hstarts : traffic.Starts now nonce request device .cancel index := ⟨⟨_, hasked⟩, rfl⟩
    exact ⟨hstarts.begun after, hstarts.reply_of_answered after,
      hstarts.answered_of_answers after⟩
  · intro steps last index hexecution hbegun
    refine ⟨hexecution.calls_of_begins hbegun, fun step hstep hof => ?_⟩
    have hleaves := hexecution.leavesSlot hbegun hstep hof
    exact ⟨hleaves, hleaves.hasValidGuard_iff⟩
  · exact cancel_response_of_answers hanswers

/-- The request to cancel what the USB device does. -/
def cancelRequest : Request :=
  { method := .put, target := { path := "/api/v1/cancel" } }

/-- The device says that it has given up. -/
def refusal : Message :=
  .of ({ message := some "Action cancelled" } : Payload.Failure)

/-- While a backup is under way, and holds the slot, it is cancelled. -/
theorem backup_is_cancelled :
    let config : Config := { checksHeaders := false }
    let fresh : Traffic := { config }
    let incidents := Traffic.backupIncidents
      ++ [.arrive ⟨0⟩ [] cancelRequest, .signal .usb 1 .send,
        .signal .usb 1 (.answer (.ok refusal)), .signal .usb 1 .settle, .collect 1]
    let steps := fresh.steps .usb incidents
    Gate.check config none ⟨0⟩ cancelRequest = .ok () ∧
      cancelRequest.target.path = DeviceId.usb.root ++ Endpoint.cancel.path ∧
      cancelRequest.method = .put ∧
      ((fresh.run incidents).access .usb).slot.holder = some 0 ∧
      (∃ reply ∈ repliesTo 1 steps, ∃ result, Answers reply result ∧
        (Dressing.of config cancelRequest).apply (dataResponse (.text "Action cancelled"))
          = (Dressing.of config cancelRequest).apply (Endpoint.cancel.response result)) ∧
      ∀ step ∈ steps, step.IsOf 1 → step.LeavesSlot ∧
        ∀ other, step.after.HasValidGuard other ↔ step.before.HasValidGuard other := by
  intro config fresh incidents steps
  have hgate : Gate.check config none ⟨0⟩ cancelRequest = .ok () := by decide
  have hpath : cancelRequest.target.path = DeviceId.usb.root ++ Endpoint.cancel.path := rfl
  let dressing := Dressing.of config cancelRequest
  have hanswered : (fresh.run incidents).exchanges[1]?
      = some ⟨dressing, .answered (dressing.apply (dataResponse (.text "Action cancelled")))⟩ := by
    decide +kernel
  have hheld : ((fresh.run incidents).access .usb).slot.holder = some 0 := by decide +kernel
  obtain ⟨-, hrequests, hoperations, -⟩ := cancellation_bypasses_slot hgate hpath rfl []
  obtain ⟨hbegun, hreplies, -⟩ := hrequests Traffic.backupIncidents
    [.signal .usb 1 .send, .signal .usb 1 (.answer (.ok refusal)), .signal .usb 1 .settle,
      .collect 1]
  have hexecution : Execution {} steps ((fresh.run incidents).access .usb) :=
    fresh.execution .usb incidents
  exact ⟨hgate, hpath, rfl, hheld, hreplies _ _ hanswered,
    (hoperations steps _ 1 hexecution hbegun).2⟩

end WalletGateway.Api
