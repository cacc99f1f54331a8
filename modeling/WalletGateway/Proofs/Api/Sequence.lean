import WalletGateway.Api.Service
import WalletGateway.Proofs.Access.Solitude
import WalletGateway.Proofs.Api.Admission

/-!
# Requests one after the other

A service whose clients come one at a time, and wait for their answers, is a simple machine.  An
admitted request takes from its device one reply for its message and one for each button request
that comes first; what the next reply says is its answer.  All other requests leave the devices
alone.

* `Reference` is this machine, and `Reference.answer` the table of answers.
* `Agrees.step` says that a service and the machine go on in step, and `run_agrees_reference` is the
  comparison of a whole run.
-/

namespace WalletGateway.Api

open Conversation (Reply buttons decisive Ends converse)
open Http (Request Response)

/-- What a service does for clients that come one at a time. -/
structure Reference where
  /-- The replies that a device has left. -/
  script : DeviceId → List Reply
  /-- The messages that a device was sent, in order. -/
  log : DeviceId → List Message := fun _ => []
  /-- The responses, in the order of the requests. -/
  responses : List Response := []

/-- A request, with the time at which it comes and a nonce for a token. -/
structure Asking where
  now : Instant
  nonce : List UInt8
  request : Request

/-- The event that a request comes. -/
def Asking.event (asking : Asking) : ServiceEvent :=
  .request asking.now asking.nonce asking.request

namespace Reference

/-! ## The table of answers -/

/-- The answer where a device gave none, or none that can be used. -/
def failure (error : DeviceError) : Response :=
  match error with
  | .clientClosed => ApiError.response ⟨.clientClosed, "Client Closed Request"⟩
  | .undecodable .success _ => ApiError.response (.of .unauthorized error.message)
  | _ => ApiError.response (.of .serverError error.message)

/-- The answer that a payload gives, if it can be read. -/
def reading (α : Type) [Payload α] (message : Message) (respond : α → Response) : Response :=
  match message.decode α with
  | .ok payload => respond payload
  | .error fault => failure (.undecodable (Payload.kind α) fault)

/-- The answer that names what the device waits for. -/
def waiting (name : String) : Response :=
  dataResponse (.object [("request_type", .text name)])

/-- The answer to a request at an endpoint, by the first reply that asks for no button. -/
def answer (endpoint : Endpoint) (reply : Reply) : Response :=
  match reply with
  | .error error => failure error
  | .ok message =>
    match message.kind? with
    | some .success =>
      reading Payload.Success message fun payload =>
        dataResponse (.text (payload.message.getD ""))
    | some .responseSkycoinAddress =>
      reading Payload.ResponseSkycoinAddress message fun payload =>
        dataResponse (.object [("addresses", textsValue payload.addresses)])
    | some .responseSkycoinSignMessage =>
      reading Payload.ResponseSkycoinSignMessage message fun payload =>
        dataResponse (.object [("signature", .text payload.signedMessage)])
    | some .responseTransactionSign =>
      reading Payload.ResponseTransactionSign message fun payload =>
        dataResponse (.object [("signatures", textsValue payload.signatures)])
    | some .features =>
      reading Payload.Features message fun payload =>
        dataResponse (.object [("features", featuresValue payload)])
    | some .pinMatrixRequest => waiting "PinMatrixRequest"
    | some .passphraseRequest => waiting "PassphraseRequest"
    | some .wordRequest => waiting "WordRequest"
    | some .failure =>
      reading Payload.Failure message fun payload =>
        let text := payload.message.getD ""
        if endpoint = .cancel then dataResponse (.text text)
        else ApiError.response (.of .conflict text)
    | _ => failure (.unexpectedMessage message.kindName)

theorem ofDevice_response (error : DeviceError) :
    (ApiError.ofDevice error).response = failure error := by
  unfold ApiError.ofDevice
  split
  · rfl
  · rfl
  · rename_i hclosed hsuccess
    simp only [failure]

theorem response_error (endpoint : Endpoint) (error : DeviceError) :
    endpoint.response (.error error) = failure error := by
  rw [← ofDevice_response]
  cases endpoint <;> rfl

/-- The answer that a payload gives is the response to the resolution that it is. -/
theorem response_of_resolveWith {α : Type} [Payload α] {endpoint : Endpoint} {message : Message}
    {resolution : α → Resolution} {respond : α → Response}
    {result : Except DeviceError Resolution}
    (hrespond : ∀ payload, endpoint.response (.ok (resolution payload)) = respond payload)
    (h : message.resolveWith α resolution = .resolved result) :
    endpoint.response result = reading α message respond := by
  obtain rfl := Verdict.resolved.inj h
  unfold reading
  cases message.decode α with
  | ok payload => exact hrespond payload
  | error fault => exact response_error endpoint _

/-- The response to an operation is the answer of the reply that ends it. -/
theorem response_of_ends {endpoint : Endpoint} {reply : Reply}
    {result : Except DeviceError Resolution} (h : Ends reply result) :
    endpoint.response result = answer endpoint reply := by
  have hcomplete : ∀ completion, endpoint.response (.ok (.complete completion))
      = dataResponse (completionValue completion) := by
    intro completion
    cases endpoint <;> rfl
  have hwaiting : ∀ interaction : Interaction, endpoint.response (.ok (.interaction interaction))
      = waiting interaction.name := by
    intro interaction
    cases endpoint <;> rfl
  cases reply with
  | error error =>
    obtain rfl : result = .error error := h
    exact response_error endpoint error
  | ok message =>
    have hverdict : message.verdict = .resolved result := h
    simp only [answer]
    unfold Message.verdict at hverdict
    split at hverdict
    case h_1 => contradiction
    case h_2 hkind =>
      obtain rfl := Verdict.resolved.inj hverdict
      rw [hkind]
      exact hwaiting .pinMatrix
    case h_3 hkind =>
      obtain rfl := Verdict.resolved.inj hverdict
      rw [hkind]
      exact hwaiting .passphrase
    case h_4 hkind =>
      obtain rfl := Verdict.resolved.inj hverdict
      rw [hkind]
      exact hwaiting .word
    case h_5 hkind =>
      rw [hkind]
      refine response_of_resolveWith (fun payload => ?_) hverdict
      cases endpoint <;> rfl
    case h_6 hkind | h_7 hkind | h_8 hkind | h_9 hkind | h_10 hkind =>
      rw [hkind]
      refine response_of_resolveWith ?_ hverdict
      exact fun payload => hcomplete _
    case h_11 =>
      obtain rfl := Verdict.resolved.inj hverdict
      rw [response_error]
      split <;> first | contradiction | rfl

/-! ## The machine -/

/-- A request comes, and gets its answer. -/
def step (reference : Reference) (config : Config) (secret : Option Hmac.Key) (asking : Asking) :
    Reference :=
  let dressing := Dressing.of config asking.request
  match handle ⟨config, secret, asking.now, asking.nonce⟩ asking.request with
  | .respond response =>
    { reference with responses := reference.responses ++ [dressing.apply response] }
  | .operate device endpoint asked =>
    let replies := reference.script device
    let count := buttons replies
    { script := fun other =>
        if other = device then replies.drop (count + 1) else reference.script other
      log := fun other =>
        if other = device then
          reference.log device
            ++ asked.message :: List.replicate count DeviceRequest.acknowledgeButton.message
        else reference.log other
      responses :=
        reference.responses ++ [dressing.apply (answer endpoint (decisive replies))] }

/-- The requests come one after the other. -/
def run (reference : Reference) (config : Config) (secret : Option Hmac.Key)
    (askings : List Asking) : Reference :=
  askings.foldl (fun reference asking => reference.step config secret asking) reference

variable {config : Config} {secret : Option Hmac.Key} {reference : Reference} {asking : Asking}

end Reference

/-! ## The service and the machine -/

/-- A service has come as far as the machine, with all requests answered and everything over. -/
structure Agrees (config : Config) (secret : Option Hmac.Key) (service : Service)
    (reference : Reference) : Prop where
  config : service.config = config
  secret : service.secret = secret
  rest : ∀ device, (service.access device).AtRest (reference.script device)
  log : ∀ device, (service.access device).device.sent.reverse = reference.log device
  disconnects : ∀ device, (service.access device).device.disconnects = 0
  responses : service.exchanges.map Exchange.stage = reference.responses.map .answered

theorem Exchange.collect_of_answered {exchange : Exchange} {response : Response}
    (h : exchange.stage = .answered response) (told : DeviceId → List (Nat × Access.Outcome)) :
    exchange.collect told = exchange := by
  simp [collect, h]

theorem Exchange.collect_of_told {exchange : Exchange} {device : DeviceId} {endpoint : Endpoint}
    {operation : Nat} (h : exchange.stage = .operating device endpoint operation)
    {told : DeviceId → List (Nat × Access.Outcome)} {result : Except DeviceError Resolution}
    (htold : (told device).lookup operation = some (.result result)) :
    (exchange.collect told).stage
      = .answered (exchange.dressing.apply (endpoint.response result)) := by
  simp [collect, h, htold, Access.Outcome.result?]

/-- Requests that have their answers take note of nothing. -/
theorem stages_of_collect {exchanges : List Exchange} {responses : List Response}
    (h : exchanges.map Exchange.stage = responses.map .answered)
    (told : DeviceId → List (Nat × Access.Outcome)) :
    (exchanges.map (·.collect told)).map Exchange.stage = responses.map .answered := by
  rw [← h, List.map_map]
  refine List.map_congr_left fun exchange hexchange => ?_
  have hstage : exchange.stage ∈ responses.map ExchangeStage.answered :=
    h ▸ List.mem_map_of_mem hexchange
  obtain ⟨response, -, hanswered⟩ := List.mem_map.1 hstage
  exact congrArg Exchange.stage (Exchange.collect_of_answered hanswered.symm told)

namespace Agrees

variable {config : Config} {secret : Option Hmac.Key} {service : Service} {reference : Reference}

/-- A request is answered, and the service and the machine go on in step. -/
theorem step (h : Agrees config secret service reference) (asking : Asking) :
    Agrees config secret (service.step asking.event).1 (reference.step config secret asking) := by
  obtain ⟨hconfig, hsecret, hrest, hlog, hdisconnects, hresponses⟩ := h
  show Agrees config secret (service.takeUp asking.now asking.nonce asking.request).collect _
  unfold Service.takeUp Reference.step
  rw [hconfig, hsecret]
  cases hhandle : handle ⟨config, secret, asking.now, asking.nonce⟩ asking.request with
  | respond response =>
    refine ⟨hconfig, hsecret, fun device => ?_, fun device => ?_, fun device => ?_, ?_⟩
    · simpa using hrest device
    · simpa using hlog device
    · simpa using hdisconnects device
    · refine stages_of_collect ?_ _
      simp [Service.withExchange, hresponses]
  | operate device endpoint asked =>
    let access := service.access device
    let last := access.start (.supervised endpoint.isSerialized) asked.message
    let outcome := converse asked.message (reference.script device)
    obtain ⟨hlast, hsent, hcalm, hdelivered⟩ :=
      (hrest device).start endpoint.isSerialized asked.message
    obtain ⟨hmessages, hunused, hends⟩ :=
      Conversation.converse_spec asked.message (reference.script device)
    refine ⟨?_, ?_, fun other => ?_, fun other => ?_, fun other => ?_, ?_⟩
    · cases device <;> exact hconfig
    · cases device <;> exact hsecret
    · simp only [Service.access_collect, Service.access_withExchange, Service.access_setAccess]
      split
      · exact hunused ▸ hlast
      · exact hrest other
    · simp only [Service.access_collect, Service.access_withExchange, Service.access_setAccess]
      split
      · rename_i hother
        rw [hsent, hmessages, List.reverse_append, List.reverse_reverse, hlog device]
      · exact hlog other
    · simp only [Service.access_collect, Service.access_withExchange, Service.access_setAccess]
      split
      · rw [hcalm, hdisconnects device]
      · exact hdisconnects other
    · -- The outcome of the new operation is the last that was told, so it is found first.
      let exchange : Exchange := ⟨Dressing.of config asking.request,
        .operating device endpoint access.state.operations.length⟩
      let told : DeviceId → List (Nat × Access.Outcome) := fun other =>
        (((service.setAccess device last).withExchange exchange).access other).delivered
      have htold : (told device).lookup access.state.operations.length
          = some (.result outcome.result) := by
        simp [told, last, access, hdelivered, outcome]
      have hanswered : (exchange.collect told).stage
          = .answered ((Dressing.of config asking.request).apply
              (Reference.answer endpoint (decisive (reference.script device)))) := by
        rw [Exchange.collect_of_told rfl htold, Reference.response_of_ends hends]
      show (((service.setAccess device last).exchanges ++ [exchange]).map
          (·.collect told)).map Exchange.stage = _
      rw [Service.setAccess_exchanges, List.map_append, List.map_append, List.map_append,
        stages_of_collect hresponses]
      simp [hanswered]

theorem run (h : Agrees config secret service reference) (askings : List Asking) :
    Agrees config secret (service.run (askings.map Asking.event))
      (reference.run config secret askings) := by
  induction askings generalizing service reference with
  | nil => exact h
  | cons asking askings ih => exact ih (h.step asking)

end Agrees

/-- A backup is acknowledged once and stops for the PIN; for the next one the device is gone. -/
example :
    let asking : Asking :=
      ⟨⟨0⟩, [], { method := .post, target := { path := "/api/v1/backup" } }⟩
    let reference := Reference.run { script := fun _ => [.ok ⟨26, []⟩, .ok ⟨18, []⟩] }
      { checksHeaders := false } none [asking, asking]
    reference.log .usb = [DeviceRequest.backup.message,
        DeviceRequest.acknowledgeButton.message, DeviceRequest.backup.message] ∧
      reference.script .usb = [] ∧
      reference.responses.map (·.status.code) = [200, 500] := by
  decide +kernel

end WalletGateway.Api
