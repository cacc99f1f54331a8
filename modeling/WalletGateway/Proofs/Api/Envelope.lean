import WalletGateway.Proofs.Api.TokenGate
import WalletGateway.Proofs.Json.RoundTrip

/-!
# The envelope of every answer

Whatever is asked and whatever the devices reply, the body of an answer is an object with the
members `error` and `data`, and one of them says how the request ended (`answers_are_envelopes`).

`SaysAtOnce` lists what a request is answered with when it comes, `Endpoint.saying` gives what is
said of the outcome of an operation, and every response is the one of such a saying.
-/

namespace WalletGateway.Api

open Http (Request Response)

/-- What an answer says: why the request failed, or what came of it. -/
inductive Saying where
  | failure (error : ApiError)
  | result (value : Json.Value)

namespace Saying

/-- The response that says it. -/
def response : Saying → Response
  | failure error => error.response
  | result value => dataResponse value

/-- What stands under `error`. -/
def error : Saying → Json.Value
  | failure error =>
    .object [("code", .number error.status.code), ("message", .text error.message)]
  | result _ => .null

/-- What stands under `data`. -/
def data : Saying → Json.Value
  | failure _ => .null
  | result value => value

/-- The body of a response reads back as what it says. -/
theorem parse_body (said : Saying) :
    Json.Value.parse said.response.body
      = .ok (.object [("error", said.error), ("data", said.data)]) := by
  cases said with
  | failure error => exact Json.parse_print _
  | result value => exact Json.parse_print _

end Saying

/-! ## Answers at once -/

/-- What a request that has passed the gate is answered with when it comes. -/
inductive SaysOnRoute (circumstances : Circumstances) (request : Request) : Saying → Prop where
  /-- There is nothing at its path. -/
  | lost (h : Resource.ofPath? request.target.path = none) :
      SaysOnRoute circumstances request (.failure (.of .notFound ""))
  /-- What is at its path takes another method. -/
  | misused {resource : Resource} (h : Resource.ofPath? request.target.path = some resource)
      (hmethod : resource.takes request.method = false) :
      SaysOnRoute circumstances request (.failure (.of .methodNotAllowed ""))
  /-- It asks for a token, and tokens are not in use. -/
  | untokened (h : Resource.ofPath? request.target.path = some .token)
      (hmethod : Resource.token.takes request.method = true)
      (hsecret : circumstances.secret = none) :
      SaysOnRoute circumstances request (.failure (.of .notFound ""))
  /-- It asks for a token. -/
  | token {secret : Hmac.Key} (h : Resource.ofPath? request.target.path = some .token)
      (hmethod : Resource.token.takes request.method = true)
      (hsecret : circumstances.secret = some secret) :
      SaysOnRoute circumstances request
        (.result (.text (Csrf.issue secret circumstances.nonce circumstances.now)))
  /-- Its endpoint refuses it. -/
  | refused {device : DeviceId} {endpoint : Endpoint} {error : ApiError}
      (h : Resource.ofPath? request.target.path = some (.operation device endpoint))
      (hmethod : (Resource.operation device endpoint).takes request.method = true)
      (hrequest : endpoint.request request = .error error) :
      SaysOnRoute circumstances request (.failure error)

/-- What a request is answered with when it comes. -/
inductive SaysAtOnce (circumstances : Circumstances) (request : Request) : Saying → Prop where
  /-- The gate stops it. -/
  | stopped {error : ApiError}
      (h : Gate.check circumstances.config circumstances.secret circumstances.now request
        = .error error) :
      SaysAtOnce circumstances request (.failure error)
  | routed {said : Saying}
      (hgate : Gate.check circumstances.config circumstances.secret circumstances.now request
        = .ok ())
      (h : SaysOnRoute circumstances request said) :
      SaysAtOnce circumstances request said

theorem SaysAtOnce.value_ne_null {circumstances : Circumstances} {request : Request}
    {value : Json.Value} (h : SaysAtOnce circumstances request (.result value)) :
    value ≠ .null := by
  cases h with
  | routed hgate h =>
    cases h
    simp

theorem saysOnRoute_of_respond {circumstances : Circumstances} {request : Request}
    {given : Response} (h : route circumstances request = .respond given) :
    ∃ said, SaysOnRoute circumstances request said ∧ given = said.response := by
  unfold route at h
  split at h
  · rename_i hpath
    exact ⟨_, .lost hpath, (Handling.respond.inj h).symm⟩
  · rename_i resource hpath
    split at h
    · rename_i htakes
      exact ⟨_, .misused hpath (by simpa using htakes), (Handling.respond.inj h).symm⟩
    · rename_i htakes
      have htakes : resource.takes request.method = true := by simpa using htakes
      split at h
      · rw [← Handling.respond.inj h, tokenResponse]
        split
        · rename_i hsecret
          exact ⟨_, .untokened hpath htakes hsecret, rfl⟩
        · rename_i secret hsecret
          exact ⟨_, .token hpath htakes hsecret, rfl⟩
      · split at h
        · rename_i error hrequest
          exact ⟨.failure error, .refused hpath htakes hrequest, (Handling.respond.inj h).symm⟩
        · contradiction

/-- An answer at once is one of those. -/
theorem saysAtOnce_of_respond {circumstances : Circumstances} {request : Request}
    {given : Response} (hmethod : request.method ≠ .options)
    (h : handle circumstances request = .respond given) :
    ∃ said, SaysAtOnce circumstances request said ∧ given = said.response := by
  rw [handle, if_neg hmethod] at h
  split at h
  · rename_i error hgate
    exact ⟨.failure error, .stopped hgate, (Handling.respond.inj h).symm⟩
  · rename_i hgate
    obtain ⟨said, hsaid, hgiven⟩ := saysOnRoute_of_respond h
    exact ⟨said, .routed hgate hsaid, hgiven⟩

/-! ## Answers of operations -/

namespace Endpoint

/-- What is said of the outcome of an operation.  The refusal that answers a cancellation is what
came of it. -/
def saying (endpoint : Endpoint) : Except DeviceError Resolution → Saying
  | .ok (.complete completion) => .result (completionValue completion)
  | .ok (.interaction interaction) =>
    .result (.object [("request_type", .text interaction.name)])
  | .ok (.refused text) =>
    if endpoint = .cancel then .result (.text text) else .failure (.of .conflict text)
  | .error error => .failure (.ofDevice error)

theorem response_eq (endpoint : Endpoint) (result : Except DeviceError Resolution) :
    endpoint.response result = (endpoint.saying result).response := by
  rcases result with error | (completion | interaction | text)
  · cases endpoint <;> rfl
  · cases endpoint <;> rfl
  · cases endpoint <;> rfl
  · cases endpoint <;> rfl

theorem value_ne_null {endpoint : Endpoint} {result : Except DeviceError Resolution}
    {value : Json.Value} (h : endpoint.saying result = .result value) : value ≠ .null := by
  unfold saying at h
  split at h
  · rename_i completion
    obtain rfl := Saying.result.inj h
    cases completion <;> simp [completionValue, textsValue]
  · obtain rfl := Saying.result.inj h
    simp
  · split at h
    · obtain rfl := Saying.result.inj h
      simp
    · contradiction
  · contradiction

end Endpoint

namespace Traffic

variable {traffic : Traffic} {device : DeviceId}

/-- What an operation has told stays told. -/
theorem told_run {entry : Nat × Access.Outcome} (h : entry ∈ traffic.told device)
    (incidents : List Incident) : entry ∈ (traffic.run incidents).told device := by
  induction incidents generalizing traffic with
  | nil => exact h
  | cons incident incidents ih =>
    exact ih (traffic.step_told incident device ▸ List.mem_append_right _ h)

/-- A request takes note of what its operation has told, and of nothing else. -/
theorem collect_cases {told : DeviceId → List (Nat × Access.Outcome)} (dressing : Dressing)
    (endpoint : Endpoint) (operation : Nat) :
    let exchange : Exchange := ⟨dressing, .operating device endpoint operation⟩
    exchange.collect told = exchange ∨
      ∃ result, (operation, .result result) ∈ told device ∧
        exchange.collect told
          = ⟨dressing, .answered (dressing.apply (endpoint.response result))⟩ := by
  intro exchange
  simp only [exchange, Exchange.collect]
  split
  · exact Or.inl rfl
  · rename_i result hresult
    obtain ⟨outcome, houtcome, htold⟩ := Option.bind_eq_some_iff.1 hresult
    obtain ⟨before, after, hlist, -⟩ := List.lookup_eq_some_iff.1 houtcome
    cases outcome with
    | acquired => contradiction
    | result said =>
      obtain rfl := Option.some.inj htold
      exact Or.inr ⟨said, by simp [hlist], rfl⟩

/-- A request whose operation is under way stays so in one step, or its client goes away, or it is
answered with what the operation has told. -/
theorem step_operating_cases {index : Nat} {dressing : Dressing} {endpoint : Endpoint}
    {operation : Nat}
    (h : traffic.exchanges[index]? = some ⟨dressing, .operating device endpoint operation⟩)
    (incident : Incident) :
    (traffic.step incident).exchanges[index]?
        = some ⟨dressing, .operating device endpoint operation⟩ ∨
      (traffic.step incident).exchanges[index]? = some ⟨dressing, .abandoned⟩ ∨
      ∃ result, (operation, .result result) ∈ (traffic.step incident).told device ∧
        (traffic.step incident).exchanges[index]?
          = some ⟨dressing, .answered (dressing.apply (endpoint.response result))⟩ := by
  cases incident with
  | arrive now nonce request =>
    have hlt := (List.getElem?_eq_some_iff.1 h).1
    exact Or.inl ((List.getElem?_append_left hlt).trans h)
  | leave place =>
    simp only [step, List.getElem?_modify, h]
    split
    · exact Or.inr (Or.inl rfl)
    · exact Or.inl rfl
  | signal => exact Or.inl h
  | collect place =>
    have hexchange : (traffic.step (.collect place)).exchanges[index]?
        = some (if place = index then
            Exchange.collect ⟨dressing, .operating device endpoint operation⟩ traffic.told
          else ⟨dressing, .operating device endpoint operation⟩) := by
      simp only [step, List.getElem?_modify, h]
      split <;> rfl
    rw [hexchange]
    split
    · rcases collect_cases dressing endpoint operation with hsame | ⟨result, htold, hanswered⟩
      · exact Or.inl (congrArg some hsame)
      · exact Or.inr (Or.inr ⟨result, List.mem_append_right _ htold, congrArg some hanswered⟩)
    · exact Or.inl rfl

/-- The answer to a request whose operation is under way comes from what the operation tells. -/
theorem run_answered {index : Nat} {dressing : Dressing} {endpoint : Endpoint} {operation : Nat}
    (h : traffic.exchanges[index]? = some ⟨dressing, .operating device endpoint operation⟩)
    {incidents : List Incident} {last : Exchange} {response : Response}
    (hlast : (traffic.run incidents).exchanges[index]? = some last)
    (hanswered : last.stage = .answered response) :
    ∃ result, (operation, .result result) ∈ (traffic.run incidents).told device ∧
      response = dressing.apply (endpoint.response result) := by
  induction incidents generalizing traffic with
  | nil =>
    obtain rfl := Option.some.inj (h.symm.trans hlast)
    contradiction
  | cons incident incidents ih =>
    rcases step_operating_cases h incident with hsame | hgone | ⟨result, htold, hstage⟩
    · exact ih hsame hlast
    · -- A client that has gone gets no answer.
      obtain ⟨later, hlater, -, hstage⟩ := run_exchange hgone incidents
      obtain rfl := Option.some.inj (hlater.symm.trans hlast)
      rw [hanswered] at hstage
      simp at hstage
    · obtain ⟨later, hlater, hbecomes⟩ := run_exchange hstage incidents
      obtain rfl := Option.some.inj (hlater.symm.trans hlast)
      rw [hbecomes.eq_of_answered rfl] at hanswered
      exact ⟨result, told_run htold incidents, (ExchangeStage.answered.inj hanswered).symm⟩

/-- What the answer to a request says, which came in the first traffic and has its answer in the
last one: what it is answered with at once, or what its operation has told. -/
def Says (first : Traffic) (now : Instant) (nonce : List UInt8) (request : Request)
    (last : Traffic) (said : Saying) : Prop :=
  SaysAtOnce ⟨first.config, first.secret, now, nonce⟩ request said ∨
    ∃ device endpoint asked result,
      first.handling now nonce request = .operate device endpoint asked ∧
      ((first.access device).operations.length, .result result) ∈ last.told device ∧
      said = endpoint.saying result

theorem Says.value_ne_null {first last : Traffic} {now : Instant} {nonce : List UInt8}
    {request : Request} {value : Json.Value}
    (h : first.Says now nonce request last (.result value)) : value ≠ .null := by
  rcases h with honce | ⟨_, _, _, _, -, -, hsaid⟩
  · exact honce.value_ne_null
  · exact Endpoint.value_ne_null hsaid.symm

theorem says_of_answered {now : Instant} {nonce : List UInt8} {request : Request}
    (hmethod : request.method ≠ .options) {incidents : List Incident} {dressing : Dressing}
    {response : Response}
    (h : (traffic.run (.arrive now nonce request :: incidents)).exchanges[traffic.exchanges.length]?
      = some ⟨dressing, .answered response⟩) :
    ∃ said,
      traffic.Says now nonce request (traffic.run (.arrive now nonce request :: incidents)) said ∧
        response = (Dressing.of traffic.config request).apply said.response := by
  cases hhandling : traffic.handling now nonce request with
  | respond given =>
    obtain ⟨said, hsaid, rfl⟩ := saysAtOnce_of_respond hmethod hhandling
    rw [run_of_respond hhandling incidents] at h
    simp only [Option.some.injEq, Exchange.mk.injEq, ExchangeStage.answered.injEq] at h
    exact ⟨said, Or.inl hsaid, h.2.symm⟩
  | operate device endpoint asked =>
    have hopening := traffic.step_arrive_exchange now nonce request
    simp only [opening, hhandling] at hopening
    obtain ⟨result, htold, hresponse⟩ := run_answered hopening h rfl
    rw [Endpoint.response_eq] at hresponse
    exact ⟨_, Or.inr ⟨device, endpoint, asked, result, hhandling, htold, rfl⟩, hresponse⟩

end Traffic

/-- The body of an answer is an object with the members `error` and `data`, of which exactly one is
null.  An error has the code of the status and the text of what went wrong, character by character;
data come with the status 200. -/
theorem answers_are_envelopes (traffic : Traffic) (now : Instant) (nonce : List UInt8)
    (request : Request) (incidents : List Incident) {dressing : Dressing} {response : Response}
    (hmethod : request.method ≠ .options ∧ request.method ≠ .head)
    (hanswer :
      (traffic.run (.arrive now nonce request :: incidents)).exchanges[traffic.exchanges.length]?
        = some ⟨dressing, .answered response⟩) :
    ∃ said error data,
      traffic.Says now nonce request (traffic.run (.arrive now nonce request :: incidents)) said ∧
        Json.Value.parse response.body = .ok (.object [("error", error), ("data", data)]) ∧
        (error = .null ↔ data ≠ .null) ∧
        (error ≠ .null → ∃ failure, said = .failure failure ∧
          error = .object
            [("code", .number response.status.code), ("message", .text failure.message)]) ∧
        (data ≠ .null → said = .result data ∧ response.status.code = 200) := by
  obtain ⟨said, hsays, hresponse⟩ := Traffic.says_of_answered hmethod.1 hanswer
  have hbody : response.body = said.response.body := by
    rw [hresponse, Dressing.apply_body_of_ne_head _ _ hmethod.2]
  have hstatus : response.status = said.response.status := by rw [hresponse, Dressing.apply]
  refine ⟨said, said.error, said.data, hsays, hbody ▸ said.parse_body, ?_⟩
  cases said with
  | failure failure =>
    have hcode : response.status = failure.status := hstatus
    refine ⟨by simp [Saying.error, Saying.data], fun _ => ⟨failure, rfl, ?_⟩,
      fun hdata => absurd rfl hdata⟩
    rw [hcode]
    rfl
  | result value =>
    have hcode : response.status = .ok := hstatus
    refine ⟨by simp [Saying.error, Saying.data, hsays.value_ne_null],
      fun herror => absurd rfl herror, fun _ => ⟨rfl, ?_⟩⟩
    rw [hcode]
    rfl

/-- The device refuses a backup with a text that has a quote and a line break in it. -/
theorem refused_backup_is_envelope :
    let traffic : Traffic := { config := { checksHeaders := false } }
    let request := Traffic.backupRequest
    let refusal : Message := ⟨3, [0x12, 4, 0x4e, 0x22, 0x0a, 0x21]⟩
    let incidents : List Incident :=
      [.signal .usb 0 .start, .signal .usb 0 .send, .signal .usb 0 (.answer (.ok refusal)),
        .signal .usb 0 .settle, .collect 0]
    let last := traffic.run (.arrive ⟨0⟩ [] request :: incidents)
    let dressing := Dressing.of traffic.config request
    let response := dressing.apply (Endpoint.backup.response (.ok (.refused "N\"\n!")))
    (request.method ≠ .options ∧ request.method ≠ .head) ∧
      last.exchanges[traffic.exchanges.length]? = some ⟨dressing, .answered response⟩ ∧
      ∃ said error data,
        traffic.Says ⟨0⟩ [] request last said ∧
          Json.Value.parse response.body = .ok (.object [("error", error), ("data", data)]) ∧
          (error = .null ↔ data ≠ .null) ∧
          (error ≠ .null → ∃ failure, said = .failure failure ∧
            error = .object
              [("code", .number response.status.code), ("message", .text failure.message)]) ∧
          (data ≠ .null → said = .result data ∧ response.status.code = 200) := by
  intro traffic request refusal incidents last dressing response
  have hmethod : request.method ≠ .options ∧ request.method ≠ .head := by decide
  have hanswer : last.exchanges[traffic.exchanges.length]?
      = some ⟨dressing, .answered response⟩ := by
    decide +kernel
  exact ⟨hmethod, hanswer,
    answers_are_envelopes traffic ⟨0⟩ [] request incidents hmethod hanswer⟩

end WalletGateway.Api
