import WalletGateway.Api.Service
import WalletGateway.Proofs.Api.Admission

/-!
# Bodies of requests

A request whose body has been read is let through or refused by the check of its endpoint.

* `Says` is what it takes for a body to be read, and `handle_of_says` leads from it to the check.
* The lemmas `.._eq_ok_iff` take apart what a check lets through.
* A check refuses what the client has sent, and blames nothing else: `Complains`.
* `Service.step_of_operate` and `Service.step_of_respond` are what becomes of the request.
-/

namespace WalletGateway.Api

open Http (Request Response)

/-! ## From the body to the check -/

/-- The body of a request is announced as JSON, is not too long, and says the given value. -/
structure Says {β : Type} (reader : Json.Reader β) (request : Request) (body : β) : Prop where
  announced : Endpoint.announcesJson request = true
  short : request.body.length ≤ Endpoint.maxBody
  decoded : Json.decode reader request.body = .ok body

variable {circumstances : Circumstances} {request : Request} {device : DeviceId}
  {endpoint : Endpoint}

theorem Says.bodyRequest_eq {β : Type} {reader : Json.Reader β} {body : β}
    (h : Says reader request body) (check : β → Except ApiError DeviceRequest) :
    Endpoint.bodyRequest (.of reader check) request = check body := by
  unfold Endpoint.bodyRequest BodyKind.of
  rw [h.announced, if_neg (by simp), if_neg (Nat.not_lt.2 h.short)]
  simp only [h.decoded, Except.map]

/-- What becomes of a request by what it asks of the device at its endpoint. -/
def Handling.ofAsked (device : DeviceId) (endpoint : Endpoint) :
    Except ApiError DeviceRequest → Handling
  | .error error => .respond error.response
  | .ok asked => .operate device endpoint asked

/-- A request that passes the gate, with the method of its endpoint, is decided by the endpoint. -/
theorem handle_of_gate
    (hgate : Gate.check circumstances.config circumstances.secret circumstances.now request = .ok ())
    (hpath : request.target.path = device.root ++ endpoint.path)
    (hmethod : request.method = endpoint.method) :
    handle circumstances request = .ofAsked device endpoint (endpoint.request request) := by
  have hresource : Resource.ofPath? request.target.path = some (.operation device endpoint) :=
    Resource.ofPath?_eq_some_iff.2 hpath.symm
  have htakes : (Resource.operation device endpoint).takes request.method = true :=
    Resource.takes_iff.2 (Or.inl hmethod)
  have hoptions : request.method ≠ .options := by
    rw [hmethod]
    cases endpoint <;> decide
  unfold handle route
  rw [if_neg hoptions, hgate]
  cases hasked : endpoint.request request <;> simp [hresource, htakes, hasked, Handling.ofAsked]

/-! ## What a check lets through -/

section

variable {ε δ α β : Type}

theorem mapError_eq_ok_iff {change : ε → δ} {result : Except ε α} {value : α} :
    result.mapError change = .ok value ↔ result = .ok value := by
  cases result <;> simp [Except.mapError]

/-- A list is let through when all its items are. -/
theorem mapM_eq_ok_iff {check : α → Except ε β} {items : List α} {results : List β} :
    items.mapM check = .ok results ↔
      List.Forall₂ (fun item result => check item = .ok result) items results := by
  induction items generalizing results with
  | nil => cases results <;> simp [pure, Except.pure]
  | cons item items ih =>
    rw [List.mapM_cons, bind_eq_ok_iff, List.forall₂_cons_left_iff]
    constructor
    · rintro ⟨first, hfirst, hrest⟩
      obtain ⟨later, hlater, hall⟩ := bind_eq_ok_iff.1 hrest
      exact ⟨first, later, hfirst, ih.1 hlater, (Except.ok.inj hall).symm⟩
    · rintro ⟨first, later, hfirst, hlater, rfl⟩
      exact ⟨first, hfirst, bind_eq_ok_iff.2 ⟨later, ih.2 hlater, rfl⟩⟩

theorem exists_mapM_eq_ok_iff {check : α → Except ε β} {items : List α} :
    (∃ results, items.mapM check = .ok results) ↔
      ∀ item ∈ items, ∃ result, check item = .ok result := by
  simp only [mapM_eq_ok_iff]
  induction items with
  | nil => simp
  | cons item items ih =>
    rw [List.forall_mem_cons, ← ih]
    constructor
    · rintro ⟨results, hall⟩
      obtain ⟨first, later, hfirst, hlater, -⟩ := List.forall₂_cons_left_iff.1 hall
      exact ⟨⟨first, hfirst⟩, later, hlater⟩
    · rintro ⟨⟨first, hfirst⟩, later, hlater⟩
      exact ⟨first :: later, .cons hfirst hlater⟩

end

theorem need_eq_ok_iff {present : Bool} {message : String} {done : Unit} :
    need present message = .ok done ↔ present = true := by
  cases present <;> simp [need]

theorem needAddress_eq_ok_iff {address : String} {done : Unit} :
    needAddress address = .ok done ↔ Wallet.checkAddress address = .ok () :=
  mapError_eq_ok_iff

/-- A valid address is not empty. -/
theorem address_ne_empty {address : String} (h : Wallet.checkAddress address = .ok ()) :
    address ≠ "" := by
  rintro rfl
  have hdigits : Base58.digits 256 (Base58.ofDigits 58 []) = [] := by
    simp [Base58.ofDigits, Base58.digits, Base58.digitsBefore]
  have hbytes : Base58.decode? "" = some [] := by simp [Base58.decode?, hdigits]
  simp [Wallet.checkAddress, hbytes, Wallet.addressSize] at h

theorem InputBody.check_eq_ok_iff {body : InputBody} {input : Payload.SkycoinTransactionInput} :
    body.check = .ok input ↔ body.hash ≠ "" ∧ input = { hash := body.hash, index := body.index } := by
  simp only [check, bind_eq_ok_iff, need_eq_ok_iff, Bool.not_eq_true', String.isEmpty_eq_false_iff]
  constructor
  · rintro ⟨-, hhash, hinput⟩
    exact ⟨hhash, (Except.ok.inj hinput).symm⟩
  · rintro ⟨hhash, rfl⟩
    exact ⟨(), hhash, rfl⟩

/-! ## What a check refuses -/

/-- The request is malformed, or asks for what is not allowed. -/
def ApiError.IsComplaint (error : ApiError) : Prop :=
  error.status = .badRequest ∨ error.status = .unprocessable

/-- Whatever is refused is the fault of the request. -/
def Complains {γ : Type} (result : Except ApiError γ) : Prop :=
  ∀ error, result = .error error → error.IsComplaint

namespace Complains

variable {γ δ ε : Type}

theorem pure (value : γ) : Complains (Pure.pure value : Except ApiError γ) :=
  fun _ h => nomatch h

theorem bind {result : Except ApiError γ} {next : γ → Except ApiError δ} (h : Complains result)
    (hnext : ∀ value, Complains (next value)) : Complains (result >>= next) := by
  intro error herror
  cases result with
  | error other =>
    obtain rfl : other = error := by simpa [Bind.bind, Except.bind] using herror
    exact h other rfl
  | ok value => exact hnext value error herror

theorem mapM {check : γ → Except ApiError δ} (h : ∀ item, Complains (check item))
    (items : List γ) : Complains (items.mapM check) := by
  induction items with
  | nil => exact pure []
  | cons item items ih =>
    rw [List.mapM_cons]
    exact (h item).bind fun _ => ih.bind fun _ => pure _

theorem need (present : Bool) (message : String) : Complains (Api.need present message) := by
  intro error herror
  unfold Api.need at herror
  split at herror
  · contradiction
  · obtain rfl := Except.error.inj herror
    exact Or.inl rfl

theorem mapError {change : ε → ApiError} (h : ∀ error, (change error).IsComplaint)
    (result : Except ε γ) : Complains (result.mapError change) := by
  intro error herror
  cases result with
  | error other =>
    obtain rfl := Except.error.inj herror
    exact h other
  | ok value => contradiction

theorem needAddress (address : String) : Complains (Api.needAddress address) :=
  mapError (fun _ => Or.inr rfl) _

end Complains

/-! ## What becomes of the request -/

namespace Service

variable {service : Service} {now : Instant} {nonce : List UInt8}

/-- An accepted request starts its operation, and nothing happens at the other device. -/
theorem step_of_operate {asked : DeviceRequest}
    (h : handle ⟨service.config, service.secret, now, nonce⟩ request
      = .operate device endpoint asked) :
    (service.step (.request now nonce request)).1.access device
      = (service.access device).start (.supervised endpoint.isSerialized) asked.message := by
  simp only [step, access_collect, takeUp, h, access_withExchange, access_setAccess, if_true]

/-- A refused request is answered, and nothing happens at any device. -/
theorem step_of_respond {response : Response}
    (h : handle ⟨service.config, service.secret, now, nonce⟩ request = .respond response) :
    (∀ device, (service.step (.request now nonce request)).1.access device
        = service.access device) ∧
      (service.step (.request now nonce request)).1.exchanges[service.exchanges.length]?
        = some ⟨Dressing.of service.config request,
            .answered ((Dressing.of service.config request).apply response)⟩ := by
  refine ⟨fun device => ?_, ?_⟩
  · simp only [step, access_collect, takeUp, h, access_withExchange]
  · simp [step, takeUp, h, withExchange, collect, Exchange.collect]

end Service

end WalletGateway.Api
