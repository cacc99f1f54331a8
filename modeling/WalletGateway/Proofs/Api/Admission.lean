import Mathlib.Data.List.Nodup
import WalletGateway.Api.Handling

/-!
# Admission

A request reaches an endpoint when it passes the gate and the endpoint is what stands at its path
and takes its method.  It is admitted when it also asks something of the device; only then it starts
an operation, and `handle_eq_operate_iff` says that `handle` lets exactly these requests through.

* The exempt methods.  A request that only reads reaches no other endpoint than the features
  (`Reaches.eq_features`); every other endpoint needs a token (`Reaches.needsToken`).
* The statuses.  What an operation is answered has none of the statuses by which a request is
  refused (`Endpoint.response_status_mem_outcomes`).
-/

namespace WalletGateway.Api

open Http (Method Request Response Status)

/-! ## Paths -/

theorem Endpoint.mem_all (endpoint : Endpoint) : endpoint ∈ Endpoint.all := by
  cases endpoint <;> decide

theorem Resource.mem_all (resource : Resource) : resource ∈ Resource.all := by
  cases resource with
  | token => decide
  | operation device endpoint =>
    have hendpoint := endpoint.mem_all
    cases device <;> simp [Resource.all, hendpoint]

/-- No two resources stand at one path. -/
theorem Resource.nodup_paths : (Resource.all.map Resource.path).Nodup := by
  decide +kernel

theorem Resource.ofPath?_eq_some_iff {path : String} {resource : Resource} :
    Resource.ofPath? path = some resource ↔ resource.path = path := by
  constructor
  · intro h
    simpa using List.find?_some h
  · rintro rfl
    have hfound : (Resource.ofPath? resource.path).isSome := by
      rw [Resource.ofPath?, List.find?_isSome]
      exact ⟨resource, resource.mem_all, by simp⟩
    obtain ⟨other, hother⟩ := Option.isSome_iff_exists.1 hfound
    have hpath : other.path = resource.path := by simpa using List.find?_some hother
    rw [hother, List.inj_on_of_nodup_map Resource.nodup_paths other.mem_all resource.mem_all hpath]

/-! ## Admission -/

/-- A request passes the gate, and gets to an endpoint of a device. -/
structure Reaches (circumstances : Circumstances) (request : Request) (device : DeviceId)
    (endpoint : Endpoint) : Prop where
  notPreflight : request.method ≠ .options
  headers : Gate.checkHeaders circumstances.config request = .ok ()
  token : Gate.checkToken circumstances.secret circumstances.now request = .ok ()
  path : request.target.path = device.root ++ endpoint.path
  method : request.method = endpoint.method ∨ request.method = .head ∧ endpoint.method = .get

/-- A request gets to an endpoint, and asks something of the device there. -/
structure Admits (circumstances : Circumstances) (request : Request) (device : DeviceId)
    (endpoint : Endpoint) (asked : DeviceRequest) : Prop
    extends Reaches circumstances request device endpoint where
  asks : endpoint.request request = .ok asked

theorem Resource.takes_iff {resource : Resource} {method : Method} :
    resource.takes method = true ↔
      method = resource.method ∨ method = .head ∧ resource.method = .get := by
  simp [Resource.takes]

theorem Gate.check_eq_ok_iff {config : Config} {secret : Option Hmac.Key} {now : Instant}
    {request : Request} :
    Gate.check config secret now request = .ok () ↔
      Gate.checkHeaders config request = .ok () ∧ Gate.checkToken secret now request = .ok () := by
  unfold Gate.check
  cases Gate.checkHeaders config request with
  | error error => simp [bind, Except.bind]
  | ok => simp [bind, Except.bind]

variable {circumstances : Circumstances} {request : Request} {device : DeviceId}
  {endpoint : Endpoint} {asked : DeviceRequest}

theorem route_eq_operate_iff :
    route circumstances request = .operate device endpoint asked ↔
      request.target.path = device.root ++ endpoint.path ∧
        (request.method = endpoint.method ∨ request.method = .head ∧ endpoint.method = .get) ∧
        endpoint.request request = .ok asked := by
  have hpath : request.target.path = device.root ++ endpoint.path ↔
      Resource.ofPath? request.target.path = some (.operation device endpoint) := by
    rw [Resource.ofPath?_eq_some_iff, eq_comm]
    rfl
  have htakes : (request.method = endpoint.method ∨
      request.method = .head ∧ endpoint.method = .get) ↔
      (Resource.operation device endpoint).takes request.method = true := by
    rw [Resource.takes_iff]
    rfl
  rw [hpath, htakes]
  unfold route
  constructor
  · intro h
    split at h
    · contradiction
    · rename_i resource hresource
      split at h
      · contradiction
      · rename_i hmethod
        split at h
        · contradiction
        · rename_i other target
          split at h
          · contradiction
          · rename_i hasked
            obtain ⟨rfl, rfl, rfl⟩ := Handling.operate.inj h
            exact ⟨hresource, by simpa using hmethod, hasked⟩
  · rintro ⟨hresource, hmethod, hasked⟩
    simp [hresource, hmethod, hasked]

/-- Exactly the admitted requests start an operation. -/
theorem handle_eq_operate_iff :
    handle circumstances request = .operate device endpoint asked ↔
      Admits circumstances request device endpoint asked := by
  unfold handle
  constructor
  · intro h
    split at h
    · contradiction
    · rename_i hmethod
      split at h
      · contradiction
      · rename_i hcheck
        obtain ⟨hheaders, htoken⟩ := Gate.check_eq_ok_iff.1 hcheck
        obtain ⟨hpath, htakes, hasked⟩ := route_eq_operate_iff.1 h
        exact ⟨⟨hmethod, hheaders, htoken, hpath, htakes⟩, hasked⟩
  · intro h
    have hcheck := Gate.check_eq_ok_iff.2 ⟨h.headers, h.token⟩
    simp only [h.notPreflight, hcheck, if_false]
    exact route_eq_operate_iff.2 ⟨h.path, h.method, h.asks⟩

/-- A request that reads can only be for the features. -/
theorem Reaches.eq_features (h : Reaches circumstances request device endpoint)
    (hreads : request.method = .get ∨ request.method = .head) : endpoint = .features := by
  have hmethod := h.method
  have hget : endpoint.method = .get := by
    rcases hreads with hreads | hreads
    · rw [hreads] at hmethod
      exact (hmethod.resolve_right (by simp)).symm
    · rw [hreads] at hmethod
      rcases hmethod with hhead | ⟨-, hget⟩
      · revert hhead
        cases endpoint <;> simp [Endpoint.method]
      · exact hget
  revert hget
  cases endpoint <;> simp [Endpoint.method]

/-- At every other endpoint a token is needed. -/
theorem Reaches.needsToken (h : Reaches circumstances request device endpoint)
    (hendpoint : endpoint ≠ .features) : Gate.needsToken request = true := by
  have hmethod := h.method
  revert hmethod hendpoint
  unfold Gate.needsToken
  cases endpoint <;> simp +contextual [Endpoint.method]

/-! ## Requests to cancel -/

theorem bind_eq_ok_iff {ε α β : Type} {result : Except ε α} {next : α → Except ε β} {value : β} :
    (result >>= next) = .ok value ↔ ∃ first, result = .ok first ∧ next first = .ok value := by
  cases result <;> simp [bind, Except.bind]

@[simp] theorem dataResponse_status (data : Json.Value) : (dataResponse data).status = .ok := rfl

@[simp] theorem ApiError.of_status (status : Status) (message : String) :
    (ApiError.of status message).status = status := rfl

@[simp] theorem ApiError.response_status (error : ApiError) :
    error.response.status = error.status := rfl

/-- The statuses by which a request is refused: 400, 403, 404, 405, 415 and 422. -/
def refusals : List Nat :=
  [400, 403, 404, 405, 415, 422]

/-- The statuses with which an operation ends. -/
def outcomes : List Status :=
  [.ok, .unauthorized, .conflict, .clientClosed, .serverError]

theorem code_notMem_refusals {status : Status} (h : status ∈ outcomes) :
    status.code ∉ refusals := by
  revert status
  decide

theorem ApiError.ofDevice_status_mem_outcomes (error : DeviceError) :
    (ApiError.ofDevice error).status ∈ outcomes := by
  unfold ApiError.ofDevice
  split <;> simp [outcomes]

theorem Endpoint.response_status_mem_outcomes (endpoint : Endpoint)
    (result : Except DeviceError Resolution) :
    (endpoint.response result).status ∈ outcomes := by
  have houtcome : (outcomeResponse result).status ∈ outcomes := by
    cases result with
    | ok resolution => cases resolution <;> simp [outcomeResponse, resolutionResponse, outcomes]
    | error error => exact ApiError.ofDevice_status_mem_outcomes error
  unfold Endpoint.response
  split
  · simp [outcomes]
  · exact houtcome

end WalletGateway.Api
