import WalletGateway.Proofs.Api.Admission
import WalletGateway.Proofs.Api.Traffic

/-!
# The token gate

Where CSRF tokens are in use, nothing is done at a device without a valid token, but for the
features being read.

* `exists_starts` says where operations come from: behind every operation there is a request that
  started it.
* `Reaches.features_or_verify` says that a request which gets to another endpoint than the features
  has a valid token, and `handle_of_invalid_token` what a request with an invalid one is answered.
-/

namespace WalletGateway.Api

open Access (deeds)
open Http (Request Response)

/-! ## Where operations come from -/

/-- A request starts an operation, which gets the given number at its device. -/
structure Traffic.Starts (traffic : Traffic) (now : Instant) (nonce : List UInt8)
    (request : Request) (device : DeviceId) (endpoint : Endpoint) (index : Nat) : Prop where
  handling : ∃ asked, traffic.handling now nonce request = .operate device endpoint asked
  index : (traffic.access device).operations.length = index

namespace Traffic

variable {traffic : Traffic} {device : DeviceId}

/-- There is one more operation at a device only when a request starts it. -/
theorem length_step (traffic : Traffic) (device : DeviceId) (incident : Incident) :
    ((traffic.step incident).access device).operations.length
        = (traffic.access device).operations.length ∨
      ((traffic.step incident).access device).operations.length
          = (traffic.access device).operations.length + 1 ∧
        ∃ now nonce request endpoint, incident = .arrive now nonce request ∧
          traffic.Starts now nonce request device endpoint
            (traffic.access device).operations.length := by
  cases hstep : traffic.step? device incident with
  | none => exact Or.inl (by rw [step_access_of_none hstep])
  | some step =>
    obtain ⟨hevent, hbefore, hlawful, hafter⟩ := step?_eq_some hstep
    rw [hafter]
    rcases hlawful.cases with
      ⟨purpose, message, hbegin, -, hoperations⟩ |
      ⟨index, signal, operation, reaction, -, -, -, -, -, hoperations⟩
    · refine Or.inr ⟨by rw [hoperations, hbefore, List.length_append, List.length_singleton], ?_⟩
      rw [hbegin] at hevent
      rcases event?_cases hevent with
        ⟨now, nonce, request, endpoint, asked, rfl, hhandling, -⟩ |
        ⟨_, _, _, _, -, -, hsignal⟩ | ⟨_, _, -, -, hsignal⟩
      · exact ⟨now, nonce, request, endpoint, rfl, ⟨asked, hhandling⟩, rfl⟩
      · contradiction
      · contradiction
    · exact Or.inl (by rw [hoperations, hbefore, List.length_set])

/-- Every operation that was not there at the start was started by a request. -/
theorem exists_starts {incidents : List Incident} {index : Nat}
    (hfresh : (traffic.access device).operations.length ≤ index)
    (hlt : index < ((traffic.run incidents).access device).operations.length) :
    ∃ before now nonce request after endpoint,
      incidents = before ++ .arrive now nonce request :: after ∧
      (traffic.run before).Starts now nonce request device endpoint index := by
  induction incidents using List.reverseRecOn with
  | nil =>
    rw [run_nil] at hlt
    omega
  | append_singleton incidents incident ih =>
    rw [run_append, run_cons, run_nil] at hlt
    have hold : index < ((traffic.run incidents).access device).operations.length →
        ∃ before now nonce request after endpoint,
          incidents ++ [incident] = before ++ .arrive now nonce request :: after ∧
          (traffic.run before).Starts now nonce request device endpoint index := by
      intro hlt
      obtain ⟨before, now, nonce, request, after, endpoint, rfl, hstarts⟩ := ih hlt
      exact ⟨before, now, nonce, request, after ++ [incident], endpoint, by simp, hstarts⟩
    rcases (traffic.run incidents).length_step device incident with
      hsame | ⟨hmore, now, nonce, request, endpoint, rfl, hstarts⟩
    · exact hold (hsame ▸ hlt)
    · rcases Nat.lt_or_ge index ((traffic.run incidents).access device).operations.length
        with hbefore | hnew
      · exact hold hbefore
      · have hlast : ((traffic.run incidents).access device).operations.length = index := by omega
        exact ⟨incidents, now, nonce, request, [], endpoint, rfl, hlast ▸ hstarts⟩

end Traffic

/-! ## Tokens -/

/-- The token that a request gives: its first `X-CSRF-Token` header, if there is one and it is
visible ASCII, and else the empty text. -/
def givenToken (request : Request) : String :=
  match request.headers.find? fun header => header.1.toLower = "x-csrf-token" with
  | some (_, value) => if Http.isPlain value then value else ""
  | none => ""

theorem Gate.token_eq_givenToken (request : Request) : Gate.token request = givenToken request := by
  have hname : Csrf.headerName.toLower = "x-csrf-token" := by decide +kernel
  unfold Gate.token givenToken Request.plainHeader? Request.header?
  rw [hname]
  cases request.headers.find? fun header => header.1.toLower = "x-csrf-token" with
  | none => rfl
  | some header =>
    simp only [Option.map_some, Option.filter_some]
    split <;> rfl

theorem Gate.checkToken_eq (key : Hmac.Key) (now : Instant) {request : Request}
    (hneeds : Gate.needsToken request = true) :
    Gate.checkToken (some key) now request
      = (Csrf.verify key (givenToken request) now).mapError fun error =>
          ApiError.of .forbidden error.message := by
  simp [Gate.checkToken, hneeds, Gate.token_eq_givenToken]

/-- A request that gets to another endpoint than the features has a valid token. -/
theorem Reaches.features_or_verify {config : Config} {key : Hmac.Key} {now : Instant}
    {nonce : List UInt8} {request : Request} {device : DeviceId} {endpoint : Endpoint}
    (h : Reaches ⟨config, some key, now, nonce⟩ request device endpoint) :
    endpoint = .features ∨ Csrf.verify key (givenToken request) now = .ok () := by
  by_cases hfeatures : endpoint = .features
  · exact Or.inl hfeatures
  · have htoken := h.token
    rw [Gate.checkToken_eq key now (h.needsToken hfeatures)] at htoken
    cases hverify : Csrf.verify key (givenToken request) now with
    | ok => exact Or.inr rfl
    | error error =>
      rw [hverify] at htoken
      contradiction

/-- What a request with an invalid token is answered. -/
def tokenRefusal (error : Csrf.TokenError) : Response :=
  ApiError.response ⟨.forbidden, error.message⟩

theorem tokenRefusal_body (error : Csrf.TokenError) :
    (tokenRefusal error).body
      = "\x7b\"error\":\x7b\"code\":403,\"message\":\"" ++ error.message
        ++ "\"\x7d,\"data\":null\x7d" := by
  cases error <;> decide +kernel

/-- A request that needs a token, and has an invalid one, is answered so whatever it asks for. -/
theorem handle_of_invalid_token {config : Config} {key : Hmac.Key} {now : Instant}
    {nonce : List UInt8} {request : Request} {error : Csrf.TokenError}
    (hneeds : Gate.needsToken request = true)
    (hheaders : Gate.checkHeaders config request = .ok ())
    (hverify : Csrf.verify key (givenToken request) now = .error error) :
    handle ⟨config, some key, now, nonce⟩ request = .respond (tokenRefusal error) := by
  have hmethod : request.method ≠ .options := by
    intro hoptions
    simp [Gate.needsToken, hoptions] at hneeds
  have htoken : Gate.checkToken (some key) now request
      = .error (ApiError.of .forbidden error.message) := by
    rw [Gate.checkToken_eq key now hneeds, hverify]
    rfl
  have hcheck : Gate.check config (some key) now request
      = .error (ApiError.of .forbidden error.message) := by
    unfold Gate.check
    rw [hheaders, htoken]
    rfl
  have hmessage : ApiError.of .forbidden error.message = ⟨.forbidden, error.message⟩ := by
    cases error <;> rfl
  simp [handle, hmethod, hcheck, hmessage, tokenRefusal]

/-- The answer to a HEAD request loses its body, and no other does. -/
theorem Dressing.apply_body_of_ne_head (config : Config) {request : Request} (response : Response)
    (hmethod : request.method ≠ .head) :
    ((Dressing.of config request).apply response).body = response.body := by
  simp [Dressing.apply, Dressing.of, hmethod]

/-- A request is handled by the configuration and the key that were there at the start. -/
theorem Traffic.handling_run (traffic : Traffic) (incidents : List Incident) (now : Instant)
    (nonce : List UInt8) (request : Request) :
    (traffic.run incidents).handling now nonce request
      = handle ⟨traffic.config, traffic.secret, now, nonce⟩ request := by
  simp [Traffic.handling]

/-- Where tokens are in use, every call of a device is made for a request that got to the features
or had a valid token when it came; so has every request that gets to another endpoint.  A request to
change something with an invalid token is refused for that, whatever it asks for. -/
theorem calls_need_valid_token (config : Config) (key : Hmac.Key) (incidents : List Incident) :
    let traffic : Traffic := { config, secret := some key }
    (∀ device index message, (index, .call message) ∈ deeds (traffic.steps device incidents) →
      ∃ before now nonce request after endpoint,
        incidents = before ++ .arrive now nonce request :: after ∧
        (traffic.run before).Starts now nonce request device endpoint index ∧
        (endpoint = .features ∨ Csrf.verify key (givenToken request) now = .ok ())) ∧
    ∀ before now nonce request after,
      incidents = before ++ .arrive now nonce request :: after →
      (∀ device endpoint, Reaches ⟨config, some key, now, nonce⟩ request device endpoint →
        endpoint = .features ∨ Csrf.verify key (givenToken request) now = .ok ()) ∧
      ∀ error, request.method ∈ [.post, .put, .delete] →
        Gate.checkHeaders config request = .ok () →
        Csrf.verify key (givenToken request) now = .error error →
        ∃ dressing response,
          (traffic.run incidents).exchanges[(traffic.run before).exchanges.length]?
            = some ⟨dressing, .answered response⟩ ∧
          response.status.code = 403 ∧
          response.body = "\x7b\"error\":\x7b\"code\":403,\"message\":\"" ++ error.message
            ++ "\"\x7d,\"data\":null\x7d" := by
  intro traffic
  constructor
  · intro device index message hcall
    have hlt := (traffic.execution device incidents).lt_of_deed hcall
    obtain ⟨before, now, nonce, request, after, endpoint, hsplit, hstarts⟩ :=
      Traffic.exists_starts (Nat.zero_le index) hlt
    obtain ⟨asked, hasked⟩ := hstarts.handling
    rw [traffic.handling_run] at hasked
    exact ⟨before, now, nonce, request, after, endpoint, hsplit, hstarts,
      (handle_eq_operate_iff.1 hasked).toReaches.features_or_verify⟩
  · rintro before now nonce request after rfl
    refine ⟨fun device endpoint hreaches => hreaches.features_or_verify,
      fun error hmethod hheaders hverify => ?_⟩
    have hneeds : Gate.needsToken request = true := by simpa [Gate.needsToken] using hmethod
    have hrefusal : (traffic.run before).handling now nonce request
        = .respond (tokenRefusal error) := by
      rw [traffic.handling_run]
      exact handle_of_invalid_token hneeds hheaders hverify
    have hhead : request.method ≠ .head := by
      intro hhead
      simp [hhead] at hmethod
    let dressing := Dressing.of (traffic.run before).config request
    refine ⟨dressing, dressing.apply (tokenRefusal error), ?_, rfl, ?_⟩
    · rw [Traffic.run_append]
      exact Traffic.run_of_respond hrefusal after
    · rw [Dressing.apply_body_of_ne_head _ _ hhead, tokenRefusal_body]

/-- The features are read without a token, and a backup is refused without one. -/
theorem features_need_no_token :
    let key : Hmac.Key := ⟨List.replicate 64 0, rfl⟩
    let traffic : Traffic := { config := { checksHeaders := false }, secret := some key }
    let first : List Incident :=
      [.arrive ⟨0⟩ [] Traffic.featuresRequest, .signal .usb 0 .start, .signal .usb 0 .send]
    let incidents := first ++ [.arrive ⟨0⟩ [] Traffic.backupRequest]
    (∃ before now nonce request after endpoint,
        incidents = before ++ .arrive now nonce request :: after ∧
        (traffic.run before).Starts now nonce request .usb endpoint 0 ∧
        (endpoint = .features ∨ Csrf.verify key (givenToken request) now = .ok ())) ∧
      ∃ dressing response,
        (traffic.run incidents).exchanges[(traffic.run first).exchanges.length]?
          = some ⟨dressing, .answered response⟩ ∧
        response.status.code = 403 ∧
        response.body = "\x7b\"error\":\x7b\"code\":403,\"message\":\""
          ++ Csrf.TokenError.message .malformed ++ "\"\x7d,\"data\":null\x7d" := by
  intro key traffic first incidents
  obtain ⟨hcalls, hrequests⟩ := calls_need_valid_token { checksHeaders := false } key incidents
  have hcall : (0, .call DeviceRequest.reportFeatures.message)
      ∈ deeds (traffic.steps .usb incidents) := by
    have hdeeds : deeds (traffic.steps .usb incidents)
        = [(0, .call DeviceRequest.reportFeatures.message)] := rfl
    simp [hdeeds]
  exact ⟨hcalls .usb 0 _ hcall, (hrequests first ⟨0⟩ [] Traffic.backupRequest [] rfl).2 .malformed
    (by decide) (by decide +kernel) (by decide +kernel)⟩

end WalletGateway.Api
