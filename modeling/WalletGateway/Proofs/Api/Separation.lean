import WalletGateway.Proofs.Api.Exemption

/-!
# Separation of the devices

What goes on at one device does not depend on the other.  `besides` takes all requests for a device
out of what happens, with all events of the device, and `device_is_separate_from_other` says that
everything that remains happens as before: at the other device the same steps are taken, and the
same requests get the same answers.

The requests that remain move up, so the proof keeps track of which they are: `remaining`.  The
relation between the two runs is `Traffic.Reduces`, and `Traffic.Reduces.step` its step.  The nonces
of tokens may differ between the runs; what comes of that is a matter of its own
(`Traffic.Renonced`).
-/

namespace WalletGateway.Api

open Http (Request Response)

/-! ## Paths -/

/-- Whether a path lies under a root. -/
def isUnder (root path : String) : Bool :=
  (root ++ "/").toList.isPrefixOf path.toList

namespace DeviceId

/-- The other device. -/
def other : DeviceId → DeviceId
  | usb => emulator
  | emulator => usb

theorem eq_other_iff {device target : DeviceId} : target = device.other ↔ target ≠ device := by
  cases device <;> cases target <;> simp [other]

/-- Whether a path is for the device: it lies under the root of the device, and not under that of
the emulator, if the device is another.  Tokens are for both devices. -/
def owns : DeviceId → String → Bool
  | emulator, path => isUnder emulator.root path
  | usb, path => isUnder usb.root path && !isUnder emulator.root path && path != Resource.token.path

/-- Every endpoint is for its device, and for no other. -/
theorem owns_endpoint_path (device place : DeviceId) (endpoint : Endpoint) :
    device.owns (place.root ++ endpoint.path) = decide (place = device) := by
  have hall : ∀ endpoint ∈ Endpoint.all, ∀ device ∈ [usb, emulator], ∀ place ∈ [usb, emulator],
      device.owns (place.root ++ endpoint.path) = decide (place = device) := by
    decide +kernel
  have hmem : ∀ device, device ∈ [usb, emulator] := by
    intro device
    cases device <;> simp
  exact hall endpoint endpoint.mem_all device (hmem device) place (hmem place)

end DeviceId

/-! ## Lists -/

/-- The entries of a list that a mask keeps. -/
def retain {α : Type} : List Bool → List α → List α
  | true :: mask, entry :: list => entry :: retain mask list
  | false :: mask, _ :: list => retain mask list
  | [], _ | _, [] => []

/-- The place that an entry of a list moves to. -/
def moved (mask : List Bool) (index : Nat) : Nat :=
  (mask.take index).count true

@[simp] theorem moved_zero (mask : List Bool) : moved mask 0 = 0 := rfl

@[simp] theorem moved_succ (kept : Bool) (mask : List Bool) (index : Nat) :
    moved (kept :: mask) (index + 1) = moved mask index + if kept then 1 else 0 := by
  cases kept <;> simp [moved]

section Retaining

variable {α : Type} {mask : List Bool} {list : List α} {index : Nat}

theorem retain_append (hlength : mask.length = list.length) (more : List Bool) (rest : List α) :
    retain (mask ++ more) (list ++ rest) = retain mask list ++ retain more rest := by
  induction mask generalizing list with
  | nil =>
    obtain rfl := List.length_eq_zero_iff.1 hlength.symm
    rfl
  | cons kept mask ih =>
    cases list with
    | nil => contradiction
    | cons entry list =>
      have htail := ih (Nat.succ.inj hlength)
      cases kept <;> simp [retain, htail]

theorem getElem?_retain (hlength : mask.length = list.length) (hkept : mask[index]? ≠ some false) :
    (retain mask list)[moved mask index]? = list[index]? := by
  induction mask generalizing list index with
  | nil =>
    obtain rfl := List.length_eq_zero_iff.1 hlength.symm
    simp [retain]
  | cons kept mask ih =>
    cases list with
    | nil => contradiction
    | cons entry list =>
      cases index with
      | zero =>
        obtain rfl : kept = true := by simpa using hkept
        rfl
      | succ index =>
        have htail : (retain mask list)[moved mask index]? = list[index]? :=
          ih (Nat.succ.inj hlength) (by simpa using hkept)
        cases kept <;> simp [retain, htail]

theorem retain_modify (hlength : mask.length = list.length) (hkept : mask[index]? ≠ some false)
    (change : α → α) :
    retain mask (list.modify index change)
      = (retain mask list).modify (moved mask index) change := by
  induction mask generalizing list index with
  | nil =>
    obtain rfl := List.length_eq_zero_iff.1 hlength.symm
    simp [retain]
  | cons kept mask ih =>
    cases list with
    | nil => contradiction
    | cons entry list =>
      cases index with
      | zero =>
        obtain rfl : kept = true := by simpa using hkept
        rfl
      | succ index =>
        have htail : retain mask (list.modify index change)
            = (retain mask list).modify (moved mask index) change :=
          ih (Nat.succ.inj hlength) (by simpa using hkept)
        cases kept <;> simp [retain, htail]

theorem retain_modify_of_dropped (hdropped : mask[index]? = some false) (change : α → α) :
    retain mask (list.modify index change) = retain mask list := by
  induction mask generalizing list index with
  | nil => simp at hdropped
  | cons kept mask ih =>
    cases list with
    | nil => simp
    | cons entry list =>
      cases index with
      | zero =>
        obtain rfl : kept = false := by simpa using hdropped
        rfl
      | succ index =>
        have htail : retain mask (list.modify index change) = retain mask list :=
          ih (by simpa using hdropped)
        cases kept <;> simp [retain, htail]

theorem modify_congr {change other : α → α}
    (h : ∀ entry, list[index]? = some entry → change entry = other entry) :
    list.modify index change = list.modify index other := by
  apply List.ext_getElem?
  intro place
  rw [List.getElem?_modify, List.getElem?_modify]
  split
  · rename_i hplace
    subst hplace
    cases hentry : list[index]? with
    | none => rfl
    | some entry => simp [h entry hentry]
  · rfl

end Retaining

/-! ## What happens besides a device -/

/-- The requests that an incident brings, with whether they remain when those for the device are
taken out. -/
def Incident.remains (device : DeviceId) : Incident → List Bool
  | .arrive _ _ request => [!device.owns request.target.path]
  | .leave _ | .signal .. | .collect _ => []

/-- Which requests remain when those for the device are taken out. -/
def remaining (device : DeviceId) (incidents : List Incident) : List Bool :=
  incidents.flatMap (Incident.remains device)

/-- An incident that is not about the device, as it is among the requests that remain. -/
def Incident.besides (device : DeviceId) (mask : List Bool) : Incident → Option Incident
  | .arrive now nonce request =>
    if device.owns request.target.path then none else some (.arrive now nonce request)
  | .leave exchange =>
    if mask[exchange]? = some false then none else some (.leave (moved mask exchange))
  | .signal place operation sent =>
    if place = device then none else some (.signal place operation sent)
  | .collect exchange =>
    if mask[exchange]? = some false then none else some (.collect (moved mask exchange))

/-- What remains is a request for another path, or what happens to a request that remains, or at
another device. -/
theorem Incident.besides_cases {device : DeviceId} {mask : List Bool} {incident kept : Incident}
    (h : incident.besides device mask = some kept) :
    (∃ now nonce request, incident = .arrive now nonce request ∧
        device.owns request.target.path = false ∧ kept = .arrive now nonce request) ∨
      (∃ place, incident = .leave place ∧ mask[place]? ≠ some false ∧
        kept = .leave (moved mask place)) ∨
      (∃ place operation sent, incident = .signal place operation sent ∧
        kept = .signal place operation sent) ∨
      ∃ place, incident = .collect place ∧ mask[place]? ≠ some false ∧
        kept = .collect (moved mask place) := by
  unfold besides at h
  split at h <;> split at h
  case h_1.isFalse now nonce request howns =>
    exact Or.inl ⟨now, nonce, request, rfl, by simpa using howns, (Option.some.inj h).symm⟩
  case h_2.isFalse place hplace =>
    exact Or.inr (Or.inl ⟨place, rfl, hplace, (Option.some.inj h).symm⟩)
  case h_3.isFalse place operation sent _ =>
    exact Or.inr (Or.inr (Or.inl ⟨place, operation, sent, rfl, (Option.some.inj h).symm⟩))
  case h_4.isFalse place hplace =>
    exact Or.inr (Or.inr (Or.inr ⟨place, rfl, hplace, (Option.some.inj h).symm⟩))
  all_goals contradiction

/-- What happens besides the device.  The mask says which requests remain of those before. -/
def besides (device : DeviceId) (mask : List Bool) : List Incident → List Incident
  | [] => []
  | incident :: incidents =>
    (incident.besides device mask).toList
      ++ besides device (mask ++ incident.remains device) incidents

theorem besides_append (device : DeviceId) (mask : List Bool) (first second : List Incident) :
    besides device mask (first ++ second)
      = besides device mask first ++ besides device (mask ++ remaining device first) second := by
  induction first generalizing mask with
  | nil => simp [besides, remaining]
  | cons incident first ih => simp [besides, remaining, ih]

/-! ## Taking a device out -/

theorem Exchange.collect_congr {exchange : Exchange}
    {told heard : DeviceId → List (Nat × Access.Outcome)}
    (h : ∀ device endpoint operation, exchange.stage = .operating device endpoint operation →
      told device = heard device) : exchange.collect told = exchange.collect heard := by
  unfold collect
  split
  · rename_i device endpoint operation hstage
    rw [h device endpoint operation hstage]
  · rfl

namespace Traffic

/-- The traffic is what remains of a fuller one when a device is taken out: it agrees with that on
the other device and on the requests that remain. -/
structure Reduces (device : DeviceId) (mask : List Bool) (full part : Traffic) : Prop where
  config : part.config = full.config
  secret : part.secret = full.secret
  access : part.access device.other = full.access device.other
  told : part.told device.other = full.told device.other
  exchanges : part.exchanges = retain mask full.exchanges
  length : mask.length = full.exchanges.length
  /-- The requests that remain are those that operate on the other device. -/
  operating : ∀ (place : Nat) (dressing : Dressing) (target : DeviceId) (endpoint : Endpoint)
    (operation : Nat),
    full.exchanges[place]? = some ⟨dressing, .operating target endpoint operation⟩ →
    mask[place]? = some (decide (target = device.other))

theorem owns_of_handling {traffic : Traffic} {now : Instant} {nonce : List UInt8}
    {request : Request} {target : DeviceId} {endpoint : Endpoint} {asked : DeviceRequest}
    (h : traffic.handling now nonce request = .operate target endpoint asked) (device : DeviceId) :
    (!device.owns request.target.path) = decide (target = device.other) := by
  rw [(handle_eq_operate_iff.1 h).path, device.owns_endpoint_path]
  simp [DeviceId.eq_other_iff]

namespace Reduces

variable {device : DeviceId} {mask : List Bool} {full part : Traffic}

theorem handling_eq (h : Reduces device mask full part) (now : Instant) (nonce : List UInt8)
    (request : Request) : part.handling now nonce request = full.handling now nonce request := by
  simp only [handling, h.config, h.secret]

/-- The other device sees nothing of what is taken out. -/
theorem event?_of_dropped (h : Reduces device mask full part) {incident : Incident}
    (hdropped : incident.besides device mask = none) :
    full.event? device.other incident = none := by
  cases incident with
  | arrive now nonce request =>
    have howns : device.owns request.target.path = true := by
      simpa [Incident.besides] using hdropped
    simp only [event?]
    split
    · rfl
    · rename_i target endpoint asked hhandling
      have hother : target ≠ device.other := by
        simpa [howns] using owns_of_handling hhandling device
      simp [hother]
  | leave place =>
    have hmask : mask[place]? = some false := by simpa [Incident.besides] using hdropped
    simp only [event?]
    split
    · rename_i target endpoint operation hstage
      obtain ⟨⟨dressing, stage⟩, hexchange, rfl⟩ := Option.map_eq_some_iff.1 hstage
      have hother : target ≠ device.other := by
        simpa [hmask] using h.operating _ _ _ _ _ hexchange
      simp [hother]
    · rfl
  | signal place operation signal =>
    have hplace : place = device := by simpa [Incident.besides] using hdropped
    have hother : place ≠ device.other := fun heq => DeviceId.eq_other_iff.1 heq hplace
    simp [event?, hother]
  | collect place => rfl

/-- The other device sees the same of what remains. -/
theorem event?_of_kept (h : Reduces device mask full part) {incident kept : Incident}
    (hkept : incident.besides device mask = some kept) :
    part.event? device.other kept = full.event? device.other incident := by
  rcases Incident.besides_cases hkept with ⟨now, nonce, request, rfl, -, rfl⟩ |
    ⟨place, rfl, hplace, rfl⟩ | ⟨place, operation, sent, rfl, rfl⟩ | ⟨place, rfl, -, rfl⟩
  · simp only [event?, h.handling_eq]
  · simp only [event?, h.exchanges, getElem?_retain h.length hplace]
  · rfl
  · rfl

/-- A request that remains opens the same exchange. -/
theorem opening_eq (h : Reduces device mask full part) {now : Instant} {nonce : List UInt8}
    {request : Request} (howns : device.owns request.target.path = false) :
    part.opening now nonce request = full.opening now nonce request := by
  unfold opening
  rw [h.handling_eq, h.config]
  split
  · rfl
  · rename_i target endpoint asked hhandling
    have hother := owns_of_handling hhandling device
    obtain rfl : target = device.other := by simpa [howns] using hother
    simp only [h.access]

theorem exchanges_of_dropped (h : Reduces device mask full part) {incident : Incident}
    (hdropped : incident.besides device mask = none) :
    retain (mask ++ incident.remains device) (full.step incident).exchanges
      = retain mask full.exchanges := by
  cases incident with
  | arrive now nonce request =>
    have howns : device.owns request.target.path = true := by
      simpa [Incident.besides] using hdropped
    show retain (mask ++ [!device.owns request.target.path])
      (full.exchanges ++ [full.opening now nonce request]) = _
    rw [retain_append h.length, howns]
    simp [retain]
  | leave place | collect place =>
    have hmask : mask[place]? = some false := by simpa [Incident.besides] using hdropped
    simp only [Incident.remains, List.append_nil]
    exact retain_modify_of_dropped hmask _
  | signal =>
    simp only [Incident.remains, List.append_nil]
    rfl

theorem exchanges_of_kept (h : Reduces device mask full part) {incident kept : Incident}
    (hkept : incident.besides device mask = some kept) :
    (part.step kept).exchanges
      = retain (mask ++ incident.remains device) (full.step incident).exchanges := by
  rcases Incident.besides_cases hkept with ⟨now, nonce, request, rfl, howns, rfl⟩ |
    ⟨place, rfl, hplace, rfl⟩ | ⟨place, operation, sent, rfl, rfl⟩ | ⟨place, rfl, hplace, rfl⟩
  · show part.exchanges ++ [part.opening now nonce request]
      = retain (mask ++ [!device.owns request.target.path])
          (full.exchanges ++ [full.opening now nonce request])
    rw [retain_append h.length, h.exchanges, h.opening_eq howns, howns]
    rfl
  · show part.exchanges.modify (moved mask place) Exchange.abandon
      = retain (mask ++ []) (full.exchanges.modify place Exchange.abandon)
    rw [h.exchanges, List.append_nil, retain_modify h.length hplace]
  · show part.exchanges = retain (mask ++ []) full.exchanges
    rw [h.exchanges, List.append_nil]
  · show part.exchanges.modify (moved mask place) (·.collect part.told)
      = retain (mask ++ []) (full.exchanges.modify place (·.collect full.told))
    rw [h.exchanges, List.append_nil, retain_modify h.length hplace]
    refine modify_congr fun exchange hexchange => Exchange.collect_congr ?_
    intro target endpoint operation hstage
    -- A request that remains waits for the other device, if it waits.
    rw [getElem?_retain h.length hplace] at hexchange
    obtain ⟨dressing, stage⟩ := exchange
    simp only at hstage
    subst hstage
    have hother := h.operating _ _ _ _ _ hexchange
    rw [hother] at hplace
    simp only [ne_eq, Option.some.injEq, decide_eq_false_iff_not, Decidable.not_not] at hplace
    rw [hplace, h.told]

theorem length_step (h : Reduces device mask full part) (incident : Incident) :
    (mask ++ incident.remains device).length = (full.step incident).exchanges.length := by
  cases incident <;> simp [Traffic.step, Incident.remains, h.length]

theorem operating_step (h : Reduces device mask full part) (incident : Incident) {place : Nat}
    {dressing : Dressing} {target : DeviceId} {endpoint : Endpoint} {operation : Nat}
    (hexchange : (full.step incident).exchanges[place]?
      = some ⟨dressing, .operating target endpoint operation⟩) :
    (mask ++ incident.remains device)[place]? = some (decide (target = device.other)) := by
  rcases step_operating hexchange with hold | ⟨rfl, now, nonce, request, rfl, hstarts⟩
  · have hlt := (List.getElem?_eq_some_iff.1 hold).1
    rw [List.getElem?_append_left (h.length ▸ hlt)]
    exact h.operating _ _ _ _ _ hold
  · obtain ⟨⟨asked, hasked⟩, -⟩ := hstarts
    rw [← h.length, ← owns_of_handling hasked device]
    simp [Incident.remains]

/-- One incident, with the device and without. -/
theorem step (h : Reduces device mask full part) (incident : Incident) :
    Reduces device (mask ++ incident.remains device) (full.step incident)
        (part.run (incident.besides device mask).toList) ∧
      part.steps device.other (incident.besides device mask).toList
        = (full.step? device.other incident).toList := by
  cases hbesides : incident.besides device mask with
  | none =>
    have hnone : full.step? device.other incident = none := by
      simp [step?, h.event?_of_dropped hbesides]
    refine ⟨⟨h.config, h.secret, ?_, ?_, ?_, h.length_step incident,
      fun _ _ _ _ _ => h.operating_step incident⟩, by simp [hnone]⟩
    · exact h.access.trans (step_access_of_none hnone).symm
    · simp [step_told, hnone, h.told]
    · exact h.exchanges.trans (h.exchanges_of_dropped hbesides).symm
  | some kept =>
    have hstep : part.step? device.other kept = full.step? device.other incident := by
      simp only [step?, h.event?_of_kept hbesides, h.access]
    refine ⟨⟨h.config, h.secret, ?_, ?_, h.exchanges_of_kept hbesides, h.length_step incident,
      fun _ _ _ _ _ => h.operating_step incident⟩, by simp [hstep]⟩
    · show (part.step kept).access device.other = _
      rw [step_access, step_access, hstep, h.access]
    · show (part.step kept).told device.other = _
      rw [step_told, step_told, hstep, h.told]

/-- A run, with the device and without. -/
theorem run (h : Reduces device mask full part) (incidents : List Incident) :
    Reduces device (mask ++ remaining device incidents) (full.run incidents)
        (part.run (besides device mask incidents)) ∧
      part.steps device.other (besides device mask incidents)
        = full.steps device.other incidents := by
  induction incidents generalizing mask full part with
  | nil => simpa [besides, remaining] using h
  | cons incident incidents ih =>
    obtain ⟨hstep, hfirst⟩ := h.step incident
    obtain ⟨hrun, hsteps⟩ := ih hstep
    constructor
    · simpa [besides, remaining] using hrun
    · simp [besides, hfirst, hsteps]

end Reduces

end Traffic

/-! ## Nonces -/

/-- An incident with another nonce, if it is a request. -/
inductive Incident.Renonced : Incident → Incident → Prop where
  | same (incident : Incident) : Renonced incident incident
  | nonce (now : Instant) (first second : List UInt8) (request : Request) :
      Renonced (.arrive now first request) (.arrive now second request)

/-- A request with the same answer, but for the nonce of a token. -/
inductive Exchange.Renonced (config : Config) (secret : Option Hmac.Key) :
    Exchange → Exchange → Prop where
  | same (exchange : Exchange) : Renonced config secret exchange exchange
  | token (dressing : Dressing) (now : Instant) (first second : List UInt8) :
      Renonced config secret
        ⟨dressing, .answered (dressing.apply (tokenResponse ⟨config, secret, now, first⟩))⟩
        ⟨dressing, .answered (dressing.apply (tokenResponse ⟨config, secret, now, second⟩))⟩

theorem forall₂_getElem? {α β : Type} {related : α → β → Prop} {list : List α} {other : List β}
    (h : List.Forall₂ related list other) (index : Nat) :
    list[index]? = none ∧ other[index]? = none ∨
      ∃ a b, list[index]? = some a ∧ other[index]? = some b ∧ related a b := by
  induction h generalizing index with
  | nil => simp
  | cons hhead htail ih =>
    cases index with
    | zero => exact Or.inr ⟨_, _, rfl, rfl, hhead⟩
    | succ index => simpa using ih index

theorem forall₂_modify {α β : Type} {related : α → β → Prop} {list : List α} {other : List β}
    (h : List.Forall₂ related list other) {change : α → α} {change' : β → β}
    (hchange : ∀ a b, related a b → related (change a) (change' b)) (index : Nat) :
    List.Forall₂ related (list.modify index change) (other.modify index change') := by
  induction h generalizing index with
  | nil => simp
  | cons hhead htail ih =>
    cases index with
    | zero => exact .cons (hchange _ _ hhead) htail
    | succ index => exact .cons hhead (ih index)

/-- The nonce matters only for a token that is issued. -/
theorem handle_renonced (config : Config) (secret : Option Hmac.Key) (now : Instant)
    (first second : List UInt8) (request : Request) :
    handle ⟨config, secret, now, second⟩ request = handle ⟨config, secret, now, first⟩ request ∨
      handle ⟨config, secret, now, first⟩ request
          = .respond (tokenResponse ⟨config, secret, now, first⟩) ∧
        handle ⟨config, secret, now, second⟩ request
          = .respond (tokenResponse ⟨config, secret, now, second⟩) := by
  unfold handle
  by_cases hoptions : request.method = .options
  · simp [hoptions]
  · simp only [hoptions, if_false]
    cases Gate.check config secret now request with
    | error error => simp
    | ok =>
      simp only [route]
      cases Resource.ofPath? request.target.path with
      | none => simp
      | some resource =>
        by_cases htakes : resource.takes request.method = true
        · simp only [htakes, Bool.not_true, Bool.false_eq_true, if_false]
          cases resource with
          | token => simp
          | operation device endpoint => simp
        · simp [htakes]

theorem Exchange.Renonced.abandon {config : Config} {secret : Option Hmac.Key}
    {first second : Exchange} (h : first.Renonced config secret second) :
    first.abandon.Renonced config secret second.abandon := by
  cases h with
  | same => exact .same _
  | token dressing now one other => exact .token dressing now one other

theorem Exchange.Renonced.collect {config : Config} {secret : Option Hmac.Key}
    {first second : Exchange} (h : first.Renonced config secret second)
    (told : DeviceId → List (Nat × Access.Outcome)) :
    (first.collect told).Renonced config secret (second.collect told) := by
  cases h with
  | same => exact .same _
  | token dressing now one other => exact .token dressing now one other

namespace Traffic

/-- The traffic with other nonces. -/
structure Renonced (first second : Traffic) : Prop where
  config : second.config = first.config
  secret : second.secret = first.secret
  access : second.access = first.access
  told : second.told = first.told
  exchanges : List.Forall₂ (Exchange.Renonced first.config first.secret)
    first.exchanges second.exchanges

namespace Renonced

variable {first second : Traffic}

theorem refl (traffic : Traffic) : Renonced traffic traffic :=
  ⟨rfl, rfl, rfl, rfl, List.forall₂_same.2 fun exchange _ => .same exchange⟩

/-- The devices do not see nonces. -/
theorem event?_eq (h : Renonced first second) {incident other : Incident}
    (hincident : incident.Renonced other) (device : DeviceId) :
    second.event? device other = first.event? device incident := by
  cases hincident with
  | nonce now one two request =>
    simp only [event?, handling, h.config, h.secret]
    rcases handle_renonced first.config first.secret now one two request with heq | ⟨hone, htwo⟩
    · rw [heq]
    · rw [hone, htwo]
  | same =>
    cases incident with
    | arrive => simp only [event?, handling, h.config, h.secret]
    | leave place =>
      simp only [event?]
      rcases forall₂_getElem? h.exchanges place with ⟨hone, htwo⟩ | ⟨one, two, hone, htwo, heither⟩
      · rw [hone, htwo]
      · rw [hone, htwo]
        cases heither <;> rfl
    | signal | collect => rfl

/-- A request opens the same exchange, but for the nonce of a token. -/
theorem opening (h : Renonced first second) (now : Instant) (one two : List UInt8)
    (request : Request) :
    (first.opening now one request).Renonced first.config first.secret
      (second.opening now two request) := by
  unfold Traffic.opening
  simp only [handling, h.config, h.secret, h.access]
  rcases handle_renonced first.config first.secret now one two request with heq | ⟨hone, htwo⟩
  · rw [heq]
    exact .same _
  · rw [hone, htwo]
    exact .token _ now one two

/-- One incident, with two nonces. -/
theorem step (h : Renonced first second) {incident other : Incident}
    (hincident : incident.Renonced other) :
    Renonced (first.step incident) (second.step other) ∧
      ∀ device, second.step? device other = first.step? device incident := by
  have hstep : ∀ device, second.step? device other = first.step? device incident := by
    intro device
    simp only [step?, h.event?_eq hincident device, h.access]
  refine ⟨⟨h.config, h.secret, ?_, ?_, ?_⟩, hstep⟩
  · funext device
    rw [step_access, step_access, hstep, h.access]
  · funext device
    rw [step_told, step_told, hstep, h.told]
  · cases hincident with
    | nonce now one two request =>
      exact List.rel_append h.exchanges (.cons (h.opening now one two request) .nil)
    | same =>
      cases incident with
      | arrive now nonce request =>
        exact List.rel_append h.exchanges (.cons (h.opening now nonce nonce request) .nil)
      | leave place => exact forall₂_modify h.exchanges (fun _ _ => .abandon) place
      | signal => exact h.exchanges
      | collect place =>
        show List.Forall₂ _ (first.exchanges.modify place (·.collect first.told))
          (second.exchanges.modify place (·.collect second.told))
        rw [h.told]
        exact forall₂_modify h.exchanges (fun _ _ heither => heither.collect _) place

/-- A run, with two nonces for each request. -/
theorem run (h : Renonced first second) {incidents others : List Incident}
    (hincidents : List.Forall₂ Incident.Renonced incidents others) :
    Renonced (first.run incidents) (second.run others) ∧
      ∀ device, second.steps device others = first.steps device incidents := by
  induction hincidents generalizing first second with
  | nil => exact ⟨h, fun _ => rfl⟩
  | cons hhead htail ih =>
    obtain ⟨hstep, hfirst⟩ := h.step hhead
    obtain ⟨hrun, hsteps⟩ := ih hstep
    exact ⟨hrun, fun device => by simp [hfirst, hsteps]⟩

end Renonced

end Traffic

/-! ## Both devices -/

/-- Two runs of the traffic are the same but for a device: the first with it, the second without. -/
structure SameBesides (device : DeviceId) (fresh : Traffic) (incidents others : List Incident) :
    Prop where
  /-- At the other device the same steps are taken, with the same calls and disconnections, and the
  slot is the same around each of them. -/
  steps : fresh.steps device.other others = fresh.steps device.other incidents
  /-- The slot of the other device is the same, and so are its operations, with their outstanding
  calls. -/
  access : (fresh.run others).access device.other = (fresh.run incidents).access device.other
  /-- The operations of the other device have told the same. -/
  told : (fresh.run others).told device.other = (fresh.run incidents).told device.other
  /-- The requests that remain have the same answers, but for the nonces of tokens. -/
  exchanges : List.Forall₂ (Exchange.Renonced fresh.config fresh.secret)
    (retain (remaining device incidents) (fresh.run incidents).exchanges)
    (fresh.run others).exchanges

theorem Traffic.reduces_fresh (config : Config) (secret : Option Hmac.Key) (device : DeviceId) :
    Reduces device [] { config, secret } { config, secret } :=
  ⟨rfl, rfl, rfl, rfl, rfl, rfl, by simp⟩

theorem sameBesides_of_renonced {config : Config} {secret : Option Hmac.Key} {device : DeviceId}
    {incidents others : List Incident}
    (hothers : List.Forall₂ Incident.Renonced (besides device [] incidents) others) :
    SameBesides device { config, secret } incidents others := by
  obtain ⟨hreduces, hsteps⟩ := (Traffic.reduces_fresh config secret device).run incidents
  obtain ⟨hrenonced, hsame⟩ := (Traffic.Renonced.refl { config, secret }).run hothers
  refine ⟨(hsame device.other).trans hsteps, ?_, ?_, ?_⟩
  · rw [hrenonced.access, hreduces.access]
  · rw [hrenonced.told, hreduces.told]
  · have hexchanges := hrenonced.exchanges
    rw [hreduces.exchanges] at hexchanges
    simpa using hexchanges

/-- When all requests for a device are taken out of what happens, with all events of the device, the
rest happens as before: after every incident the two runs are the same for the other device and for
the requests that remain, whatever the new nonces are. -/
theorem device_is_separate_from_other (config : Config) (secret : Option Hmac.Key)
    (device : DeviceId) (incidents others : List Incident)
    (hothers : List.Forall₂ Incident.Renonced (besides device [] incidents) others)
    (front back : List Incident) (hfront : incidents = front ++ back) :
    SameBesides device { config, secret } front
      (others.take (besides device [] front).length) := by
  subst hfront
  rw [besides_append] at hothers
  have hprefix := List.forall₂_take (besides device [] front).length hothers
  rw [List.take_left] at hprefix
  exact sameBesides_of_renonced hprefix

/-- The request for the features of the emulator. -/
def emulatorRequest : Request :=
  { method := .get, target := { path := "/api/v1/emulator/features" } }

/-- The request for a token. -/
def tokenRequest : Request :=
  { method := .get, target := { path := "/api/v1/csrf" } }

/-- Both devices are asked for their features, and a token is issued; then the client of the USB
device goes away. -/
def mixedIncidents : List Incident :=
  [.arrive ⟨0⟩ [] emulatorRequest, .arrive ⟨0⟩ [] Traffic.featuresRequest,
    .signal .emulator 0 .start, .signal .usb 0 .start, .signal .emulator 0 .send,
    .arrive ⟨0⟩ [1] tokenRequest, .signal .usb 0 .send,
    .signal .emulator 0 (.answer (.ok ⟨17, []⟩)), .leave 1, .signal .emulator 0 .settle,
    .collect 0, .signal .usb 0 .notice]

/-- What remains of that without the emulator. -/
def usbIncidents (nonce : List UInt8) : List Incident :=
  [.arrive ⟨0⟩ [] Traffic.featuresRequest, .signal .usb 0 .start, .arrive ⟨0⟩ nonce tokenRequest,
    .signal .usb 0 .send, .leave 0, .signal .usb 0 .notice]

theorem usb_is_separate_from_emulator :
    let secret : Option Hmac.Key := some ⟨List.replicate Hmac.blockSize 7, List.length_replicate⟩
    List.Forall₂ Incident.Renonced (besides .emulator [] mixedIncidents) (usbIncidents [2]) ∧
      mixedIncidents = mixedIncidents ++ [] ∧
      SameBesides .emulator { config := { checksHeaders := false }, secret } mixedIncidents
        ((usbIncidents [2]).take (besides .emulator [] mixedIncidents).length) := by
  intro secret
  have hemulator : DeviceId.emulator.owns emulatorRequest.target.path = true := by decide +kernel
  have husb : DeviceId.emulator.owns Traffic.featuresRequest.target.path = false := by
    decide +kernel
  have htoken : DeviceId.emulator.owns tokenRequest.target.path = false := by decide +kernel
  have hbesides : besides .emulator [] mixedIncidents = usbIncidents [1] := by
    simp [besides, mixedIncidents, usbIncidents, Incident.besides, Incident.remains, moved,
      hemulator, husb, htoken]
  have hothers : List.Forall₂ Incident.Renonced (besides .emulator [] mixedIncidents)
      (usbIncidents [2]) := by
    rw [hbesides]
    exact .cons (.same _) (.cons (.same _) (.cons (.nonce ..)
      (.cons (.same _) (.cons (.same _) (.cons (.same _) .nil)))))
  exact ⟨hothers, by simp,
    device_is_separate_from_other { checksHeaders := false } secret .emulator mixedIncidents
      (usbIncidents [2]) hothers mixedIncidents [] (by simp)⟩

end WalletGateway.Api
