import WalletGateway.Api.Dressing
import WalletGateway.Proofs.Api.Headers
import WalletGateway.Proofs.Url.Host

/-!
# The listener's own origin

Browsers are told which origins may read a response, and the check of the headers looks at the
origin once more.  The first takes the hosts as they are written, and the second compares them with
what is left of a URL when it has been read.

* `IsOwnHost.mem_hosts` and `IsOwnHost.authority?_origin` say what each of them makes of the
  listener's own address; they differ at the customary port.
* `own_origin_passes_iff` says when the listener's own origin passes the check.
-/

namespace WalletGateway.Api

open Http (Request)
open Url (Host)

/-- The address at which a machine reaches itself. -/
def loopback : Ipv4 := ⟨0x7f000001⟩

/-- Whether a host is the listener's own: its address, or its alias. -/
def IsOwnHost (address : Ipv4) (host : Host) : Prop :=
  host = .ipv4 address ∨ address = loopback ∧ host = .name "localhost"

variable {config : Config} {request : Request} {address : Ipv4} {host : Host} {port : Nat}

/-! ## Texts -/

theorem toList_hostPort (text : String) (port : Nat) :
    (text ++ ":" ++ toString port).toList = text.toList ++ ':' :: Nat.toDigits 10 port := by
  simp

namespace IsOwnHost

theorem plain (h : IsOwnHost address host) :
    ∀ c ∈ host.text.toList, c ∈ '.' :: Url.plainChars := by
  rcases h with rfl | ⟨-, rfl⟩
  · intro c hc
    rw [Host.text, Ipv4.toList_text] at hc
    exact Url.mem_plain address.isPlainLabel_labels hc
  · exact Url.forall_mem_of_all (by decide)

theorem ofText?_text (h : IsOwnHost address host) : Host.ofText? host.text.toList = some host := by
  rcases h with rfl | ⟨-, rfl⟩
  · exact Host.ofText?_ipv4 address
  · decide +kernel

theorem toLower_text (h : IsOwnHost address host) : host.text.toLower = host.text := by
  rw [← String.toList_inj]
  show (host.text.map Char.toLower).toList = host.text.toList
  rw [String.toList_map]
  refine (List.map_congr_left fun c hc => ?_).trans (List.map_id' _)
  exact Url.toLower_of_plain c (h.plain c hc)

theorem mem_origin (h : IsOwnHost address host) {c : Char}
    (hc : c ∈ ("http://" ++ (host.text ++ ":" ++ toString port)).toList) :
    c ∈ '/' :: ':' :: '.' :: Url.plainChars := by
  rw [String.toList_append, toList_hostPort, List.mem_append, List.mem_append, List.mem_cons] at hc
  have hname : ∀ c ∈ "http://".toList, c ∈ '/' :: ':' :: '.' :: Url.plainChars :=
    Url.forall_mem_of_all (by decide)
  have hwider : ∀ c ∈ '.' :: Url.plainChars, c ∈ '/' :: ':' :: '.' :: Url.plainChars :=
    fun c hc => List.mem_cons_of_mem _ (List.mem_cons_of_mem _ hc)
  rcases hc with hscheme | htext | rfl | hdigit
  · exact hname c hscheme
  · exact hwider c (h.plain c htext)
  · decide
  · exact hwider c (List.mem_cons_of_mem _ ((Url.isPlainLabel_toDigits port).plain c hdigit))

theorem isPlain_origin (h : IsOwnHost address host) :
    Http.isPlain ("http://" ++ (host.text ++ ":" ++ toString port)) = true := by
  have hall : ∀ c ∈ '/' :: ':' :: '.' :: Url.plainChars,
      ((0x20 ≤ c.toNat && c.toNat < 0x7f) || c == '\t') = true := Url.forall_mem_of_all (by decide)
  exact List.all_eq_true.2 fun c hc => hall c (h.mem_origin hc)

/-- What the check makes of the own origin.  The customary port gets lost. -/
theorem authority?_origin (h : IsOwnHost address host) (hport : port ≤ 65535) :
    Url.authority? ("http://" ++ (host.text ++ ":" ++ toString port))
      = some ⟨host, if port = 80 then none else some port⟩ := by
  have hallowed : ∀ c ∈ host.text.toList, Host.isForbidden c = false := fun c hc =>
    Url.not_isForbidden_of_plain c (h.plain c hc)
  have htext : ("http://" ++ (host.text ++ ":" ++ toString port)).toList
      = Url.WebScheme.http.name.toList ++ ':' :: '/' :: '/' ::
        (host.text.toList ++ ':' :: Nat.toDigits 10 port) := by
    rw [String.toList_append, toList_hostPort]
    rfl
  exact Url.authority?_of_host hallowed h.ofText?_text hport htext

end IsOwnHost

/-! ## Hosts -/

theorem Config.alias?_of_loopback {text : String} {rest : List Char}
    (h : text.toList = "127.0.0.1:".toList ++ rest) :
    alias? text = some (String.ofList ("localhost:".toList ++ rest)) := by
  have hlength : "127.0.0.1:".length = "127.0.0.1:".toList.length := by decide
  unfold alias?
  simp only [h, hlength, List.drop_left]
  rw [if_pos (List.isPrefixOf_iff_prefix.2 (List.prefix_append _ _))]

theorem Config.colon_mem_of_alias? {text other : String} (h : alias? text = some other) :
    ':' ∈ other.toList := by
  unfold alias? at h
  simp only at h
  split at h
  · obtain rfl := Option.some.inj h
    rw [String.toList_ofList]
    exact List.mem_append_left _ (by decide)
  · contradiction

/-- The listener's own hosts are among those that requests may name. -/
theorem IsOwnHost.mem_hosts (h : IsOwnHost address host)
    (hlisten : config.host = address.text ++ ":" ++ toString port) :
    host.text ++ ":" ++ toString port ∈ config.hosts := by
  rcases h with rfl | ⟨rfl, rfl⟩
  · rw [Config.hosts, hlisten]
    exact List.mem_cons_self
  · have htext : config.host.toList = "127.0.0.1:".toList ++ Nat.toDigits 10 port := by
      rw [hlisten, toList_hostPort, show loopback.text = "127.0.0.1" by decide +kernel]
      rfl
    have halias : String.ofList ("localhost:".toList ++ Nat.toDigits 10 port)
        = Host.text (.name "localhost") ++ ":" ++ toString port := by
      rw [← String.toList_inj, String.toList_ofList, toList_hostPort]
      rfl
    rw [Config.hosts, Config.alias?_of_loopback htext, halias]
    simp

/-- All other hosts than those of the whitelist stand there with their port. -/
theorem Config.mem_hosts_cases {allowed : String}
    (hlisten : config.host = address.text ++ ":" ++ toString port) (h : allowed ∈ config.hosts) :
    ':' ∈ allowed.toList ∨ allowed ∈ config.whitelist := by
  rw [hosts, List.mem_append, List.mem_cons, Option.mem_toList] at h
  rcases h with (rfl | halias) | hlisted
  · rw [hlisten, toList_hostPort]
    exact Or.inl (List.mem_append_right _ List.mem_cons_self)
  · exact Or.inl (colon_mem_of_alias? halias)
  · exact Or.inr hlisted

/-- Only the whitelist can have an own host without its port. -/
theorem IsOwnHost.names_text_iff (h : IsOwnHost address host)
    (hlisten : config.host = address.text ++ ":" ++ toString port) :
    config.Names host.text ↔ ∃ allowed ∈ config.whitelist, allowed.toLower = host.text := by
  rw [Config.Names, h.toLower_text]
  constructor
  · rintro ⟨allowed, hallowed, hlower⟩
    -- A colon is the same in either case, and the text of a host has none.
    rcases Config.mem_hosts_cases hlisten hallowed with hcolon | hlisted
    · have hmem : ':' ∈ host.text.toList := by
        rw [← hlower]
        show ':' ∈ (allowed.map Char.toLower).toList
        rw [String.toList_map]
        exact List.mem_map.2 ⟨':', hcolon, rfl⟩
      exact absurd (h.plain ':' hmem) (by decide)
    · exact ⟨allowed, hlisted, hlower⟩
  · rintro ⟨allowed, hlisted, hlower⟩
    exact ⟨allowed, List.mem_append_right _ hlisted, hlower⟩

/-! ## The two checks -/

section

variable (hown : IsOwnHost address host)
  (hlisten : config.host = address.text ++ ":" ++ toString port)

include hown hlisten

theorem Dressing.origin_of_own
    (horigin : request.header? "origin"
      = some ("http://" ++ (host.text ++ ":" ++ toString port))) :
    (Dressing.of config request).origin
      = some ("http://" ++ (host.text ++ ":" ++ toString port)) := by
  have hvalue : Http.isHeaderValue ("http://" ++ (host.text ++ ":" ++ toString port)) = true :=
    isHeaderValue_of_isPlain hown.isPlain_origin
  have hmem : "http://" ++ (host.text ++ ":" ++ toString port) ∈ Dressing.origins config :=
    List.mem_filter.2 ⟨List.mem_map.2 ⟨_, hown.mem_hosts hlisten, rfl⟩, hvalue⟩
  simp only [Dressing.of, horigin]
  rw [Option.filter_some, if_pos (List.contains_iff_mem.2 hmem)]

theorem HostHeader.host_fits_own
    (hhost : request.header? "host" = some (host.text ++ ":" ++ toString port)) :
    HostHeader.host.Fits config request := by
  have horigin : Http.isPlain ("http://" ++ (host.text ++ ":" ++ toString port)) = true :=
    hown.isPlain_origin
  have hplain : Http.isPlain (host.text ++ ":" ++ toString port) = true := by
    refine List.all_eq_true.2 fun c hc => List.all_eq_true.1 horigin c ?_
    rw [String.toList_append]
    exact List.mem_append_right _ hc
  exact ⟨_, hhost, hplain, _, hown.mem_hosts hlisten, rfl⟩

theorem HostHeader.origin_fits_own_iff (hport : port ≤ 65535)
    (horigin : request.header? "origin"
      = some ("http://" ++ (host.text ++ ":" ++ toString port))) :
    HostHeader.origin.Fits config request ↔
      port ≠ 80 ∨ ∃ allowed ∈ config.whitelist, allowed.toLower = host.text := by
  have hfits : HostHeader.origin.Fits config request ↔
      config.Names (Url.Authority.text ⟨host, if port = 80 then none else some port⟩) := by
    simp only [HostHeader.Fits, horigin, Option.some.injEq, forall_eq', Config.NamesByUrl,
      hown.isPlain_origin, hown.authority?_origin hport, true_and, exists_eq_left']
  rw [hfits, ← hown.names_text_iff hlisten]
  by_cases hcustomary : port = 80
  · simp [hcustomary, Url.Authority.text]
  · have hnames : config.Names (host.text ++ ":" ++ toString port) :=
      ⟨_, hown.mem_hosts hlisten, rfl⟩
    simpa [hcustomary, Url.Authority.text] using hnames

end

/-- The listener's own origin may read responses.  It passes the check of the headers, if the
referer does, unless the port is the customary one and the whitelist does not name the host without
a port. -/
theorem own_origin_passes_iff (config : Config) (address : Ipv4) (port : Nat) (host : Host)
    (request : Request) (hport : port ≤ 65535) (hchecks : config.checksHeaders = true)
    (hlisten : config.host = address.text ++ ":" ++ toString port)
    (hown : IsOwnHost address host)
    (hhost : request.header? "host" = some (host.text ++ ":" ++ toString port))
    (horigin : request.header? "origin"
      = some ("http://" ++ (host.text ++ ":" ++ toString port))) :
    (Dressing.of config request).origin
        = some ("http://" ++ (host.text ++ ":" ++ toString port)) ∧
      (Gate.checkHeaders config request = .ok () ↔
        (port ≠ 80 ∨ ∃ allowed ∈ config.whitelist, allowed.toLower = host.text) ∧
          HostHeader.referer.Fits config request) ∧
      (port = 80 → (∀ allowed ∈ config.whitelist, allowed.toLower ≠ host.text) →
        Gate.checkHeaders config request = .error (.of .forbidden "Invalid Origin")) := by
  have hfits := HostHeader.host_fits_own hown hlisten hhost
  have hfits_iff := HostHeader.origin_fits_own_iff hown hlisten hport horigin
  refine ⟨Dressing.origin_of_own hown hlisten horigin, ?_, fun hcustomary hlisted => ?_⟩
  · rw [Gate.checkHeaders_eq_ok_iff hchecks, ← hfits_iff]
    constructor
    · exact fun hall => ⟨hall .origin, hall .referer⟩
    · rintro ⟨hfirst, hsecond⟩ (_ | _ | _)
      · exact hfits
      · exact hfirst
      · exact hsecond
  · have hrefused : ¬HostHeader.origin.Fits config request := by
      rw [hfits_iff]
      rintro (hother | ⟨allowed, hallowed, hlower⟩)
      · exact hother hcustomary
      · exact hlisted allowed hallowed hlower
    have hall : HostHeader.all = [.host] ++ .origin :: [.referer] := rfl
    exact Gate.checkHeaders_eq_error hchecks hall (by simpa using hfits) hrefused

/-- The origin of a listener at the loopback address passes under its alias. -/
theorem alias_origin_passes :
    let config : Config := {}
    let request : Request :=
      { method := .get
        target := { path := "/api/v1/features" }
        headers := [("Host", "localhost:9510"), ("Origin", "http://localhost:9510")] }
    9510 ≤ 65535 ∧ config.checksHeaders = true ∧
      config.host = loopback.text ++ ":" ++ toString 9510 ∧
      IsOwnHost loopback (.name "localhost") ∧
      request.header? "host" = some (Host.text (.name "localhost") ++ ":" ++ toString 9510) ∧
      request.header? "origin"
        = some ("http://" ++ (Host.text (.name "localhost") ++ ":" ++ toString 9510)) ∧
      (Dressing.of config request).origin
        = some ("http://" ++ (Host.text (.name "localhost") ++ ":" ++ toString 9510)) ∧
      Gate.checkHeaders config request = .ok () := by
  intro config request
  have hlisten : config.host = loopback.text ++ ":" ++ toString 9510 := by decide +kernel
  have hown : IsOwnHost loopback (.name "localhost") := Or.inr ⟨rfl, rfl⟩
  have hhost : request.header? "host"
      = some (Host.text (.name "localhost") ++ ":" ++ toString 9510) := by decide +kernel
  have horigin : request.header? "origin"
      = some ("http://" ++ (Host.text (.name "localhost") ++ ":" ++ toString 9510)) := by
    decide +kernel
  have hreferer : HostHeader.referer.Fits config request := by decide +kernel
  obtain ⟨hallowed, hpasses, -⟩ := own_origin_passes_iff config loopback 9510 (.name "localhost")
    request (by decide) rfl hlisten hown hhost horigin
  exact ⟨by decide, rfl, hlisten, hown, hhost, horigin, hallowed,
    hpasses.2 ⟨Or.inl (by decide), hreferer⟩⟩

/-- At the customary port the origin that may read responses is refused. -/
theorem own_origin_is_refused :
    let config : Config := { host := "127.0.0.1:80" }
    let request : Request :=
      { method := .get
        target := { path := "/api/v1/features" }
        headers := [("Host", "127.0.0.1:80"), ("Origin", "http://127.0.0.1:80")] }
    config.checksHeaders = true ∧ config.host = loopback.text ++ ":" ++ toString 80 ∧
      request.header? "host" = some config.host ∧
      request.header? "origin" = some ("http://" ++ config.host) ∧
      (Dressing.of config request).origin = some ("http://" ++ config.host) ∧
      Gate.checkHeaders config request = .error (.of .forbidden "Invalid Origin") := by
  intro config request
  refine ⟨rfl, ?_, ?_, ?_, ?_, ?_⟩ <;> decide +kernel

end WalletGateway.Api
