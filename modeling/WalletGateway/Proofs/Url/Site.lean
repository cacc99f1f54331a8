import Mathlib.Data.List.TakeWhile
import Mathlib.Tactic.Tauto
import WalletGateway.Url.Authority

/-!
# The site of a web address

A URL of the web names a site, which is a host with or without a port.  Around it stand the scheme
and slashes, what is said about the user, and the path with what follows it.

* `WebUrl` is such a URL, part by part, and `exists_webUrl` says that every URL of the web that has
  an authority is made of these parts.
* `authority?_of_text` says that the authority depends on the scheme and the site alone, so it is
  that of `WebUrl.bare`, where nothing else is left.
-/

namespace WalletGateway.Url

/-! ## Parts -/

/-- The schemes of web pages. -/
inductive WebScheme where
  | http | https
  deriving DecidableEq

namespace WebScheme

/-- The name of a scheme. -/
def name : WebScheme → String
  | http => "http"
  | https => "https"

/-- The customary port of a scheme. -/
def port : WebScheme → Nat
  | http => 80
  | https => 443

theorem kind_eq (scheme : WebScheme) : SchemeKind.of scheme.name = .web scheme.port := by
  cases scheme <;> rfl

theorem map_toLower_name (scheme : WebScheme) :
    scheme.name.toList.map Char.toLower = scheme.name.toList := by
  cases scheme <;> decide

end WebScheme

/-- The characters that end the authority of a URL of the web. -/
def ends : List Char :=
  ['/', '?', '#', '\\']

/-- A URL of the web, as it is written. -/
structure WebUrl where
  scheme : WebScheme
  /-- The name of the scheme, in small letters or capitals. -/
  schemeText : List Char
  schemeText_eq : schemeText.map Char.toLower = scheme.name.toList
  slashes : List Char
  slashes_only : ∀ c ∈ slashes, c = '/' ∨ c = '\\'
  /-- What is said about the user, if anything is. -/
  user : Option (List Char)
  user_inside : ∀ c ∈ user.getD [], c ∉ ends
  /-- The host, and the port if there is one. -/
  site : List Char
  site_ne_nil : site ≠ []
  site_inside : ∀ c ∈ site, c ≠ '@' ∧ c ∉ ends
  /-- The path, the query and the fragment. -/
  rest : List Char
  rest_outside : ∀ c ∈ rest.head?, c ∈ ends

namespace WebUrl

/-- What stands before the site in an authority. -/
def userText (url : WebUrl) : List Char :=
  match url.user with
  | none => []
  | some user => user ++ ['@']

/-- The text of a URL. -/
def text (url : WebUrl) : List Char :=
  url.schemeText ++ ':' :: (url.slashes ++ (url.userText ++ url.site ++ url.rest))

theorem two_slashes : ∀ c ∈ ['/', '/'], c = '/' ∨ c = '\\' := by
  simp

/-- The URL of a site with something behind it, written the usual way. -/
def ofSite (scheme : WebScheme) (site rest : List Char) (hsome : site ≠ [])
    (hinside : ∀ c ∈ site, c ≠ '@' ∧ c ∉ ends) (houtside : ∀ c ∈ rest.head?, c ∈ ends) :
    WebUrl where
  scheme := scheme
  schemeText := scheme.name.toList
  schemeText_eq := scheme.map_toLower_name
  slashes := ['/', '/']
  slashes_only := two_slashes
  user := none
  user_inside := fun _ hc => absurd hc List.not_mem_nil
  site := site
  site_ne_nil := hsome
  site_inside := hinside
  rest := rest
  rest_outside := houtside

theorem text_ofSite {scheme : WebScheme} {site rest : List Char} {hsome : site ≠ []}
    {hinside : ∀ c ∈ site, c ≠ '@' ∧ c ∉ ends} {houtside : ∀ c ∈ rest.head?, c ∈ ends} :
    (ofSite scheme site rest hsome hinside houtside).text
      = scheme.name.toList ++ ':' :: '/' :: '/' :: (site ++ rest) :=
  rfl

/-- The URL of a site and nothing else. -/
def bare (url : WebUrl) : String :=
  String.ofList (url.scheme.name.toList ++ ':' :: '/' :: '/' :: (url.site ++ ['/']))

end WebUrl

/-! ## Lists -/

/-- What holds of all entries of a list can be decided entry by entry, also where there is a way to
go through all characters. -/
theorem forall_mem_of_all {α : Type} {p : α → Prop} [DecidablePred p] {list : List α}
    (h : list.all (fun x => decide (p x)) = true) : ∀ x ∈ list, p x :=
  fun x hx => of_decide_eq_true (List.all_eq_true.1 h x hx)

section

variable {α : Type} {p : α → Bool} {inside outside : List α}

theorem takeWhile_of_boundary (hinside : ∀ x ∈ inside, p x = true)
    (houtside : ∀ x ∈ outside.head?, p x = false) : (inside ++ outside).takeWhile p = inside := by
  rw [List.takeWhile_append_of_pos hinside]
  cases outside with
  | nil => simp
  | cons first rest => simp [houtside first rfl]

theorem dropWhile_of_boundary (hinside : ∀ x ∈ inside, p x = true)
    (houtside : ∀ x ∈ outside.head?, p x = false) : (inside ++ outside).dropWhile p = outside := by
  rw [List.dropWhile_append_of_pos hinside]
  cases outside with
  | nil => simp
  | cons first rest => simp [houtside first rfl]

theorem head?_dropWhile_eq_false {list : List α} : ∀ x ∈ (list.dropWhile p).head?, p x = false := by
  intro x hx
  have hsome : list.dropWhile p ≠ [] := by
    rintro hnil
    simp [hnil] at hx
  have hhead := List.head_dropWhile_not p hsome
  rw [List.head?_eq_some_head hsome, Option.mem_some_iff] at hx
  rw [← hx]
  simpa using hhead

end

/-! ## Reading a scheme -/

theorem isAlpha_of_toLower {c : Char} (h : c.toLower.isAlpha = true) : c.isAlpha = true := by
  by_cases hupper : c.isUpper = true
  · show (c.isUpper || c.isLower) = true
    rw [hupper, Bool.true_or]
  · have hsame : c.toLower = c := by
      unfold Char.toLower
      exact dif_neg fun hc => hupper (decide_eq_true hc)
    rwa [hsame] at h

theorem isSchemeChar_of_isAlpha {c : Char} (h : c.isAlpha = true) : isSchemeChar c = true := by
  simp [isSchemeChar, Char.isAlphanum, h]

theorem WebScheme.isAlpha_of_mem {scheme : WebScheme} :
    ∀ c ∈ scheme.name.toList, c.isAlpha = true := by
  cases scheme <;> exact forall_mem_of_all (by decide)

theorem WebScheme.lt_of_mem {scheme : WebScheme} : ∀ c ∈ scheme.name.toList, 0x20 < c.toNat := by
  cases scheme <;> exact forall_mem_of_all (by decide)

theorem WebScheme.name_ne_nil (scheme : WebScheme) : scheme.name.toList ≠ [] := by
  cases scheme <;> decide

namespace WebUrl

variable (url : WebUrl)

theorem isAlpha_of_mem {c : Char} (h : c ∈ url.schemeText) : c.isAlpha = true := by
  have hname : c.toLower ∈ url.scheme.name.toList := by
    rw [← url.schemeText_eq]
    exact List.mem_map_of_mem h
  exact isAlpha_of_toLower (WebScheme.isAlpha_of_mem _ hname)

theorem schemeText_ne_nil : url.schemeText ≠ [] := by
  intro hnil
  have hname := url.schemeText_eq
  rw [hnil, List.map_nil] at hname
  exact url.scheme.name_ne_nil hname.symm

end WebUrl

theorem scheme?_append {scheme rest : List Char} (hsome : scheme ≠ [])
    (h : ∀ c ∈ scheme, c.isAlpha = true) :
    scheme? (scheme ++ ':' :: rest) = some (String.ofList (scheme.map Char.toLower), rest) := by
  have hscheme : (scheme ++ ':' :: rest).takeWhile isSchemeChar = scheme := by
    refine takeWhile_of_boundary (fun c hc => isSchemeChar_of_isAlpha (h c hc)) ?_
    rintro c hc
    obtain rfl : ':' = c := by simpa using hc
    decide
  obtain ⟨first, others, rfl⟩ := List.exists_cons_of_ne_nil hsome
  have hfirst : (first :: others ++ ':' :: rest).head? = some first := rfl
  have hdrop : (first :: others ++ ':' :: rest).drop (first :: others).length = ':' :: rest :=
    List.drop_left
  simp only [scheme?, hscheme, hfirst, hdrop, h first List.mem_cons_self, if_true]

/-- Where a scheme is read, its name stands in front. -/
theorem eq_of_scheme? {text rest : List Char} {scheme : String}
    (h : scheme? text = some (scheme, rest)) :
    ∃ written, text = written ++ ':' :: rest ∧ written.map Char.toLower = scheme.toList := by
  unfold scheme? at h
  simp only at h
  split at h
  · rename_i first others hfirst hdrop
    split at h
    · obtain ⟨rfl, rfl⟩ := Prod.mk.inj (Option.some.inj h)
      refine ⟨text.takeWhile isSchemeChar, ?_, String.toList_ofList.symm⟩
      have hrest := @List.drop_left _ (text.takeWhile isSchemeChar) (text.dropWhile isSchemeChar)
      rw [List.takeWhile_append_dropWhile, hdrop] at hrest
      rw [hrest, List.takeWhile_append_dropWhile]
    · contradiction
  · contradiction

/-! ## Reading a site -/

theorem isEnd_web_iff {port : Nat} {c : Char} : isEnd (.web port) c = true ↔ c ∈ ends := by
  simp [isEnd, SchemeKind.takesBackslash, ends, or_assoc]

theorem hostPart_append {user site : List Char} (huser : ∀ c ∈ user.getLast?, c = '@')
    (hsite : '@' ∉ site) : hostPart (user ++ site) = site := by
  have hback : (site.reverse ++ user.reverse).takeWhile (· != '@') = site.reverse := by
    refine takeWhile_of_boundary (fun c hc => ?_) fun c hc => ?_
    · rw [bne_iff_ne]
      rintro rfl
      exact hsite (List.mem_reverse.1 hc)
    · rw [List.head?_reverse] at hc
      simp [huser c hc]
  rw [hostPart, List.reverse_append, hback, List.reverse_reverse]

/-- The host part of an authority is its end, behind an `@` if there is one. -/
theorem eq_append_hostPart (authority : List Char) :
    ('@' ∉ authority ∧ hostPart authority = authority) ∨
      ∃ user, authority = user ++ '@' :: hostPart authority := by
  have hback := List.takeWhile_append_dropWhile (p := (· != '@')) (l := authority.reverse)
  have hhead : ∀ c ∈ (authority.reverse.dropWhile (· != '@')).head?, (c != '@') = false :=
    head?_dropWhile_eq_false
  cases hrest : authority.reverse.dropWhile (· != '@') with
  | nil =>
    left
    rw [hrest, List.append_nil] at hback
    constructor
    · intro hmem
      rw [← List.mem_reverse, ← hback] at hmem
      simpa using List.mem_takeWhile_imp hmem
    · rw [hostPart, hback, List.reverse_reverse]
  | cons first others =>
    right
    obtain rfl : first = '@' := by simpa [hrest] using hhead
    refine ⟨others.reverse, ?_⟩
    rw [hrest] at hback
    have hall := congrArg List.reverse hback
    simp only [List.reverse_append, List.reverse_cons, List.reverse_reverse, List.append_assoc,
      List.singleton_append] at hall
    rw [hostPart, hall]

theorem mem_of_mem_hostPart {authority : List Char} {c : Char} (h : c ∈ hostPart authority) :
    c ∈ authority :=
  List.mem_reverse.1 ((List.takeWhile_prefix _).subset (List.mem_reverse.1 h))

theorem ne_at_of_mem_hostPart {authority : List Char} {c : Char} (h : c ∈ hostPart authority) :
    c ≠ '@' := by
  simpa using List.mem_takeWhile_imp (List.mem_reverse.1 h)

theorem hostPart_ne_nil {kind : SchemeKind} {text : List Char} {authority : Authority}
    (h : authorityOf? kind text = some authority) :
    hostPart (text.takeWhile fun c => !isEnd kind c) ≠ [] := by
  intro hnil
  unfold authorityOf? at h
  rw [hnil] at h
  simp [cutPort] at h

theorem authorityOf?_congr {kind : SchemeKind} {text other : List Char}
    (h : hostPart (text.takeWhile fun c => !isEnd kind c)
      = hostPart (other.takeWhile fun c => !isEnd kind c)) :
    authorityOf? kind text = authorityOf? kind other := by
  unfold authorityOf?
  rw [h]

namespace WebUrl

variable (url : WebUrl)

theorem userText_inside {c : Char} (h : c ∈ url.userText) : c ∉ ends := by
  unfold userText at h
  have hinside := url.user_inside
  split at h
  · contradiction
  · rename_i user huser
    rcases List.mem_append.1 h with hmem | hmem
    · exact hinside c (by simpa [huser] using hmem)
    · obtain rfl := List.mem_singleton.1 hmem
      decide

theorem userText_getLast? : ∀ c ∈ url.userText.getLast?, c = '@' := by
  unfold userText
  split <;> simp

/-- The authority starts where the slashes end. -/
theorem head?_site : ∀ c ∈ (url.userText ++ url.site ++ url.rest).head?, c ∉ ends := by
  intro c hc
  have hmem : c ∈ url.userText ++ url.site := by
    have hsome : url.userText ++ url.site ≠ [] := by simp [url.site_ne_nil]
    obtain ⟨first, others, hcons⟩ := List.exists_cons_of_ne_nil hsome
    rw [hcons] at hc ⊢
    obtain rfl : first = c := by simpa using hc
    exact List.mem_cons_self
  rcases List.mem_append.1 hmem with huser | hsite
  · exact url.userText_inside huser
  · exact (url.site_inside c hsite).2

/-- A site is a host part by itself. -/
theorem hostPart_site (port : Nat) :
    hostPart (url.site.takeWhile fun c => !isEnd (.web port) c) = url.site := by
  have hsite : url.site.takeWhile (fun c => !isEnd (.web port) c) = url.site := by
    rw [List.takeWhile_eq_self_iff]
    intro c hc
    rw [Bool.not_eq_true', ← Bool.not_eq_true, isEnd_web_iff]
    exact (url.site_inside c hc).2
  rw [hsite, ← List.nil_append url.site]
  exact hostPart_append (by simp) fun hmem => (url.site_inside '@' hmem).1 rfl

/-- The authority of a URL of the web is read off its scheme and its site. -/
theorem authority?_of_text {value : String} (h : clean value.toList = url.text) :
    authority? value = authorityOf? (.web url.scheme.port) url.site := by
  have hscheme : scheme? (clean value.toList)
      = some (url.scheme.name, url.slashes ++ (url.userText ++ url.site ++ url.rest)) := by
    rw [h, text, scheme?_append url.schemeText_ne_nil fun c => url.isAlpha_of_mem,
      url.schemeText_eq, String.ofList_toList]
  have hslashes : (url.slashes ++ (url.userText ++ url.site ++ url.rest)).dropWhile
      (fun c => c == '/' || c == '\\') = url.userText ++ url.site ++ url.rest := by
    refine dropWhile_of_boundary (fun c hc => ?_) fun c hc => ?_
    · simpa using url.slashes_only c hc
    · have hinside := url.head?_site c hc
      simp only [ends, List.mem_cons, not_or] at hinside
      simp [hinside.1, hinside.2.2.2.1]
  have hauthority : (url.userText ++ url.site ++ url.rest).takeWhile
      (fun c => !isEnd (.web url.scheme.port) c) = url.userText ++ url.site := by
    refine takeWhile_of_boundary (fun c hc => ?_) fun c hc => ?_
    · have hinside : c ∉ ends := by
        rcases List.mem_append.1 hc with huser | hsite
        · exact url.userText_inside huser
        · exact (url.site_inside c hsite).2
      rw [Bool.not_eq_true', ← Bool.not_eq_true, isEnd_web_iff]
      exact hinside
    · rw [Bool.not_eq_false', isEnd_web_iff]
      exact url.rest_outside c hc
  have hat : '@' ∉ url.site := fun hmem => (url.site_inside '@' hmem).1 rfl
  unfold authority?
  rw [hscheme]
  simp only [Option.bind_eq_bind, Option.bind_some, url.scheme.kind_eq, hslashes]
  refine authorityOf?_congr ?_
  rw [hauthority, hostPart_append url.userText_getLast? hat, url.hostPart_site]

end WebUrl

/-! ## Ports -/

theorem port?_ne_customary {port other : Nat} {digits : List Char}
    (h : port? (.web port) digits = some (some other)) : other ≠ port := by
  unfold port? at h
  split at h
  · simp at h
  · split at h
    · contradiction
    · simp only at h
      split at h
      · contradiction
      · split at h
        · simp at h
        · rename_i hport
          rintro rfl
          obtain rfl : Decimal.value digits = other := by simpa using h
          exact hport rfl

/-- The customary port of a scheme is left out of an authority. -/
theorem authorityOf?_port_ne {port : Nat} {text : List Char} {authority : Authority}
    (h : authorityOf? (.web port) text = some authority) : authority.port ≠ some port := by
  unfold authorityOf? at h
  split at h
  rename_i host digits hcut
  split at h
  · contradiction
  · obtain ⟨host, -, h⟩ := Option.bind_eq_some_iff.1 h
    obtain ⟨other, hother, h⟩ := Option.bind_eq_some_iff.1 h
    obtain rfl := Option.some.inj h
    rintro rfl
    exact port?_ne_customary hother rfl

theorem WebUrl.port_ne {url : WebUrl} {value : String} {authority : Authority}
    (htext : clean value.toList = url.text) (h : authority? value = some authority) :
    authority.port ≠ some url.scheme.port := by
  rw [url.authority?_of_text htext] at h
  exact authorityOf?_port_ne h

/-! ## Blanks -/

/-- Cleaning takes characters away, and among them all tabs and line ends. -/
theorem mem_clean {text : List Char} {c : Char} (h : c ∈ clean text) :
    c ∈ text ∧ c ≠ '\t' ∧ c ≠ '\n' ∧ c ≠ '\r' := by
  obtain ⟨hmem, hkept⟩ := List.mem_filter.1 h
  have hback := (List.dropWhile_suffix _).subset (List.mem_reverse.1 hmem)
  have hmem := (List.dropWhile_suffix _).subset (List.mem_reverse.1 hback)
  simp only [Bool.and_eq_true, bne_iff_ne] at hkept
  exact ⟨hmem, hkept.1.1, hkept.1.2, hkept.2⟩

theorem ne_of_visible {c : Char} (h : 0x20 < c.toNat) : c ≠ '\t' ∧ c ≠ '\n' ∧ c ≠ '\r' := by
  refine ⟨?_, ?_, ?_⟩ <;> rintro rfl <;> simp at h

theorem clean_eq_self {text : List Char} (hfirst : ∀ c ∈ text.head?, 0x20 < c.toNat)
    (hlast : ∀ c ∈ text.getLast?, 0x20 < c.toNat)
    (hinside : ∀ c ∈ text, c ≠ '\t' ∧ c ≠ '\n' ∧ c ≠ '\r') : clean text = text := by
  have hedge : ∀ list : List Char, (∀ c ∈ list.head?, 0x20 < c.toNat) →
      list.dropWhile (fun c => decide (c.toNat ≤ 0x20)) = list := by
    intro list hhead
    have hempty : ∀ c ∈ ([] : List Char), decide (c.toNat ≤ 0x20) = true := by simp
    exact dropWhile_of_boundary hempty fun c hc => decide_eq_false (Nat.not_le.2 (hhead c hc))
  unfold clean
  simp only
  rw [hedge text hfirst, hedge text.reverse (by rwa [List.head?_reverse]), List.reverse_reverse,
    List.filter_eq_self]
  intro c hc
  obtain ⟨htab, hline, hreturn⟩ := hinside c hc
  simp [htab, hline, hreturn]

theorem clean_of_visible {text : List Char} (h : ∀ c ∈ text, 0x20 < c.toNat) : clean text = text :=
  clean_eq_self (fun c hc => h c (List.mem_of_mem_head? hc))
    (fun c hc => h c (List.mem_of_mem_getLast? hc)) fun c hc => ne_of_visible (h c hc)

namespace WebUrl

/-- The parts of the URL of a site and nothing else. -/
def bareUrl (url : WebUrl) : WebUrl :=
  ofSite url.scheme url.site ['/'] url.site_ne_nil url.site_inside fun _ hc =>
    Option.some.inj hc ▸ List.mem_cons_self

theorem text_bareUrl (url : WebUrl) : url.bareUrl.text = url.bare.toList := by
  rw [bareUrl, text_ofSite, bare, String.toList_ofList]

theorem mem_text_of_site {url : WebUrl} {c : Char} (h : c ∈ url.site) : c ∈ url.text := by
  simp [text, h]

theorem mem_bare {url : WebUrl} {c : Char} (h : c ∈ url.bare.toList) :
    c ∈ url.scheme.name.toList ∨ c = ':' ∨ c = '/' ∨ c ∈ url.site := by
  simp only [bare, String.toList_ofList, List.mem_append, List.mem_cons, List.not_mem_nil] at h
  tauto

theorem clean_bare {url : WebUrl} {value : String} (h : clean value.toList = url.text) :
    clean url.bare.toList = url.bare.toList := by
  refine clean_eq_self (fun c hc => ?_) (fun c hc => ?_) fun c hc => ?_
  · obtain ⟨first, others, hname⟩ := List.exists_cons_of_ne_nil url.scheme.name_ne_nil
    rw [bare, String.toList_ofList, hname] at hc
    obtain rfl : first = c := by simpa using hc
    exact WebScheme.lt_of_mem _ (hname ▸ List.mem_cons_self)
  · have hlast : url.bare.toList
        = (url.scheme.name.toList ++ ':' :: '/' :: '/' :: url.site) ++ ['/'] := by
      simp [bare]
    rw [hlast, List.getLast?_concat] at hc
    obtain rfl := Option.mem_some_iff.1 hc
    decide
  · rcases mem_bare hc with hname | rfl | rfl | hsite
    · exact ne_of_visible (WebScheme.lt_of_mem _ hname)
    · decide
    · decide
    · exact (mem_clean (h ▸ mem_text_of_site hsite)).2

/-- A URL has the authority of its site, whatever else it says. -/
theorem authority?_bare {url : WebUrl} {value : String} (h : clean value.toList = url.text) :
    authority? value = authority? url.bare := by
  have hclean : clean url.bare.toList = url.bareUrl.text :=
    (clean_bare h).trans url.text_bareUrl.symm
  rw [url.authority?_of_text h, url.bareUrl.authority?_of_text hclean]
  rfl

end WebUrl

/-- A URL of the web that has an authority is made of the parts of one. -/
theorem exists_webUrl {value : String} {scheme : WebScheme} {behind : List Char}
    {authority : Authority} (hscheme : scheme? (clean value.toList) = some (scheme.name, behind))
    (h : authority? value = some authority) :
    ∃ url : WebUrl, url.scheme = scheme ∧ clean value.toList = url.text := by
  obtain ⟨written, htext, hwritten⟩ := eq_of_scheme? hscheme
  have hauthority : authorityOf? (.web scheme.port)
      (behind.dropWhile fun c => c == '/' || c == '\\') = some authority := by
    unfold authority? at h
    rw [hscheme] at h
    simp only [Option.bind_eq_bind, Option.bind_some, scheme.kind_eq] at h
    exact h
  -- The text behind the slashes falls into the authority and the rest, and the authority into what
  -- is said about the user and the site.
  let isSlash : Char → Bool := fun c => c == '/' || c == '\\'
  let isInside : Char → Bool := fun c => !isEnd (.web scheme.port) c
  let part := (behind.dropWhile isSlash).takeWhile isInside
  let rest := (behind.dropWhile isSlash).dropWhile isInside
  have hbehind : behind = behind.takeWhile isSlash ++ (part ++ rest) := by
    rw [List.takeWhile_append_dropWhile, List.takeWhile_append_dropWhile]
  have hslashes : ∀ c ∈ behind.takeWhile isSlash, c = '/' ∨ c = '\\' := by
    intro c hc
    simpa [isSlash] using List.mem_takeWhile_imp hc
  have hpart : ∀ c ∈ part, c ∉ ends := by
    intro c hc
    have hinside := List.mem_takeWhile_imp hc
    rwa [Bool.not_eq_true', ← Bool.not_eq_true, isEnd_web_iff] at hinside
  have hrest : ∀ c ∈ rest.head?, c ∈ ends := by
    intro c hc
    have houtside := head?_dropWhile_eq_false c hc
    rwa [Bool.not_eq_false', isEnd_web_iff] at houtside
  have hsite : hostPart part ≠ [] := hostPart_ne_nil hauthority
  have hinside : ∀ c ∈ hostPart part, c ≠ '@' ∧ c ∉ ends := fun c hc =>
    ⟨ne_at_of_mem_hostPart hc, hpart c (mem_of_mem_hostPart hc)⟩
  have hwhole : clean value.toList
      = written ++ ':' :: (behind.takeWhile isSlash ++ (part ++ rest)) :=
    htext.trans (congrArg (written ++ ':' :: ·) hbehind)
  rcases eq_append_hostPart part with ⟨-, hbare⟩ | ⟨user, huser⟩
  · refine ⟨⟨scheme, written, hwritten, _, hslashes, none, by simp, hostPart part, hsite, hinside,
      rest, hrest⟩, rfl, ?_⟩
    simp only [WebUrl.text, WebUrl.userText, List.nil_append, hbare]
    exact hwhole
  · have hopen : ∀ c ∈ user, c ∉ ends := by
      intro c hc
      refine hpart c ?_
      rw [huser]
      exact List.mem_append_left _ hc
    have hpieces : part = user ++ ['@'] ++ hostPart part := by simpa using huser
    refine ⟨⟨scheme, written, hwritten, _, hslashes, some user, by simpa using hopen, hostPart part,
      hsite, hinside, rest, hrest⟩, rfl, ?_⟩
    simp only [WebUrl.text, WebUrl.userText, ← hpieces]
    exact hwhole

end WalletGateway.Url
