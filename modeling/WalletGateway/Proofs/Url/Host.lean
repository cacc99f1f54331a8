import WalletGateway.Proofs.Json.Scalars
import WalletGateway.Proofs.Url.Site

/-!
# Hosts that are read as they are written

Small letters, digits and hyphens stand for themselves in the labels of a host, so that a name made
of them is its own ASCII form unless one of its labels claims to be in Punycode.

* `Host.ofText?_plain` says how such a name is read, and `Host.ofText?_ipv4` that the text of an
  IPv4 address is read as that address.
* `authority?_of_host` says how a URL is read that consists of a scheme, a host and a port.  The
  customary port of the scheme gets lost.
-/

namespace WalletGateway

/-! ## Numbers -/

namespace Decimal

theorem isNumeral_toDigits (number : Nat) : isNumeral (Nat.toDigits 10 number) = true := by
  have hdigits : ∀ c ∈ Nat.toDigits 10 number, '0' ≤ c ∧ c ≤ '9' := by
    intro c hc
    have hdigit := Nat.isDigit_of_mem_toDigits (by omega) (by omega) hc
    simpa [Char.isDigit, Char.le_def] using hdigit
  simpa [isNumeral, Nat.toDigits_ne_nil] using hdigits

theorem value_toDigits (number : Nat) : value (Nat.toDigits 10 number) = number := by
  have hfold : ∀ (digits : List Char) (start : Nat),
      digits.foldl (fun number c => number * 10 + digitValue c) start
        = Nat.ofDigitChars 10 digits start := by
    intro digits
    induction digits with
    | nil => exact fun _ => rfl
    | cons c digits ih =>
      intro start
      rw [List.foldl_cons, ih, Nat.mul_comm]
      rfl
  rw [value, hfold, Nat.ofDigitChars_toDigits (by omega) (by omega)]

end Decimal

/-! ## Pieces -/

namespace Text

variable {α : Type} {separator : α}

theorem mem_intercalate {pieces : List (List α)} {c : α}
    (h : c ∈ [separator].intercalate pieces) : c = separator ∨ ∃ piece ∈ pieces, c ∈ piece := by
  induction pieces with
  | nil => simp [List.intercalate] at h
  | cons piece pieces ih =>
    cases pieces with
    | nil =>
      rw [List.intercalate_singleton] at h
      exact Or.inr ⟨piece, List.mem_cons_self, h⟩
    | cons next pieces =>
      rw [List.intercalate_cons_cons, List.mem_append, List.mem_append, List.mem_singleton] at h
      rcases h with (hpiece | rfl) | hrest
      · exact Or.inr ⟨piece, List.mem_cons_self, hpiece⟩
      · exact Or.inl rfl
      · rcases ih hrest with rfl | ⟨other, hother, hmem⟩
        · exact Or.inl rfl
        · exact Or.inr ⟨other, List.mem_cons_of_mem _ hother, hmem⟩

variable [DecidableEq α]

theorem split_eq_splitOn (list : List α) : split separator list = list.splitOn separator := by
  induction list with
  | nil => rw [split, List.splitOn_nil]
  | cons first rest ih =>
    rw [split, ih, List.splitOn_cons_eq_if_modifyHead]
    simp only [beq_iff_eq]
    split
    · rfl
    · obtain ⟨piece, pieces, hpieces⟩ :=
        List.exists_cons_of_ne_nil (List.splitOn_ne_nil separator rest)
      rw [hpieces]
      rfl

theorem split_intercalate {pieces : List (List α)} (hsome : pieces ≠ [])
    (h : ∀ piece ∈ pieces, separator ∉ piece) :
    split separator ([separator].intercalate pieces) = pieces := by
  rw [split_eq_splitOn, List.splitOn_intercalate _ h hsome]

end Text

theorem mapM_eq_self {α : Type} {read? : α → Option α} {list : List α}
    (h : ∀ x ∈ list, read? x = some x) : list.mapM read? = some list := by
  induction list with
  | nil => rfl
  | cons first rest ih =>
    rw [List.mapM_cons, h first List.mem_cons_self,
      ih fun x hx => h x (List.mem_cons_of_mem _ hx)]
    rfl

/-- Without the sign nothing is percent-encoded. -/
theorem Percent.decode_eq_self {bytes : List UInt8} (h : 37 ∉ bytes) : decode bytes = bytes := by
  induction bytes with
  | nil => rw [decode]
  | cons byte bytes ih =>
    have hbyte : byte ≠ 37 := fun heq => h (heq ▸ List.mem_cons_self)
    rw [decode, ih fun hmem => h (List.mem_cons_of_mem _ hmem)]
    rintro high low rest rfl
    exact absurd rfl hbyte

namespace Url

/-! ## Plain labels -/

/-- The characters that stand for themselves in a label. -/
def plainChars : List Char :=
  "abcdefghijklmnopqrstuvwxyz0123456789-".toList

/-- A label of characters that stand for themselves, which does not claim to be in Punycode. -/
structure IsPlainLabel (label : List Char) : Prop where
  plain : ∀ c ∈ label, c ∈ plainChars
  unmarked : ¬Domain.mark <+: label

theorem toNat_lt_of_plain : ∀ c ∈ '.' :: plainChars, c.toNat < 0x80 :=
  forall_mem_of_all (by decide)

theorem toLower_of_plain : ∀ c ∈ '.' :: plainChars, c.toLower = c :=
  forall_mem_of_all (by decide)

theorem utf8_of_plain : ∀ c ∈ '.' :: plainChars, 37 ∉ String.utf8EncodeChar c :=
  forall_mem_of_all (by decide)

theorem not_isForbidden_of_plain : ∀ c ∈ '.' :: plainChars, Host.isForbidden c = false :=
  forall_mem_of_all (by decide)

theorem mem_plainChars_of_isDigit {c : Char} (h : c.isDigit = true) : c ∈ plainChars := by
  have hall : ∀ digit : Fin 10, Char.ofNat (48 + digit.val) ∈ plainChars := by decide
  obtain ⟨hlow, hhigh⟩ : 48 ≤ c.toNat ∧ c.toNat ≤ 57 := by
    simpa [Char.isDigit, UInt32.le_iff_toNat_le] using h
  have hc := hall ⟨c.toNat - 48, by omega⟩
  rwa [Nat.add_sub_of_le hlow, Char.ofNat_toNat] at hc

/-- The digits of a number are a plain label. -/
theorem isPlainLabel_toDigits (number : Nat) : IsPlainLabel (Nat.toDigits 10 number) := by
  have hdigit : ∀ c ∈ Nat.toDigits 10 number, c.isDigit = true := fun c hc =>
    Nat.isDigit_of_mem_toDigits (by omega) (by omega) hc
  refine ⟨fun c hc => mem_plainChars_of_isDigit (hdigit c hc), fun hmark => ?_⟩
  exact absurd (hdigit 'x' (hmark.subset (by decide))) (by decide)

section

variable {labels : List (List Char)} (hplain : ∀ label ∈ labels, IsPlainLabel label)

include hplain

theorem mem_plain {c : Char} (h : c ∈ ['.'].intercalate labels) : c ∈ '.' :: plainChars := by
  rcases Text.mem_intercalate h with rfl | ⟨label, hlabel, hc⟩
  · exact List.mem_cons_self
  · exact List.mem_cons_of_mem _ ((hplain label hlabel).plain c hc)

theorem split_plain (hsome : labels ≠ []) :
    Text.split '.' (['.'].intercalate labels) = labels := by
  refine Text.split_intercalate hsome fun label hlabel hdot => ?_
  exact absurd ((hplain label hlabel).plain '.' hdot) (by decide)

theorem Domain.folded_plain :
    Domain.folded (['.'].intercalate labels) = ['.'].intercalate labels := by
  -- In ASCII nothing is taken apart and nothing is composed; only capitals would be folded.
  have hlow : ∀ c ∈ ['.'].intercalate labels, c.toNat < 0x80 := fun c hc =>
    toNat_lt_of_plain c (mem_plain hplain hc)
  have hdecompose : ∀ c ∈ ['.'].intercalate labels, Text.decompose c = [c] := by
    intro c hc
    have := hlow c hc
    exact if_pos (by omega)
  have hfold : ∀ c ∈ ['.'].intercalate labels, Folding.fold c = [c] := by
    intro c hc
    unfold Folding.fold
    simp only [hlow c hc, if_true, toLower_of_plain c (mem_plain hplain hc)]
  have hdecomposed : Text.decomposed (['.'].intercalate labels) = ['.'].intercalate labels := by
    rw [Text.decomposed, List.flatMap_def, List.map_congr_left hdecompose, ← List.flatMap_def,
      List.flatMap_singleton']
  have hfolded : (['.'].intercalate labels).flatMap Folding.fold = ['.'].intercalate labels := by
    rw [List.flatMap_def, List.map_congr_left hfold, ← List.flatMap_def, List.flatMap_singleton']
  rw [Domain.folded, hdecomposed, hfolded, Text.composed, if_pos]
  rw [List.all_eq_true]
  intro c hc
  have := hlow c hc
  exact decide_eq_true (by omega)

theorem Domain.toAscii?_plain (hsome : labels ≠ []) :
    Domain.toAscii? (['.'].intercalate labels) = some (['.'].intercalate labels) := by
  have hlow : ∀ label ∈ labels, ∀ c ∈ label, c.toNat < 0x80 := fun label hlabel c hc =>
    toNat_lt_of_plain c (List.mem_cons_of_mem _ ((hplain label hlabel).plain c hc))
  have hascii : ∀ label ∈ labels, Label.isAscii label = true := fun label hlabel =>
    List.all_eq_true.2 fun c hc => decide_eq_true (hlow label hlabel c hc)
  have hread : labels.mapM Domain.label? = some labels := by
    have hlabel : ∀ label ∈ labels, Domain.label? label = some label := by
      intro label hlabel
      unfold Domain.label?
      rw [if_neg]
      simpa using (hplain label hlabel).unmarked
    exact mapM_eq_self hlabel
  have hvalid : labels.all Label.isValid = true := by
    refine List.all_eq_true.2 fun label hlabel => ?_
    rw [Label.isValid, hascii label hlabel, Bool.true_or]
  have hdirection : Label.keepDirection labels = true := by
    have hnone : labels.any (·.any Label.isDirecting) = false := by
      rw [List.any_eq_false]
      intro label hlabel
      rw [Bool.not_eq_true, List.any_eq_false]
      intro c hc
      have := hlow label hlabel c hc
      simp only [Label.isDirecting, Bool.and_eq_true, decide_eq_true_eq, not_and]
      omega
    rw [Label.keepDirection, hnone, Bool.not_false, Bool.true_or]
  have hwritten : labels.map Domain.written = labels := by
    refine (List.map_congr_left fun label hlabel => ?_).trans (List.map_id' labels)
    exact if_pos (hascii label hlabel)
  rw [Domain.toAscii?, Domain.folded_plain hplain, split_plain hplain hsome]
  simp only [hread, Option.bind_eq_bind, Option.bind_some, hvalid, hdirection, Bool.and_self,
    if_true, hwritten]

/-- A plain name is an IPv4 address if it ends in a number, and else stands for itself. -/
theorem Host.ofText?_plain (hsome : ['.'].intercalate labels ≠ []) :
    Host.ofText? (['.'].intercalate labels)
      = if Ipv4.endsInNumber (['.'].intercalate labels) then
          (Ipv4.ofText? (['.'].intercalate labels)).map .ipv4
        else some (.name (String.ofList (['.'].intercalate labels))) := by
  have hlabels : labels ≠ [] := by
    rintro rfl
    exact hsome rfl
  have hbytes : 37 ∉ Text.utf8 (String.ofList (['.'].intercalate labels)) := by
    rw [Text.utf8_ofList]
    intro hmem
    obtain ⟨c, hc, hbyte⟩ := List.mem_flatMap.1 hmem
    exact utf8_of_plain c (mem_plain hplain hc) hbyte
  have hdecoded :
      Text.ofUtf8? (Percent.decode (Text.utf8 (String.ofList (['.'].intercalate labels))))
        = some (String.ofList (['.'].intercalate labels)) := by
    rw [Percent.decode_eq_self hbytes, Text.ofUtf8?_eq_some_iff]
  have hallowed : (['.'].intercalate labels).any isForbidden = false := by
    rw [List.any_eq_false]
    intro c hc
    simp [not_isForbidden_of_plain c (mem_plain hplain hc)]
  have hdomain : domain? (String.ofList (['.'].intercalate labels))
      = some (['.'].intercalate labels) := by
    rw [domain?, String.toList_ofList, Domain.toAscii?_plain hplain hlabels]
    simp [hallowed]
  have hbracket : (['.'].intercalate labels).head? ≠ some '[' := by
    intro hhead
    have hc := mem_plain hplain (List.mem_of_mem_head? hhead)
    exact absurd hc (by decide)
  rw [Host.ofText?, if_neg hbracket, hdecoded]
  simp [hdomain, hsome]

end

end Url

/-! ## IPv4 addresses -/

namespace Ipv4

open Url (IsPlainLabel isPlainLabel_toDigits split_plain)

variable (address : Ipv4)

/-- The numbers of the four bytes of an address, the highest one first. -/
def bytes : List Nat :=
  [3, 2, 1, 0].map fun index => address.value.toNat / Nat.pow 256 index % 256

/-- The labels in the text of an address. -/
def labels : List (List Char) :=
  address.bytes.map (Nat.toDigits 10)

theorem toList_text : address.text.toList = ['.'].intercalate address.labels := by
  simp [text, labels, bytes, List.intercalate]

theorem lt_of_mem_bytes {byte : Nat} (h : byte ∈ address.bytes) : byte < 256 := by
  obtain ⟨index, -, rfl⟩ := List.mem_map.1 h
  exact Nat.mod_lt _ (by decide)

theorem isPlainLabel_labels : ∀ label ∈ address.labels, IsPlainLabel label := by
  intro label hlabel
  obtain ⟨byte, -, rfl⟩ := List.mem_map.1 hlabel
  exact isPlainLabel_toDigits byte

theorem part?_toDigits {byte : Nat} (h : byte < 256) :
    part? (Nat.toDigits 10 byte) = some byte := by
  have hall : ∀ byte : Fin 256, part? (Nat.toDigits 10 byte.val) = some byte.val := by
    decide +kernel
  exact hall ⟨byte, h⟩

theorem mapM_part?_labels : address.labels.mapM part? = some address.bytes := by
  rw [labels, List.mapM_map]
  exact mapM_eq_self fun byte hbyte => part?_toDigits (address.lt_of_mem_bytes hbyte)

theorem parts_text : parts address.text.toList = address.labels := by
  rw [parts, toList_text, split_plain address.isPlainLabel_labels (by simp [labels, bytes])]

theorem getLast?_labels :
    address.labels.getLast? = some (Nat.toDigits 10 (address.value.toNat % 256)) := by
  simp [labels, bytes]

theorem endsInNumber_text : endsInNumber address.text.toList = true := by
  simp [endsInNumber, parts_text, getLast?_labels, Nat.toDigits_ne_nil,
    Decimal.isNumeral_toDigits]

/-- The bytes of an address make up its value. -/
theorem foldl_bytes :
    address.bytes.foldl (fun value byte => value * 256 + byte) 0 = address.value.toNat := by
  have hlt := address.value.toNat_lt
  simp only [bytes, List.map_cons, List.map_nil, List.foldl_cons, List.foldl_nil, Nat.pow_eq,
    Nat.reducePow]
  omega

/-- The text of an address is read as that address. -/
theorem ofText?_text : ofText? address.text.toList = some address := by
  have hparts : significantParts address.text.toList = address.labels := by
    simp [significantParts, parts_text, getLast?_labels, Nat.toDigits_ne_nil]
  have hlength : ¬address.labels.length > 4 := by simp [labels, bytes]
  have hleading : address.bytes.dropLast.length = 3 := by simp [bytes]
  have hlast : address.bytes.getLast?.getD 0 = address.value.toNat % 256 := by simp [bytes]
  have hbytes : address.bytes.dropLast.any (· > 255) = false := by
    rw [List.any_eq_false]
    intro byte hbyte
    have := address.lt_of_mem_bytes (List.dropLast_subset _ hbyte)
    simp only [gt_iff_lt, decide_eq_true_eq]
    omega
  have hvalue : address.bytes.dropLast.foldl (fun value number => value * 256 + number) 0 * 256
      + address.value.toNat % 256 = address.value.toNat := by
    have hfold := address.foldl_bytes
    rwa [show address.bytes = address.bytes.dropLast ++ [address.value.toNat % 256] by simp [bytes],
      List.foldl_append] at hfold
  -- With three numbers in front of it, the last one fills a single byte.
  have hbound : ¬address.value.toNat % 256 ≥ Nat.pow 256 1 :=
    Nat.not_le.2 (Nat.mod_lt _ (by decide))
  unfold ofText?
  simp only [hparts, hlength, if_false, mapM_part?_labels, hleading, hlast, hbytes,
    Bool.false_eq_true, or_false]
  rw [if_neg hbound]
  simp only [Nat.pow_eq, Nat.reduceSub, Nat.pow_one, hvalue, UInt32.ofNat_toNat]

end Ipv4

namespace Url

/-- The text of an address is read as that address also in place of a host. -/
theorem Host.ofText?_ipv4 (address : Ipv4) :
    Host.ofText? address.text.toList = some (.ipv4 address) := by
  have hsome : ['.'].intercalate address.labels ≠ [] := by
    rw [← Ipv4.toList_text]
    intro hnil
    have hends := address.endsInNumber_text
    rw [hnil] at hends
    contradiction
  rw [Ipv4.toList_text, Host.ofText?_plain address.isPlainLabel_labels hsome, ← Ipv4.toList_text,
    if_pos address.endsInNumber_text, Ipv4.ofText?_text]
  rfl

/-! ## Hosts with ports -/

theorem lt_of_allowed {c : Char} (h : Host.isForbidden c = false) : 0x20 < c.toNat := by
  have hblank : c ≠ ' ' := by
    rintro rfl
    contradiction
  have hcode : c.toNat ≠ 0x20 := fun heq => hblank (Char.toNat_inj.1 heq)
  have hcontrol : ¬c.toNat < 0x20 := by
    intro hlt
    simp [Host.isForbidden, hlt] at h
  omega

theorem ne_of_allowed {c other : Char} (h : Host.isForbidden c = false)
    (hother : Host.isForbidden other = true) : c ≠ other := by
  rintro rfl
  rw [h] at hother
  contradiction

theorem notMem_ends_of_allowed {c : Char} (h : Host.isForbidden c = false) : c ∉ ends := by
  have hends : ∀ other ∈ ends, Host.isForbidden other = true := forall_mem_of_all (by decide)
  exact fun hc => ne_of_allowed h (hends c hc) rfl

theorem cutPort_append {host : List Char} (h : ∀ c ∈ host, Host.isForbidden c = false)
    (digits : List Char) : cutPort false (host ++ ':' :: digits) = (host, some digits) := by
  induction host with
  | nil => simp [cutPort]
  | cons c host ih =>
    have hc := h c List.mem_cons_self
    have hcolon : c ≠ ':' := ne_of_allowed hc (by decide)
    have hopen : c ≠ '[' := ne_of_allowed hc (by decide)
    rw [List.cons_append, cutPort]
    simp [hcolon, hopen, ih fun other hother => h other (List.mem_cons_of_mem _ hother)]

theorem port?_toDigits {customary port : Nat} (hport : port ≤ 65535) :
    port? (.web customary) (Nat.toDigits 10 port)
      = some (if port = customary then none else some port) := by
  have hsmall : ¬65535 < port := Nat.not_lt.2 hport
  simp only [port?, List.isEmpty_iff, Nat.toDigits_ne_nil, if_false, Decimal.isNumeral_toDigits,
    Decimal.value_toDigits, hsmall, Bool.not_true, Bool.false_eq_true]
  by_cases hcustomary : port = customary
  · simp [hcustomary]
  · have hkind : SchemeKind.web customary ≠ .web port := by
      simpa using fun heq => hcustomary heq.symm
    simp [hcustomary, hkind]

section

variable {host : List Char} {port : Nat}

theorem isForbidden_of_mem_toDigits {c : Char} (h : c ∈ Nat.toDigits 10 port) :
    Host.isForbidden c = false :=
  not_isForbidden_of_plain c (List.mem_cons_of_mem _ ((isPlainLabel_toDigits port).plain c h))

variable (hhost : ∀ c ∈ host, Host.isForbidden c = false)

include hhost

theorem allowed_of_mem {c : Char} (h : c ∈ host ++ ':' :: Nat.toDigits 10 port) :
    Host.isForbidden c = false ∨ c = ':' := by
  rcases List.mem_append.1 h with hc | hc
  · exact Or.inl (hhost c hc)
  · rcases List.mem_cons.1 hc with rfl | hc
    · exact Or.inr rfl
    · exact Or.inl (isForbidden_of_mem_toDigits hc)

theorem site_inside : ∀ c ∈ host ++ ':' :: Nat.toDigits 10 port, c ≠ '@' ∧ c ∉ ends := by
  intro c hc
  rcases allowed_of_mem hhost hc with hallowed | rfl
  · exact ⟨ne_of_allowed hallowed (by decide), notMem_ends_of_allowed hallowed⟩
  · decide

/-- The URL of a host and a port, and nothing else. -/
def hostUrl (scheme : WebScheme) (host : List Char) (port : Nat)
    (hhost : ∀ c ∈ host, Host.isForbidden c = false) : WebUrl :=
  .ofSite scheme (host ++ ':' :: Nat.toDigits 10 port) []
    (List.append_ne_nil_of_right_ne_nil _ (List.cons_ne_nil _ _)) (site_inside hhost)
    fun _ hc => absurd hc (Option.not_mem_none _)

/-- A URL of a host and a port is read as both, but for the customary port of the scheme. -/
theorem authority?_of_host {scheme : WebScheme} {parsed : Host} {value : String}
    (hread : Host.ofText? host = some parsed) (hport : port ≤ 65535)
    (hvalue : value.toList = scheme.name.toList ++ ':' :: '/' :: '/' ::
      (host ++ ':' :: Nat.toDigits 10 port)) :
    authority? value = some ⟨parsed, if port = scheme.port then none else some port⟩ := by
  have htext : value.toList = (hostUrl scheme host port hhost).text := by
    rw [hvalue, hostUrl, WebUrl.text_ofSite, List.append_nil]
  have hclean : clean value.toList = value.toList := by
    refine clean_of_visible fun c hc => ?_
    rw [hvalue] at hc
    simp only [List.mem_append, List.mem_cons] at hc
    rcases hc with hname | rfl | rfl | rfl | hsite
    · exact WebScheme.lt_of_mem _ hname
    · decide
    · decide
    · decide
    · rcases allowed_of_mem hhost (by simpa using hsite) with hallowed | rfl
      · exact lt_of_allowed hallowed
      · decide
  have hsome : host ≠ [] := by
    rintro rfl
    have hnone : Host.ofText? [] = none := by decide +kernel
    simp [hnone] at hread
  have hdigits : (Nat.toDigits 10 port).takeWhile (· != '\\') = Nat.toDigits 10 port := by
    rw [List.takeWhile_eq_self_iff]
    intro c hc
    simpa using ne_of_allowed (isForbidden_of_mem_toDigits hc) (by decide)
  rw [(hostUrl scheme host port hhost).authority?_of_text (hclean.trans htext), authorityOf?,
    WebUrl.hostPart_site]
  simp [hostUrl, WebUrl.ofSite, cutPort_append hhost, hsome, hread, hdigits, port?_toDigits hport]

end

end Url

end WalletGateway
