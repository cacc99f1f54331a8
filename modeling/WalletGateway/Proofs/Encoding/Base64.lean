import WalletGateway.Encoding.Base64
import WalletGateway.Proofs.Encoding.Alphabet

/-!
# Base64 for URLs is canonical

Every text that can be read is the one that writing makes of the bytes: `decodeUrl?_eq_some_iff`.

Reading and writing both go through numbers below 64.  `valuesOf` are the numbers of some bytes, and
`bytesOfValues?_eq_some_iff` is the law on this level; `value?_eq_some_iff` is the law of a single
character.
-/

namespace WalletGateway.Base64

/-! ## Characters -/

theorem value?_char {value : Nat} (h : value < 64) :
    urlSafe.value? (urlSafe.char value) = some value := by
  have all : ∀ value : Fin 64, urlSafe.value? (urlSafe.char value) = some value.val := by decide
  exact all ⟨value, h⟩

/-- A character is the one for the number that it stands for. -/
theorem eq_char_of_value? {c : Char} {value : Nat} (h : urlSafe.value? c = some value) :
    value < 64 ∧ c = urlSafe.char value := by
  -- The ranges of letters and digits, as ranges of code points.
  have hrange : ∀ first last : Char, first ≤ c ∧ c ≤ last →
      first.toNat ≤ c.toNat ∧ c.toNat ≤ last.toNat :=
    fun first last h => ⟨UInt32.le_iff_toNat_le.1 h.1, UInt32.le_iff_toNat_le.1 h.2⟩
  have hupper := hrange 'A' 'Z'
  have hlower := hrange 'a' 'z'
  have hdigit := hrange '0' '9'
  simp only [Char.reduceToNat] at hupper hlower hdigit
  unfold Alphabet.value? at h
  unfold Alphabet.char
  simp only [Char.reduceToNat] at h ⊢
  split at h
  · rename_i hc
    obtain ⟨hfirst, hlast⟩ := hupper hc
    obtain rfl := Option.some.inj h
    have hpoint : 65 + (c.toNat - 65) = c.toNat := by omega
    rw [if_pos (by omega), hpoint, Char.ofNat_toNat]
    exact ⟨by omega, rfl⟩
  · split at h
    · rename_i hc
      obtain ⟨hfirst, hlast⟩ := hlower hc
      obtain rfl := Option.some.inj h
      have hpoint : 97 + (c.toNat - 97 + 26 - 26) = c.toNat := by omega
      rw [if_neg (by omega), if_pos (by omega), hpoint, Char.ofNat_toNat]
      exact ⟨by omega, rfl⟩
    · split at h
      · rename_i hc
        obtain ⟨hfirst, hlast⟩ := hdigit hc
        obtain rfl := Option.some.inj h
        have hpoint : 48 + (c.toNat - 48 + 52 - 52) = c.toNat := by omega
        rw [if_neg (by omega), if_neg (by omega), if_pos (by omega), hpoint, Char.ofNat_toNat]
        exact ⟨by omega, rfl⟩
      · split at h
        · rename_i hc
          obtain rfl := Option.some.inj h
          exact ⟨by omega, hc⟩
        · split at h
          · rename_i hc
            obtain rfl := Option.some.inj h
            exact ⟨by omega, hc⟩
          · contradiction

/-- A character stands for a number exactly when it is the character for it. -/
theorem value?_eq_some_iff {c : Char} {value : Nat} :
    urlSafe.value? c = some value ↔ value < 64 ∧ c = urlSafe.char value := by
  constructor
  · exact eq_char_of_value?
  · rintro ⟨hlt, rfl⟩
    exact value?_char hlt

theorem char_ne_point {value : Nat} (h : value < 64) : urlSafe.char value ≠ '.' := by
  have all : ∀ value : Fin 64, urlSafe.char value ≠ '.' := by decide
  exact all ⟨value, h⟩

theorem mapM_value?_eq_some_iff {text : List Char} {values : List Nat} :
    text.mapM urlSafe.value? = some values ↔
      (∀ value ∈ values, value < 64) ∧ text = values.map urlSafe.char :=
  mapM_eq_some_iff_eq_map fun _ _ => value?_eq_some_iff

/-! ## Numbers below 64 -/

/-- The numbers that bytes are written with: four for three bytes, and two or three for the bytes
that are left. -/
def valuesOf : List UInt8 → List Nat
  | [] => []
  | [a] => [a.toNat / 4, a.toNat % 4 * 16]
  | [a, b] => [a.toNat / 4, a.toNat % 4 * 16 + b.toNat / 16, b.toNat % 16 * 4]
  | a :: b :: c :: rest =>
    (a.toNat / 4) :: (a.toNat % 4 * 16 + b.toNat / 16) :: (b.toNat % 16 * 4 + c.toNat / 64)
      :: (c.toNat % 64) :: valuesOf rest

theorem encodeUrl_eq_map (bytes : List UInt8) :
    encodeUrl bytes = (valuesOf bytes).map urlSafe.char := by
  unfold encodeUrl
  fun_induction valuesOf bytes with
  | case1 | case2 | case3 => rfl
  | case4 a b c rest ih => simp only [encodeWith, ih, List.map_cons]

theorem lt_of_mem_valuesOf {bytes : List UInt8} {value : Nat} (h : value ∈ valuesOf bytes) :
    value < 64 := by
  fun_induction valuesOf bytes with
  | case1 => contradiction
  | case2 a =>
    have ha := a.toNat_lt
    simp only [List.mem_cons, List.not_mem_nil, or_false] at h
    omega
  | case3 a b =>
    have ha := a.toNat_lt
    have hb := b.toNat_lt
    simp only [List.mem_cons, List.not_mem_nil, or_false] at h
    omega
  | case4 a b c rest ih =>
    have ha := a.toNat_lt
    have hb := b.toNat_lt
    have hc := c.toNat_lt
    simp only [List.mem_cons] at h
    rcases h with h | h | h | h | h
    · omega
    · omega
    · omega
    · omega
    · exact ih h

theorem bytesOfValues?_valuesOf (bytes : List UInt8) :
    bytesOfValues? (valuesOf bytes) = some bytes := by
  have hbyte : ∀ {value : Nat} (byte : UInt8), value = byte.toNat → UInt8.ofNat value = byte := by
    rintro value byte rfl
    exact UInt8.ofNat_toNat
  fun_induction valuesOf bytes with
  | case1 => rfl
  | case2 a =>
    have ha := a.toNat_lt
    simp only [bytesOfValues?]
    rw [if_pos (by omega), hbyte a (by omega)]
  | case3 a b =>
    have ha := a.toNat_lt
    have hb := b.toNat_lt
    simp only [bytesOfValues?]
    rw [if_pos (by omega), hbyte a (by omega), hbyte b (by omega)]
  | case4 a b c rest ih =>
    have ha := a.toNat_lt
    have hb := b.toNat_lt
    have hc := c.toNat_lt
    simp only [bytesOfValues?, ih]
    rw [hbyte a (by omega), hbyte b (by omega), hbyte c (by omega)]

/-- Numbers make bytes only if they are the numbers of these bytes: no bits are left over. -/
theorem eq_valuesOf_of_bytesOfValues? {values : List Nat} {bytes : List UInt8}
    (hlt : ∀ value ∈ values, value < 64) (h : bytesOfValues? values = some bytes) :
    values = valuesOf bytes := by
  fun_induction bytesOfValues? values generalizing bytes with
  | case1 =>
    obtain rfl := Option.some.inj h
    rfl
  | case2 => contradiction
  | case3 p q hrest =>
    obtain rfl := Option.some.inj h
    have hp := hlt p (by simp)
    have hq := hlt q (by simp)
    have ha : (UInt8.ofNat (p * 4 + q / 16)).toNat = p * 4 + q / 16 :=
      UInt8.toNat_ofNat_of_lt' (by simp only [UInt8.size]; omega)
    simp only [valuesOf, ha, List.cons.injEq, and_true]
    omega
  | case4 => contradiction
  | case5 p q r hrest =>
    obtain rfl := Option.some.inj h
    have hp := hlt p (by simp)
    have hq := hlt q (by simp)
    have hr := hlt r (by simp)
    have ha : (UInt8.ofNat (p * 4 + q / 16)).toNat = p * 4 + q / 16 :=
      UInt8.toNat_ofNat_of_lt' (by simp only [UInt8.size]; omega)
    have hb : (UInt8.ofNat (q % 16 * 16 + r / 4)).toNat = q % 16 * 16 + r / 4 :=
      UInt8.toNat_ofNat_of_lt' (by simp only [UInt8.size]; omega)
    simp only [valuesOf, ha, hb, List.cons.injEq, and_true]
    omega
  | case6 => contradiction
  | case7 p q r s rest hnone => contradiction
  | case8 p q r s rest more hmore ih =>
    obtain rfl := Option.some.inj h
    have hp := hlt p (by simp)
    have hq := hlt q (by simp)
    have hr := hlt r (by simp)
    have hs := hlt s (by simp)
    have ha : (UInt8.ofNat (p * 4 + q / 16)).toNat = p * 4 + q / 16 :=
      UInt8.toNat_ofNat_of_lt' (by simp only [UInt8.size]; omega)
    have hb : (UInt8.ofNat (q % 16 * 16 + r / 4)).toNat = q % 16 * 16 + r / 4 :=
      UInt8.toNat_ofNat_of_lt' (by simp only [UInt8.size]; omega)
    have hc : (UInt8.ofNat (r % 4 * 64 + s)).toNat = r % 4 * 64 + s :=
      UInt8.toNat_ofNat_of_lt' (by simp only [UInt8.size]; omega)
    have hrest : rest = valuesOf more :=
      ih (fun value hvalue => hlt value (by simp [hvalue])) hmore
    rw [valuesOf, ← hrest]
    simp only [ha, hb, hc, List.cons.injEq, and_true]
    omega

theorem bytesOfValues?_eq_some_iff {values : List Nat} {bytes : List UInt8}
    (hlt : ∀ value ∈ values, value < 64) :
    bytesOfValues? values = some bytes ↔ values = valuesOf bytes := by
  constructor
  · exact eq_valuesOf_of_bytesOfValues? hlt
  · rintro rfl
    exact bytesOfValues?_valuesOf bytes

/-! ## Texts -/

/-- A text is read as some bytes exactly when it is what writing makes of them. -/
theorem decodeUrl?_eq_some_iff {text : List Char} {bytes : List UInt8} :
    decodeUrl? text = some bytes ↔ text = encodeUrl bytes := by
  unfold decodeUrl?
  rw [Option.bind_eq_some_iff, encodeUrl_eq_map]
  constructor
  · rintro ⟨values, hvalues, hbytes⟩
    obtain ⟨hlt, rfl⟩ := mapM_value?_eq_some_iff.1 hvalues
    rw [(bytesOfValues?_eq_some_iff hlt).1 hbytes]
  · rintro rfl
    have hlt : ∀ value ∈ valuesOf bytes, value < 64 := fun value => lt_of_mem_valuesOf
    exact ⟨valuesOf bytes, mapM_value?_eq_some_iff.2 ⟨hlt, rfl⟩,
      (bytesOfValues?_eq_some_iff hlt).2 rfl⟩

theorem decodeUrl?_encodeUrl (bytes : List UInt8) :
    decodeUrl? (encodeUrl bytes) = some bytes :=
  decodeUrl?_eq_some_iff.2 rfl

theorem point_notMem_encodeUrl (bytes : List UInt8) : '.' ∉ encodeUrl bytes := by
  rw [encodeUrl_eq_map]
  intro h
  obtain ⟨value, hvalue, hpoint⟩ := List.mem_map.1 h
  exact char_ne_point (lt_of_mem_valuesOf hvalue) hpoint

end WalletGateway.Base64
