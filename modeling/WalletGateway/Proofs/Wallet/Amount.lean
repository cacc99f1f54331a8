import Mathlib.Data.List.Induction
import Mathlib.Data.List.TakeWhile
import Mathlib.Data.Nat.Digits.Defs
import Mathlib.Data.Rat.Defs
import Mathlib.Tactic.FieldSimp
import Mathlib.Tactic.NormNum
import Mathlib.Tactic.Ring
import WalletGateway.Wallet.Amount

/-!
# What amounts denote

`DenotesCoins` and `DenotesHours` say how an amount of coins and a number of hours are written, and
which number the text denotes.  `parseDroplets_eq_ok_iff` and `parseHours_eq_ok_iff` say that the
parsers accept exactly these texts, as far as the number fits 64 bits, and give that number; for
coins it is a million times as large, without rounding.  Coins are computed in words of 64 bits:
`FitsWords` says that the one product without a check is exact.
-/

namespace WalletGateway

namespace Decimal

theorem isNumeral_iff {digits : List Char} :
    isNumeral digits = true ↔ digits ≠ [] ∧ ∀ c ∈ digits, '0' ≤ c ∧ c ≤ '9' := by
  simp [isNumeral]

/-- The number that digits denote is that of the positional system. -/
theorem value_eq_ofDigits (digits : List Char) :
    value digits = Nat.ofDigits 10 (digits.map digitValue).reverse := by
  induction digits using List.reverseRecOn with
  | nil => rfl
  | append_singleton digits c ih =>
    have hlast : value (digits ++ [c]) = value digits * 10 + digitValue c := by
      simp [value, List.foldl_append]
    rw [hlast, ih, List.map_append, List.reverse_append]
    simp only [List.map_cons, List.map_nil, List.reverse_singleton, List.singleton_append,
      Nat.ofDigits_cons]
    ring

end Decimal

namespace Wallet

open Decimal (digitValue isNumeral isNumeral_iff value)

/-! ## Coins -/

/-- How an amount of coins is written: digits, and perhaps a point and up to six more digits. -/
inductive DenotesCoins (text : String) : ℚ → Prop where
  | whole {digits : List Char} (htext : text.toList = digits) (hdigits : isNumeral digits = true) :
      DenotesCoins text (Nat.ofDigits 10 (digits.map digitValue).reverse : ℕ)
  | places {digits places : List Char} (htext : text.toList = digits ++ '.' :: places)
      (hdigits : isNumeral digits = true) (hplaces : isNumeral places = true)
      (hfew : places.length ≤ decimalPlaces) :
      DenotesCoins text ((Nat.ofDigits 10 (digits.map digitValue).reverse : ℕ)
        + (Nat.ofDigits 10 (places.map digitValue).reverse : ℕ) / 10 ^ places.length)

theorem toList_eq_nil_of_empty {text : String} {digits : List Char} (hempty : text = "")
    (htext : text.toList = digits) : digits = [] := by
  rw [← htext, hempty]
  rfl

theorem DenotesCoins.ne_empty {text : String} {coins : ℚ} (h : DenotesCoins text coins) :
    text ≠ "" := by
  intro hempty
  cases h with
  | whole htext hdigits =>
    exact (isNumeral_iff.1 hdigits).1 (toList_eq_nil_of_empty hempty htext)
  | places htext => simpa using toList_eq_nil_of_empty hempty htext

theorem point_notMem {digits : List Char} (h : isNumeral digits = true) : '.' ∉ digits := by
  intro hpoint
  have hdigit := (isNumeral_iff.1 h).2 '.' hpoint
  exact absurd hdigit.1 (by decide)

theorem ne_point {whole : List Char} (h : '.' ∉ whole) : ∀ c ∈ whole, (c != '.') = true := by
  intro c hc
  rw [bne_iff_ne]
  rintro rfl
  exact h hc

/-- A text is split at its first point. -/
theorem splitPoint_append {whole : List Char} (h : '.' ∉ whole) (places : List Char) :
    splitPoint (whole ++ '.' :: places) = (whole, some places) := by
  simp [splitPoint, List.takeWhile_append_of_pos (ne_point h),
    List.dropWhile_append_of_pos (ne_point h)]

theorem splitPoint_of_notMem {whole : List Char} (h : '.' ∉ whole) :
    splitPoint whole = (whole, none) := by
  simp [splitPoint, List.takeWhile_eq_self_iff.2 (ne_point h),
    List.dropWhile_eq_nil_iff.2 (ne_point h)]

/-- Both parts of a text make it up again. -/
theorem eq_of_splitPoint {text whole : List Char} {places : Option (List Char)}
    (h : splitPoint text = (whole, places)) :
    match places with
    | none => text = whole
    | some places => text = whole ++ '.' :: places := by
  have hall := List.takeWhile_append_dropWhile (p := (· != '.')) (l := text)
  unfold splitPoint at h
  simp only at h
  split at h
  · rename_i hnone
    obtain ⟨rfl, rfl⟩ := Prod.mk.inj h
    rw [hnone, List.append_nil] at hall
    exact hall.symm
  · rename_i point rest hrest
    obtain ⟨rfl, rfl⟩ := Prod.mk.inj h
    have hpoint : point = '.' := by
      have hsome : text.dropWhile (· != '.') ≠ [] := by simp [hrest]
      simpa [hrest] using List.head_dropWhile_not (· != '.') hsome
    rw [hrest, hpoint] at hall
    exact hall.symm

/-! ### Droplets in 64 bits -/

theorem isNumeral_value_lt {digits : List Char} (h : isNumeral digits = true) :
    value digits < 10 ^ digits.length := by
  have hlt : ∀ digit ∈ (digits.map digitValue).reverse, digit < 10 := by
    intro digit hmem
    obtain ⟨c, hc, rfl⟩ := List.mem_map.1 (List.mem_reverse.1 hmem)
    have hlast : c.toNat ≤ '9'.toNat := UInt32.le_iff_toNat_le.1 ((isNumeral_iff.1 h).2 c hc).2
    simp only [digitValue, Char.reduceToNat] at hlast ⊢
    omega
  have hbound := Nat.ofDigits_lt_base_pow_length (by decide : 1 < 10) hlt
  rwa [← Decimal.value_eq_ofDigits, List.length_reverse, List.length_map] at hbound

/-- The places of an amount as a number, the power of ten that scales it to droplets, and their
product: none of them leaves the 64 bits. -/
structure FitsWords (places : List Char) (number : UInt64) : Prop where
  digits : number.toNat = value places
  scale : (Word64.tenPower (decimalPlaces - places.length)).toNat
    = 10 ^ (decimalPlaces - places.length)
  product : number.toNat * 10 ^ (decimalPlaces - places.length) < 2 ^ 64

theorem exists_fitsWords {places : List Char} (hplaces : isNumeral places = true)
    (hfew : places.length ≤ decimalPlaces) :
    ∃ number, Word64.ofDigits? places = some number ∧ FitsWords places number := by
  have hproduct : value places * 10 ^ (decimalPlaces - places.length) < 10 ^ decimalPlaces := by
    calc value places * 10 ^ (decimalPlaces - places.length)
        < 10 ^ places.length * 10 ^ (decimalPlaces - places.length) :=
          Nat.mul_lt_mul_of_pos_right (isNumeral_value_lt hplaces) (by positivity)
      _ = 10 ^ decimalPlaces := by rw [← pow_add, Nat.add_sub_cancel' hfew]
  have hsmall : value places ≤ value places * 10 ^ (decimalPlaces - places.length) :=
    Nat.le_mul_of_pos_right _ (by positivity)
  have hroom : 10 ^ decimalPlaces < UInt64.size := by decide
  have hnumber := UInt64.toNat_ofNat_of_lt' (hsmall.trans_lt (hproduct.trans hroom))
  refine ⟨_, Word64.ofDigits?_eq_some_iff.2 hnumber, hnumber, ?_, ?_⟩
  · exact Word64.toNat_tenPower (le_trans (Nat.sub_le _ _) (by decide))
  · rw [hnumber]
    exact hproduct.trans hroom

/-- The droplets of the places are found without overflow. -/
theorem placesDroplets?_eq_some_iff {places : List Char} (hplaces : isNumeral places = true)
    (hfew : places.length ≤ decimalPlaces) {droplets : UInt64} :
    placesDroplets? places = some droplets ↔
      droplets.toNat = value places * 10 ^ (decimalPlaces - places.length) := by
  obtain ⟨number, hread, hfits⟩ := exists_fitsWords hplaces hfew
  have hproduct : (number * Word64.tenPower (decimalPlaces - places.length)).toNat
      = value places * 10 ^ (decimalPlaces - places.length) := by
    rw [UInt64.toNat_mul, hfits.scale, Nat.mod_eq_of_lt hfits.product, hfits.digits]
  rw [placesDroplets?, hread, Option.map_some, Option.some.injEq, ← UInt64.toNat_inj, hproduct,
    eq_comm]

/-- The droplets are added up without overflow. -/
theorem addDroplets_eq_ok_iff {whole : List Char} {droplets total : UInt64} :
    addDroplets whole droplets = .ok total ↔
      total.toNat = value whole * 10 ^ decimalPlaces + droplets.toNat := by
  have hscale : (Word64.tenPower decimalPlaces).toNat = 10 ^ decimalPlaces :=
    Word64.toNat_tenPower (by decide)
  have hsum : ((Word64.ofDigits? whole).bind fun coins =>
        (Word64.mul? coins (Word64.tenPower decimalPlaces)).bind fun wholeDroplets =>
          Word64.add? wholeDroplets droplets) = some total ↔
      total.toNat = value whole * 10 ^ decimalPlaces + droplets.toNat := by
    simp only [Option.bind_eq_some_iff, Word64.ofDigits?_eq_some_iff, Word64.mul?_eq_some_iff,
      Word64.add?_eq_some_iff, hscale]
    constructor
    · rintro ⟨coins, hcoins, wholeDroplets, hwhole, htotal⟩
      rw [htotal, hwhole, hcoins]
    · intro htotal
      have hwhole : value whole * 10 ^ decimalPlaces < UInt64.size :=
        Nat.lt_of_le_of_lt (htotal ▸ Nat.le_add_right _ _) total.toNat_lt
      have hcoins : value whole < UInt64.size :=
        Nat.lt_of_le_of_lt (Nat.le_mul_of_pos_right _ (by positivity)) hwhole
      refine ⟨_, UInt64.toNat_ofNat_of_lt' hcoins, _,
        (UInt64.toNat_ofNat_of_lt' hwhole).trans ?_, ?_⟩
      · rw [UInt64.toNat_ofNat_of_lt' hcoins]
      · rw [UInt64.toNat_ofNat_of_lt' hwhole, htotal]
  rw [← hsum]
  unfold addDroplets
  simp only [bind]
  split
  · rename_i found hfound
    rw [hfound, Except.ok.injEq, Option.some.injEq]
  · rename_i hnone
    rw [hnone]
    simp

/-- The places of an amount count droplets without a remainder. -/
theorem scaled_places {places : Nat} (h : places ≤ decimalPlaces) (digits : ℚ) :
    digits / 10 ^ places * 10 ^ decimalPlaces = digits * 10 ^ (decimalPlaces - places) := by
  have hsplit : (10 : ℚ) ^ decimalPlaces = 10 ^ (decimalPlaces - places) * 10 ^ places := by
    rw [← pow_add, Nat.sub_add_cancel h]
  rw [hsplit]
  field_simp

/-- An amount is accepted where its number of droplets fits 64 bits, and that is the answer. -/
theorem parseDroplets_eq_ok_iff {text : String} {droplets : UInt64} :
    parseDroplets text = .ok droplets ↔
      ∃ coins, DenotesCoins text coins ∧ (droplets.toNat : ℚ) = coins * 10 ^ decimalPlaces := by
  constructor
  · intro h
    unfold parseDroplets at h
    split at h
    rename_i whole places hsplit
    have htext := eq_of_splitPoint hsplit
    split at h
    · contradiction
    · rename_i hwhole
      simp only [Bool.not_eq_true', Bool.not_eq_false] at hwhole
      cases places with
      | none =>
        have htotal := addDroplets_eq_ok_iff.1 h
        refine ⟨_, .whole htext hwhole, ?_⟩
        rw [htotal, Decimal.value_eq_ofDigits]
        push_cast
        simp
      | some places =>
        simp only at h
        split at h
        · contradiction
        · rename_i hplaces
          simp only [Bool.not_eq_true', Bool.not_eq_false] at hplaces
          split at h
          · contradiction
          · rename_i hfew
            have hfew := Nat.not_lt.1 hfew
            split at h
            · contradiction
            · rename_i below hbelow
              have hbelow := (placesDroplets?_eq_some_iff hplaces hfew).1 hbelow
              have htotal := addDroplets_eq_ok_iff.1 h
              refine ⟨_, .places htext hwhole hplaces hfew, ?_⟩
              rw [htotal, hbelow, add_mul, scaled_places hfew, Decimal.value_eq_ofDigits,
                Decimal.value_eq_ofDigits]
              push_cast
              rfl
  · rintro ⟨coins, hcoins, htotal⟩
    cases hcoins with
    | whole htext hdigits =>
      unfold parseDroplets
      rw [htext, splitPoint_of_notMem (point_notMem hdigits)]
      simp only [hdigits, Bool.not_true, Bool.false_eq_true, if_false]
      rw [addDroplets_eq_ok_iff, Decimal.value_eq_ofDigits, UInt64.toNat_zero, Nat.add_zero]
      exact_mod_cast htotal
    | @places digits places htext hdigits hplaces hfew =>
      obtain ⟨number, hread, hfits⟩ := exists_fitsWords hplaces hfew
      have hbelow : placesDroplets? places
          = some (number * Word64.tenPower (decimalPlaces - places.length)) := by
        rw [placesDroplets?, hread, Option.map_some]
      unfold parseDroplets
      rw [htext, splitPoint_append (point_notMem hdigits)]
      simp only [hdigits, hplaces, Bool.not_true, Bool.false_eq_true, if_false,
        if_neg (Nat.not_lt.2 hfew), hbelow]
      rw [addDroplets_eq_ok_iff, (placesDroplets?_eq_some_iff hplaces hfew).1 hbelow,
        Decimal.value_eq_ofDigits, Decimal.value_eq_ofDigits]
      rw [add_mul, scaled_places hfew] at htotal
      exact_mod_cast htotal

/-- An amount is a whole number of droplets. -/
theorem DenotesCoins.exists_droplets {text : String} {coins : ℚ} (h : DenotesCoins text coins) :
    ∃ number : ℕ, (number : ℚ) = coins * 10 ^ decimalPlaces := by
  cases h with
  | @whole digits =>
    refine ⟨Nat.ofDigits 10 (digits.map digitValue).reverse * 10 ^ decimalPlaces, ?_⟩
    push_cast
    rfl
  | @places digits places htext hdigits hplaces hfew =>
    refine ⟨Nat.ofDigits 10 (digits.map digitValue).reverse * 10 ^ decimalPlaces
      + Nat.ofDigits 10 (places.map digitValue).reverse
        * 10 ^ (decimalPlaces - places.length), ?_⟩
    rw [add_mul, scaled_places hfew]
    push_cast
    rfl

theorem exists_toNat_eq_iff {number : ℕ} :
    (∃ word : UInt64, word.toNat = number) ↔ (number : ℚ) ≤ 2 ^ 64 - 1 := by
  have hmax : (2 : ℚ) ^ 64 - 1 = ((UInt64.size - 1 : ℕ) : ℚ) := by norm_num [UInt64.size]
  rw [hmax, Nat.cast_le, Nat.le_sub_one_iff_lt (by decide)]
  constructor
  · rintro ⟨word, rfl⟩
    exact word.toNat_lt
  · intro h
    exact ⟨_, UInt64.toNat_ofNat_of_lt' h⟩

/-- An amount is accepted exactly where it is written as one or more digits, perhaps with a point
and one to six more digits behind them, and makes no more droplets than 64 bits hold; the answer is
a million times the number that is written.  Every other text is refused.  What is computed without
a check on the way, for the places behind the point, never leaves the 64 bits. -/
theorem amounts_are_read_exactly (text : String) :
    (∀ droplets, parseDroplets text = .ok droplets ↔
        ∃ coins, DenotesCoins text coins ∧ coins * 10 ^ 6 ≤ 2 ^ 64 - 1 ∧
          (droplets.toNat : ℚ) = coins * 10 ^ 6) ∧
      ((∃ error, parseDroplets text = .error error) ↔
        ¬ ∃ coins, DenotesCoins text coins ∧ coins * 10 ^ 6 ≤ 2 ^ 64 - 1) ∧
      ∀ whole places, splitPoint text.toList = (whole, some places) →
        isNumeral places = true → places.length ≤ 6 →
          ∃ number, Word64.ofDigits? places = some number ∧ FitsWords places number := by
  have hfits : ∀ droplets : UInt64, ∀ coins : ℚ, (droplets.toNat : ℚ) = coins * 10 ^ 6 →
      coins * 10 ^ 6 ≤ 2 ^ 64 - 1 := by
    intro droplets coins htotal
    rw [← htotal]
    exact exists_toNat_eq_iff.1 ⟨droplets, rfl⟩
  refine ⟨fun droplets => ?_, ?_, fun whole places _ hplaces hfew => exists_fitsWords hplaces hfew⟩
  · rw [parseDroplets_eq_ok_iff]
    constructor
    · rintro ⟨coins, hcoins, htotal⟩
      exact ⟨coins, hcoins, hfits droplets coins htotal, htotal⟩
    · rintro ⟨coins, hcoins, -, htotal⟩
      exact ⟨coins, hcoins, htotal⟩
  · cases hparse : parseDroplets text with
    | ok droplets =>
      obtain ⟨coins, hcoins, htotal⟩ := parseDroplets_eq_ok_iff.1 hparse
      refine iff_of_false (by simp) (not_not.2 ⟨coins, hcoins, hfits droplets coins htotal⟩)
    | error error =>
      refine iff_of_true ⟨error, rfl⟩ ?_
      rintro ⟨coins, hcoins, hsmall⟩
      obtain ⟨number, hnumber⟩ := hcoins.exists_droplets
      have hroom : (number : ℚ) ≤ 2 ^ 64 - 1 := hnumber ▸ hsmall
      obtain ⟨droplets, hdroplets⟩ := exists_toNat_eq_iff.2 hroom
      have hok := parseDroplets_eq_ok_iff.2 ⟨coins, hcoins, by rw [hdroplets, hnumber]⟩
      rw [hparse] at hok
      contradiction

/-- The largest amount. -/
example : parseDroplets "18446744073709.551615" = .ok 18446744073709551615 := by
  decide

/-! ## Hours -/

/-- How a number of hours is written: digits, with at most one plus sign in front. -/
inductive DenotesHours (text : String) : Nat → Prop where
  | plain {digits : List Char} (htext : text.toList = digits) (hdigits : isNumeral digits = true) :
      DenotesHours text (Nat.ofDigits 10 (digits.map digitValue).reverse)
  | signed {digits : List Char} (htext : text.toList = '+' :: digits)
      (hdigits : isNumeral digits = true) :
      DenotesHours text (Nat.ofDigits 10 (digits.map digitValue).reverse)

theorem DenotesHours.ne_empty {text : String} {hours : Nat} (h : DenotesHours text hours) :
    text ≠ "" := by
  intro hempty
  cases h with
  | plain htext hdigits =>
    exact (isNumeral_iff.1 hdigits).1 (toList_eq_nil_of_empty hempty htext)
  | signed htext => simpa using toList_eq_nil_of_empty hempty htext

theorem extendHours_eq_ok_iff {start : Nat} (hstart : start < UInt64.size) {digits : List Char}
    {hours : UInt64} :
    extendHours start digits = .ok hours ↔
      (∀ c ∈ digits, '0' ≤ c ∧ c ≤ '9') ∧
        hours.toNat = digits.foldl (fun number c => number * 10 + digitValue c) start := by
  induction digits generalizing start with
  | nil =>
    simp only [extendHours, Except.ok.injEq, List.not_mem_nil, false_imp_iff, implies_true,
      true_and, List.foldl_nil]
    constructor
    · rintro rfl
      exact UInt64.toNat_ofNat_of_lt' hstart
    · intro h
      rw [← h, UInt64.ofNat_toNat]
  | cons c digits ih =>
    have hone : isNumeral [c] = true ↔ '0' ≤ c ∧ c ≤ '9' := by simp [isNumeral_iff]
    rw [extendHours, List.forall_mem_cons, List.foldl_cons]
    by_cases hdigit : isNumeral [c] = true
    · simp only [hdigit, Bool.not_true, Bool.false_eq_true, if_false]
      by_cases hfits : start * 10 + digitValue c < UInt64.size
      · rw [if_pos hfits, ih hfits, and_assoc, and_iff_right (hone.1 hdigit)]
      · rw [if_neg hfits]
        refine iff_of_false (by simp) fun h => ?_
        have hmore := Decimal.le_foldl digitValue digits (start * 10 + digitValue c)
        exact hfits (Nat.lt_of_le_of_lt (h.2 ▸ hmore) hours.toNat_lt)
    · simp only [hdigit, Bool.not_false, if_true]
      refine iff_of_false (by simp) fun h => hdigit (hone.2 h.1.1)

theorem extendHours_zero_eq_ok_iff {digits : List Char} (hsome : digits ≠ []) {hours : UInt64} :
    extendHours 0 digits = .ok hours ↔
      isNumeral digits = true ∧
        hours.toNat = Nat.ofDigits 10 (digits.map digitValue).reverse := by
  rw [extendHours_eq_ok_iff (by decide), isNumeral_iff, ← Decimal.value_eq_ofDigits, value,
    and_iff_right hsome]

/-- A number of hours is accepted where it fits 64 bits, and is the answer. -/
theorem parseHours_eq_ok_iff {text : String} {hours : UInt64} :
    parseHours text = .ok hours ↔ DenotesHours text hours.toNat := by
  have hplus : ∀ digits : List Char, isNumeral ('+' :: digits) ≠ true := fun _ h =>
    absurd ((isNumeral_iff.1 h).2 '+' (by simp)).1 (by decide)
  have hcases : DenotesHours text hours.toNat ↔
      ∃ digits, (text.toList = digits ∨ text.toList = '+' :: digits) ∧ isNumeral digits = true ∧
        hours.toNat = Nat.ofDigits 10 (digits.map digitValue).reverse := by
    constructor
    · intro h
      generalize hnumber : hours.toNat = number at h
      cases h with
      | plain htext hdigits => exact ⟨_, Or.inl htext, hdigits, rfl⟩
      | signed htext hdigits => exact ⟨_, Or.inr htext, hdigits, rfl⟩
    · rintro ⟨digits, htext | htext, hdigits, hnumber⟩
      · exact hnumber ▸ .plain htext hdigits
      · exact hnumber ▸ .signed htext hdigits
  rw [hcases]
  unfold parseHours
  split
  · rename_i hempty
    simp [hempty, isNumeral]
  · rename_i hsign
    refine iff_of_false (by simp) ?_
    rintro ⟨digits, htext | htext, hdigits, -⟩
    · exact hplus [] (by rw [← hsign, htext, hdigits])
    · obtain rfl : digits = [] := by simpa [hsign] using htext.symm
      simp [isNumeral] at hdigits
  · rename_i digits hsome htext
    rw [extendHours_zero_eq_ok_iff fun hnone => hsome (by rw [hnone])]
    constructor
    · rintro ⟨hdigits, hnumber⟩
      exact ⟨digits, Or.inr htext, hdigits, hnumber⟩
    · rintro ⟨other, hplain | hsigned, hdigits, hnumber⟩
      · exact absurd (by rw [← htext, hplain, hdigits]) (hplus digits)
      · obtain rfl : digits = other := (List.cons.inj (htext.symm.trans hsigned)).2
        exact ⟨hdigits, hnumber⟩
  · rename_i hempty _ hsign
    rw [extendHours_zero_eq_ok_iff hempty]
    constructor
    · rintro ⟨hdigits, hnumber⟩
      exact ⟨_, Or.inl rfl, hdigits, hnumber⟩
    · rintro ⟨digits, rfl | hsigned, hdigits, hnumber⟩
      · exact ⟨hdigits, hnumber⟩
      · exact absurd hsigned (hsign digits)

end Wallet

end WalletGateway
