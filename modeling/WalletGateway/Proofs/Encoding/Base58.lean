import Mathlib.Data.List.Induction
import Mathlib.Data.List.TakeWhile
import Mathlib.Data.Nat.Digits.Defs
import Mathlib.Data.Nat.Digits.Lemmas
import Mathlib.Tactic.Ring
import WalletGateway.Encoding.Base58
import WalletGateway.Proofs.Encoding.Alphabet

/-!
# Base58 is canonical

Every text that can be read is the one that writing makes of the bytes: `decode?_eq_some_iff`.  A
text cannot be read only where it has a character outside the alphabet: `decode?_eq_none_iff`.

Reading and writing both take a list of digits to another base, and keep the zeros in front apart
from the number.  `rebased` is that step, and `rebased_rebased` says that the way back undoes it.
-/

namespace WalletGateway.Base58

/-! ## Numbers in a base -/

theorem digitsBefore_eq {base : Nat} (hbase : 2 ≤ base) (number : Nat) (tail : List Nat) :
    digitsBefore base number tail = (Nat.digits base number).reverse ++ tail := by
  induction number using Nat.strongRecOn generalizing tail with
  | ind number ih =>
    by_cases hzero : number = 0
    · rw [digitsBefore, dif_pos (Or.inl hzero), hzero]
      simp
    · have hmore : ¬ (number = 0 ∨ base < 2) := by omega
      rw [digitsBefore, dif_neg hmore, ih _ (Nat.div_lt_self (by omega) hbase),
        Nat.digits_def' hbase (Nat.pos_of_ne_zero hzero)]
      simp

theorem digits_eq_reverse {base : Nat} (hbase : 2 ≤ base) (number : Nat) :
    digits base number = (Nat.digits base number).reverse := by
  rw [digits, digitsBefore_eq hbase, List.append_nil]

theorem ofDigits_eq_reverse (base : Nat) (list : List Nat) :
    ofDigits base list = Nat.ofDigits base list.reverse := by
  induction list using List.reverseRecOn with
  | nil => rfl
  | append_singleton list digit ih =>
    have hlast : ofDigits base (list ++ [digit]) = ofDigits base list * base + digit := by
      simp [ofDigits]
    rw [hlast, ih, List.reverse_append, List.reverse_singleton, List.singleton_append,
      Nat.ofDigits_cons]
    ring

theorem ofDigits_digits {base : Nat} (hbase : 2 ≤ base) (number : Nat) :
    ofDigits base (digits base number) = number := by
  rw [ofDigits_eq_reverse, digits_eq_reverse hbase, List.reverse_reverse, Nat.ofDigits_digits]

theorem lt_of_mem_digits {base number digit : Nat} (hbase : 2 ≤ base)
    (h : digit ∈ digits base number) : digit < base := by
  rw [digits_eq_reverse hbase, List.mem_reverse] at h
  exact Nat.digits_lt_base hbase h

/-- The digits of a number do not begin with a zero. -/
theorem takeWhile_digits {base : Nat} (hbase : 2 ≤ base) (number : Nat) :
    (digits base number).takeWhile (· == 0) = [] := by
  rw [List.takeWhile_eq_nil_iff, digits_eq_reverse hbase]
  intro hsome
  have hzero : number ≠ 0 := by
    rintro rfl
    simp at hsome
  have hlast := Nat.getLast_digit_ne_zero base hzero
  simpa [List.getLast_eq_getElem] using hlast

/-- Zeros in front do not count. -/
theorem ofDigits_takeWhile_append (base : Nat) (list more : List Nat) :
    ofDigits base (list.takeWhile (· == 0) ++ more) = ofDigits base more := by
  induction list with
  | nil => rfl
  | cons digit list ih =>
    by_cases hzero : digit = 0
    · have hfirst : (digit :: list).takeWhile (· == 0) = 0 :: list.takeWhile (· == 0) := by
        simp [hzero]
      rw [hfirst, ← ih]
      simp [ofDigits]
    · simp [hzero]

/-- Without the zeros in front, digits are read back. -/
theorem digits_ofDigits {base : Nat} (hbase : 2 ≤ base) {list : List Nat}
    (h : ∀ digit ∈ list, digit < base) :
    digits base (ofDigits base list) = list.dropWhile (· == 0) := by
  have hnumber : ofDigits base list = Nat.ofDigits base (list.dropWhile (· == 0)).reverse := by
    rw [← ofDigits_eq_reverse, ← ofDigits_takeWhile_append base list (list.dropWhile (· == 0)),
      List.takeWhile_append_dropWhile]
  rw [hnumber, digits_eq_reverse hbase, Nat.digits_ofDigits base hbase, List.reverse_reverse]
  · intro digit hdigit
    exact h digit ((List.dropWhile_suffix _).subset (List.mem_reverse.1 hdigit))
  · intro hsome
    have hhead := List.head_dropWhile_not (· == 0) (List.reverse_ne_nil_iff.1 hsome)
    simpa using hhead

/-! ## Change of the base -/

/-- A number in another base.  As many zeros stand in front as before. -/
def rebased (source target : Nat) (list : List Nat) : List Nat :=
  list.takeWhile (· == 0) ++ digits target (ofDigits source list)

variable {source target : Nat}

theorem lt_of_mem_rebased (htarget : 2 ≤ target) {list : List Nat} {digit : Nat}
    (h : digit ∈ rebased source target list) : digit < target := by
  rcases List.mem_append.1 h with hzero | hdigit
  · have hzero := List.mem_takeWhile_imp hzero
    simp only [beq_iff_eq] at hzero
    omega
  · exact lt_of_mem_digits htarget hdigit

/-- Going to another base and back changes nothing. -/
theorem rebased_rebased (hsource : 2 ≤ source) (htarget : 2 ≤ target) {list : List Nat}
    (h : ∀ digit ∈ list, digit < source) :
    rebased target source (rebased source target list) = list := by
  have hzeros : (rebased source target list).takeWhile (· == 0) = list.takeWhile (· == 0) := by
    have hall : ∀ digit ∈ list.takeWhile (· == 0), (digit == 0) = true :=
      fun _ hdigit => List.mem_takeWhile_imp (p := (· == 0)) hdigit
    rw [rebased, List.takeWhile_append_of_pos hall, takeWhile_digits htarget, List.append_nil]
  have hnumber : ofDigits target (rebased source target list) = ofDigits source list := by
    rw [rebased, ofDigits_takeWhile_append, ofDigits_digits htarget]
  calc rebased target source (rebased source target list)
      = list.takeWhile (· == 0) ++ digits source (ofDigits source list) := by
        rw [rebased, hzeros, hnumber]
    _ = list.takeWhile (· == 0) ++ list.dropWhile (· == 0) := by
        rw [digits_ofDigits hsource h]
    _ = list := List.takeWhile_append_dropWhile

/-! ## Texts -/

/-- The character of a digit. -/
def digitChar (value : Nat) : Char :=
  alphabet.getD value '1'

theorem digitValue?_digitChar {value : Nat} (h : value < 58) :
    digitValue? (digitChar value) = some value := by
  have all : ∀ value : Fin 58, digitValue? (digitChar value) = some value.val := by decide
  exact all ⟨value, h⟩

/-- A character stands for a number exactly when it is the character of that digit. -/
theorem digitValue?_eq_some_iff (c : Char) (value : Nat) :
    digitValue? c = some value ↔ value < 58 ∧ c = digitChar value := by
  constructor
  · intro h
    obtain ⟨hlt, hc, -⟩ := List.findIdx?_eq_some_iff_getElem.1 h
    have hchar : digitChar value = alphabet[value] := by
      rw [digitChar, List.getD_eq_getElem?_getD, List.getElem?_eq_getElem hlt, Option.getD_some]
    exact ⟨hlt, (beq_iff_eq.1 hc).symm.trans hchar.symm⟩
  · rintro ⟨hlt, rfl⟩
    exact digitValue?_digitChar hlt

theorem digitValue?_eq_none_iff {c : Char} : digitValue? c = none ↔ c ∉ alphabet := by
  rw [digitValue?, List.findIdx?_eq_none_iff]
  constructor
  · intro h hmem
    simpa using h c hmem
  · rintro h other hmem
    rw [beq_eq_false_iff_ne]
    rintro rfl
    exact h hmem

theorem map_toNat_map_ofNat {values : List Nat} (h : ∀ value ∈ values, value < 256) :
    (values.map UInt8.ofNat).map UInt8.toNat = values := by
  rw [List.map_map]
  refine (List.map_congr_left fun value hvalue => ?_).trans (List.map_id values)
  exact UInt8.toNat_ofNat_of_lt' (h value hvalue)

theorem encode_eq (bytes : List UInt8) :
    encode bytes
      = String.ofList ((rebased 256 58 (bytes.map UInt8.toNat)).map digitChar) := by
  have hzero : (fun byte : UInt8 => byte.toNat == 0) = fun byte => byte == 0 := by
    funext byte
    rw [Bool.eq_iff_iff, beq_iff_eq, beq_iff_eq, ← UInt8.toNat_inj, UInt8.toNat_zero]
  have hzeros : ((bytes.map UInt8.toNat).takeWhile (· == 0)).map digitChar
      = (bytes.takeWhile (· == 0)).map fun _ => '1' := by
    rw [List.takeWhile_map, List.map_map]
    show ((bytes.takeWhile fun byte => byte.toNat == 0).map fun byte => digitChar byte.toNat) = _
    rw [hzero]
    refine List.map_congr_left fun byte hbyte => ?_
    have hbyte := List.mem_takeWhile_imp hbyte
    rw [beq_iff_eq] at hbyte
    rw [hbyte]
    rfl
  rw [rebased, List.map_append, hzeros]
  rfl

theorem decode?_eq (text : String) :
    decode? text = (text.toList.mapM digitValue?).map fun values =>
      (rebased 58 256 values).map UInt8.ofNat := by
  unfold decode?
  cases text.toList.mapM digitValue? with
  | none => rfl
  | some values =>
    have hzeros : (values.takeWhile (· == 0)).map UInt8.ofNat
        = (values.takeWhile (· == 0)).map fun _ => 0 := by
      refine List.map_congr_left fun value hvalue => ?_
      have hvalue := List.mem_takeWhile_imp hvalue
      rw [beq_iff_eq] at hvalue
      rw [hvalue]
      rfl
    rw [Option.map_some, rebased, List.map_append, hzeros]

/-- A text is read as some bytes exactly when it is what these bytes are written as. -/
theorem decode?_eq_some_iff {text : String} {bytes : List UInt8} :
    decode? text = some bytes ↔ text = encode bytes := by
  rw [decode?_eq, encode_eq, Option.map_eq_some_iff]
  constructor
  · rintro ⟨values, hread, rfl⟩
    obtain ⟨hlt, htext⟩ := (mapM_eq_some_iff_eq_map digitValue?_eq_some_iff).1 hread
    have hbytes : ∀ byte ∈ rebased 58 256 values, byte < 256 :=
      fun _ hbyte => lt_of_mem_rebased (by decide) hbyte
    rw [map_toNat_map_ofNat hbytes, rebased_rebased (by decide) (by decide) hlt, ← htext,
      String.ofList_toList]
  · rintro rfl
    have hbytes : ∀ byte ∈ bytes.map UInt8.toNat, byte < 256 := by
      intro byte hbyte
      obtain ⟨word, -, rfl⟩ := List.mem_map.1 hbyte
      exact word.toNat_lt
    have hdigits : ∀ digit ∈ rebased 256 58 (bytes.map UInt8.toNat), digit < 58 :=
      fun _ hdigit => lt_of_mem_rebased (by decide) hdigit
    refine ⟨_, (mapM_eq_some_iff_eq_map digitValue?_eq_some_iff).2
      ⟨hdigits, String.toList_ofList⟩, ?_⟩
    rw [rebased_rebased (by decide) (by decide) hbytes, List.map_map]
    exact (List.map_congr_left fun word _ => UInt8.ofNat_toNat).trans (List.map_id bytes)

/-- The texts that cannot be read are those with a character outside the alphabet. -/
theorem decode?_eq_none_iff {text : String} :
    decode? text = none ↔ ∃ c ∈ text.toList, c ∉ alphabet := by
  rw [decode?_eq, Option.map_eq_none_iff, mapM_eq_none_iff_exists]
  simp only [digitValue?_eq_none_iff]

end WalletGateway.Base58
