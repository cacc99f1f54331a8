import WalletGateway.Numeric.Positional

/-!
# Words of 64 bits

`mul?` and `add?` notice when a result does not fit a word.  The operations of words themselves do
not; they drop what is too much.
-/

namespace WalletGateway.Word64

/-- The word for a number, if it fits. -/
def ofNat? (number : Nat) : Option UInt64 :=
  if number < UInt64.size then some (UInt64.ofNat number) else none

/-- The product of two words, if it fits a word. -/
def mul? (left right : UInt64) : Option UInt64 :=
  ofNat? (left.toNat * right.toNat)

/-- The sum of two words, if it fits a word. -/
def add? (left right : UInt64) : Option UInt64 :=
  ofNat? (left.toNat + right.toNat)

/-- The number so far with one more decimal digit. -/
def push? (number : UInt64) (digit : Char) : Option UInt64 :=
  (mul? number 10).bind fun tens => add? tens (UInt64.ofNat (Decimal.digitValue digit))

/-- The number that decimal digits denote, if it fits a word. -/
def ofDigits? (digits : List Char) : Option UInt64 :=
  digits.foldlM push? 0

/-- A power of ten. -/
def tenPower : Nat → UInt64
  | 0 => 1
  | exponent + 1 => tenPower exponent * 10

theorem ofNat?_eq_some_iff {number : Nat} {word : UInt64} :
    ofNat? number = some word ↔ word.toNat = number := by
  unfold ofNat?
  constructor
  · intro h
    split at h
    · rename_i hfits
      obtain rfl := Option.some.inj h
      exact UInt64.toNat_ofNat_of_lt' hfits
    · contradiction
  · rintro rfl
    rw [if_pos word.toNat_lt, UInt64.ofNat_toNat]

theorem mul?_eq_some_iff {left right product : UInt64} :
    mul? left right = some product ↔ product.toNat = left.toNat * right.toNat :=
  ofNat?_eq_some_iff

theorem add?_eq_some_iff {left right sum : UInt64} :
    add? left right = some sum ↔ sum.toNat = left.toNat + right.toNat :=
  ofNat?_eq_some_iff

theorem toNat_digit (c : Char) :
    (UInt64.ofNat (Decimal.digitValue c)).toNat = Decimal.digitValue c := by
  have hpoint : c.toNat < UInt64.size := Nat.lt_trans c.val.toNat_lt (by decide)
  exact UInt64.toNat_ofNat_of_lt' (Nat.lt_of_le_of_lt (Nat.sub_le _ _) hpoint)

theorem push?_eq_some_iff {number next : UInt64} {digit : Char} :
    push? number digit = some next ↔
      next.toNat = number.toNat * 10 + Decimal.digitValue digit := by
  rw [push?, Option.bind_eq_some_iff]
  simp only [mul?_eq_some_iff, add?_eq_some_iff, toNat_digit]
  constructor
  · rintro ⟨tens, htens, hnext⟩
    rw [hnext, htens]
    rfl
  · intro hnext
    have htens : number.toNat * 10 < UInt64.size :=
      Nat.lt_of_le_of_lt (hnext ▸ Nat.le_add_right _ _) next.toNat_lt
    have hword := UInt64.toNat_ofNat_of_lt' htens
    exact ⟨_, hword, by rw [hword, hnext]⟩

theorem foldlM_push?_eq_some_iff {digits : List Char} {start word : UInt64} :
    digits.foldlM push? start = some word ↔
      word.toNat
        = digits.foldl (fun number c => number * 10 + Decimal.digitValue c) start.toNat := by
  induction digits generalizing start with
  | nil => simp [eq_comm, UInt64.toNat_inj]
  | cons c digits ih =>
    rw [List.foldlM_cons, List.foldl_cons]
    constructor
    · intro h
      obtain ⟨next, hnext, hrest⟩ := Option.bind_eq_some_iff.1 h
      rw [← push?_eq_some_iff.1 hnext]
      exact ih.1 hrest
    · intro h
      -- The digits to come do not make the number smaller, so it fits at this point already.
      have hfits : start.toNat * 10 + Decimal.digitValue c < UInt64.size :=
        Nat.lt_of_le_of_lt (h ▸ Decimal.le_foldl Decimal.digitValue digits _) word.toNat_lt
      have hword := UInt64.toNat_ofNat_of_lt' hfits
      exact Option.bind_eq_some_iff.2
        ⟨_, push?_eq_some_iff.2 hword, ih.2 (by rw [hword]; exact h)⟩

theorem ofDigits?_eq_some_iff {digits : List Char} {word : UInt64} :
    ofDigits? digits = some word ↔ word.toNat = Decimal.value digits :=
  foldlM_push?_eq_some_iff

/-- Up to this exponent, powers of ten fit a word. -/
theorem toNat_tenPower {exponent : Nat} (h : exponent ≤ 19) :
    (tenPower exponent).toNat = Nat.pow 10 exponent := by
  have all : ∀ exponent : Fin 20, (tenPower exponent).toNat = Nat.pow 10 exponent := by decide
  exact all ⟨exponent, Nat.lt_succ_of_le h⟩

end WalletGateway.Word64
