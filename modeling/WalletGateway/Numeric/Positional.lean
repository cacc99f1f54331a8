/-!
# Numbers by their places

The numbers that decimal digits and bytes denote, the most significant one first.  Both readers take
a list of any length, so that the words of two and of four bytes are read by the same function.
-/

namespace WalletGateway.Decimal

/-- Whether a text is one or more ASCII digits. -/
def isNumeral (digits : List Char) : Bool :=
  !digits.isEmpty && digits.all fun c => '0' ≤ c && c ≤ '9'

/-- The value of one digit. -/
def digitValue (c : Char) : Nat :=
  c.toNat - '0'.toNat

/-- The number that digits denote, most significant first. -/
def value (digits : List Char) : Nat :=
  digits.foldl (fun number c => number * 10 + digitValue c) 0

/-- More digits do not make a number smaller. -/
theorem le_foldl {α : Type} (value : α → Nat) (digits : List α) (start : Nat) :
    start ≤ digits.foldl (fun number digit => number * 10 + value digit) start := by
  induction digits generalizing start with
  | nil => exact Nat.le_refl start
  | cons digit digits ih =>
    have := ih (start * 10 + value digit)
    simp only [List.foldl_cons]
    omega

end WalletGateway.Decimal

namespace WalletGateway.BigEndian

/-- The number that a byte list denotes, most significant byte first. -/
def value (bytes : List UInt8) : Nat :=
  bytes.foldl (fun number byte => number * 256 + byte.toNat) 0

/-- The two bytes of a 16-bit word. -/
def word16 (word : UInt16) : List UInt8 :=
  [(word >>> 8).toUInt8, word.toUInt8]

/-- The four bytes of a 32-bit word. -/
def word32 (word : UInt32) : List UInt8 :=
  [(word >>> 24).toUInt8, (word >>> 16).toUInt8, (word >>> 8).toUInt8, word.toUInt8]

@[simp] theorem length_word16 (word : UInt16) : (word16 word).length = 2 := rfl

@[simp] theorem length_word32 (word : UInt32) : (word32 word).length = 4 := rfl

end WalletGateway.BigEndian
