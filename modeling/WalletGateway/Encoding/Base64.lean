/-!
# Base64

Three bytes as four characters.  The alphabet is a parameter: the standard one fills up the last
group with `=`, the one for URLs does not.  Reading the latter accepts exactly what writing makes:
no filling, no foreign character, and no bit set beyond the last byte.
-/

namespace WalletGateway.Base64

/-- The characters for 62 and 63. -/
structure Alphabet where
  char62 : Char
  char63 : Char

/-- The alphabet for URLs. -/
def urlSafe : Alphabet := ⟨'-', '_'⟩

/-- The standard alphabet. -/
def standard : Alphabet := ⟨'+', '/'⟩

/-- The character for a number below 64. -/
def Alphabet.char (alphabet : Alphabet) (value : Nat) : Char :=
  if value < 26 then Char.ofNat ('A'.toNat + value)
  else if value < 52 then Char.ofNat ('a'.toNat + (value - 26))
  else if value < 62 then Char.ofNat ('0'.toNat + (value - 52))
  else if value = 62 then alphabet.char62
  else alphabet.char63

/-- The number that a character stands for. -/
def Alphabet.value? (alphabet : Alphabet) (c : Char) : Option Nat :=
  if 'A' ≤ c ∧ c ≤ 'Z' then some (c.toNat - 'A'.toNat)
  else if 'a' ≤ c ∧ c ≤ 'z' then some (c.toNat - 'a'.toNat + 26)
  else if '0' ≤ c ∧ c ≤ '9' then some (c.toNat - '0'.toNat + 52)
  else if c = alphabet.char62 then some 62
  else if c = alphabet.char63 then some 63
  else none

/-- Bytes as characters.  The last group, if it is not full, is followed by the filling. -/
def encodeWith (alphabet : Alphabet) (filling : List Char) : List UInt8 → List Char
  | [] => []
  | [a] =>
    alphabet.char (a.toNat / 4) :: alphabet.char (a.toNat % 4 * 16) :: (filling ++ filling)
  | [a, b] =>
    alphabet.char (a.toNat / 4) :: alphabet.char (a.toNat % 4 * 16 + b.toNat / 16)
      :: alphabet.char (b.toNat % 16 * 4) :: filling
  | a :: b :: c :: rest =>
    alphabet.char (a.toNat / 4) :: alphabet.char (a.toNat % 4 * 16 + b.toNat / 16)
      :: alphabet.char (b.toNat % 16 * 4 + c.toNat / 64) :: alphabet.char (c.toNat % 64)
      :: encodeWith alphabet filling rest

/-- The bytes of numbers below 64, four of which make three bytes. -/
def bytesOfValues? : List Nat → Option (List UInt8)
  | [] => some []
  | [_] => none
  | [p, q] => if q % 16 = 0 then some [UInt8.ofNat (p * 4 + q / 16)] else none
  | [p, q, r] =>
    if r % 4 = 0 then
      some [UInt8.ofNat (p * 4 + q / 16), UInt8.ofNat (q % 16 * 16 + r / 4)]
    else none
  | p :: q :: r :: s :: rest =>
    match bytesOfValues? rest with
    | none => none
    | some bytes =>
      some (UInt8.ofNat (p * 4 + q / 16) :: UInt8.ofNat (q % 16 * 16 + r / 4)
        :: UInt8.ofNat (r % 4 * 64 + s) :: bytes)

/-- Bytes in the alphabet for URLs, without filling. -/
def encodeUrl (bytes : List UInt8) : List Char :=
  encodeWith urlSafe [] bytes

/-- The bytes of a text in the alphabet for URLs, without filling. -/
def decodeUrl? (text : List Char) : Option (List UInt8) :=
  (text.mapM urlSafe.value?).bind bytesOfValues?

/-- Bytes in the standard alphabet, with filling. -/
def encodeStandard (bytes : List UInt8) : List Char :=
  encodeWith standard ['='] bytes

end WalletGateway.Base64
