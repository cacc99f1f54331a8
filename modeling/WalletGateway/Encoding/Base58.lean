/-!
# Base58

A byte string as a number in base 58.  Leading zero bytes do not count in a number; each of them is
written as the digit zero, which is `1`.
-/

namespace WalletGateway.Base58

/-- The digits, by ascending value. -/
def alphabet : List Char :=
  "123456789ABCDEFGHJKLMNPQRSTUVWXYZabcdefghijkmnopqrstuvwxyz".toList

/-- The value of a digit. -/
def digitValue? (c : Char) : Option Nat :=
  alphabet.findIdx? (· == c)

/-- The digits of a number in a base, most significant first, before those that are given. -/
def digitsBefore (base : Nat) (number : Nat) (tail : List Nat) : List Nat :=
  if _h : number = 0 ∨ base < 2 then tail
  else digitsBefore base (number / base) (number % base :: tail)
termination_by number
decreasing_by exact Nat.div_lt_self (by omega) (by omega)

/-- The digits of a number in a base, most significant first; none for zero. -/
def digits (base : Nat) (number : Nat) : List Nat :=
  digitsBefore base number []

/-- The number with the given digits. -/
def ofDigits (base : Nat) (digits : List Nat) : Nat :=
  digits.foldl (fun number digit => number * base + digit) 0

/-- A byte string in base 58. -/
def encode (bytes : List UInt8) : String :=
  let zeros := bytes.takeWhile (· == 0)
  let number := ofDigits 256 (bytes.map UInt8.toNat)
  String.ofList
    (zeros.map (fun _ => '1') ++ (digits 58 number).map fun digit => alphabet.getD digit '1')

/-- The byte string that a text denotes, if all its characters are digits. -/
def decode? (text : String) : Option (List UInt8) :=
  match text.toList.mapM digitValue? with
  | none => none
  | some values =>
    let zeros := values.takeWhile (· == 0)
    some (zeros.map (fun _ => 0) ++ (digits 256 (ofDigits 58 values)).map UInt8.ofNat)

end WalletGateway.Base58
