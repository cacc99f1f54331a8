/-!
# Hexadecimal digits

Numbers in base sixteen with lower-case digits.  In a percent-encoded text `%` with two hexadecimal
digits behind it, of either case, stands for a byte; any other `%` stands for itself.
-/

namespace WalletGateway.Text

/-- A number in base sixteen, without leading zeros. -/
def hex (number : Nat) : String :=
  String.ofList (Nat.toDigits 16 number)

/-- A number in base sixteen, filled up with zeros to the given width. -/
def hexPadded (width number : Nat) : String :=
  String.ofList ((Nat.toDigits 16 number).leftpad width '0')

/-- The value of a digit in base sixteen. -/
def hexDigit (digit : Char) : Nat :=
  if digit ≤ '9' then digit.toNat - 48 else digit.toNat - 87

/-- The number that is written with digits in base sixteen. -/
def ofHex (digits : List Char) : Nat :=
  digits.foldl (fun number digit => 16 * number + hexDigit digit) 0

end WalletGateway.Text

namespace WalletGateway.Percent

/-- The value of a hexadecimal digit. -/
def digit? (byte : UInt8) : Option UInt8 :=
  if 48 ≤ byte ∧ byte ≤ 57 then some (byte - 48)
  else if 65 ≤ byte ∧ byte ≤ 70 then some (byte - 55)
  else if 97 ≤ byte ∧ byte ≤ 102 then some (byte - 87)
  else none

/-- The bytes that a percent-encoded text stands for. -/
def decode : List UInt8 → List UInt8
  | [] => []
  | 37 :: high :: low :: rest =>
    match digit? high, digit? low with
    | some upper, some lower => (upper * 16 + lower) :: decode rest
    | _, _ => 37 :: decode (high :: low :: rest)
  | byte :: rest => byte :: decode rest
termination_by bytes => bytes.length

end WalletGateway.Percent
