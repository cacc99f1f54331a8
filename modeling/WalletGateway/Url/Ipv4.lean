import WalletGateway.Numeric.Positional
import WalletGateway.Text.Basic

/-!
# IPv4 addresses

An address is written as up to four numbers with points between them, in decimal, octal or
hexadecimal; the last number fills all bytes that the others leave.  The text of an address has four
decimal numbers.
-/

namespace WalletGateway

/-- An IPv4 address. -/
structure Ipv4 where
  value : UInt32
  deriving DecidableEq

namespace Ipv4

/-- The number of a hexadecimal digit. -/
def hexDigit? (c : Char) : Option Nat :=
  if '0' ≤ c ∧ c ≤ '9' then some (c.toNat - 48)
  else if 'a' ≤ c ∧ c ≤ 'f' then some (c.toNat - 87)
  else if 'A' ≤ c ∧ c ≤ 'F' then some (c.toNat - 55)
  else none

/-- The number with the given digits, if all of them belong to the base. -/
def number? (base : Nat) (digits : List Char) : Option Nat :=
  digits.foldlM (fun number c =>
    match hexDigit? c with
    | some digit => if digit < base then some (number * base + digit) else none
    | none => none) 0

/-- Reads one part of an address: `0x` opens a hexadecimal and `0` an octal number. -/
def part? : List Char → Option Nat
  | [] => none
  | '0' :: 'x' :: digits => number? 16 digits
  | '0' :: 'X' :: digits => number? 16 digits
  | '0' :: c :: digits => number? 8 (c :: digits)
  | digits => number? 10 digits

/-- The parts of a text between points. -/
def parts (text : List Char) : List (List Char) :=
  Text.split '.' text

/-- The parts, without the empty one after a point at the end. -/
def significantParts (text : List Char) : List (List Char) :=
  let parts := parts text
  if parts.getLast? = some [] then parts.dropLast else parts

/-- Whether the last part of a domain is a number, so that the whole must be an address. -/
def endsInNumber (text : List Char) : Bool :=
  let parts := parts text
  let last :=
    if parts.getLast? = some [] then parts.dropLast.getLast? else parts.getLast?
  match last with
  | some part => Decimal.isNumeral part || (part? part).isSome
  | none => false

/-- The address that a text denotes. -/
def ofText? (text : List Char) : Option Ipv4 :=
  let parts := significantParts text
  if parts.length > 4 then none
  else
    match parts.mapM part? with
    | none => none
    | some numbers =>
      let leading := numbers.dropLast
      let last := numbers.getLast?.getD 0
      if last ≥ Nat.pow 256 (4 - leading.length) ∨ leading.any (· > 255) then none
      else
        let value := leading.foldl (fun value number => value * 256 + number) 0
        some ⟨UInt32.ofNat (value * Nat.pow 256 (4 - leading.length) + last)⟩

/-- The text of an address. -/
def text (address : Ipv4) : String :=
  let byte (index : Nat) : String := toString (address.value.toNat / Nat.pow 256 index % 256)
  byte 3 ++ "." ++ byte 2 ++ "." ++ byte 1 ++ "." ++ byte 0

end Ipv4

end WalletGateway
