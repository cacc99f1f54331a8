import WalletGateway.Numeric.Word64
import WalletGateway.Text.Quoted

/-!
# Amounts

An amount of coins is counted in droplets, of which a coin has a million.  It is written as a
decimal number with at most six places.  Hours are plain 64-bit numbers.
-/

namespace WalletGateway.Wallet

/-- The number of decimal places of a coin. -/
def decimalPlaces : Nat := 6

/-- Why a text is not an amount. -/
inductive AmountError where
  | malformed (text : String)
  | tooManyPlaces
  | outOfRange
  deriving DecidableEq

/-- The text of an error about an amount. -/
def AmountError.message : AmountError → String
  | malformed text => "invalid coin amount: " ++ Text.quoted text
  | tooManyPlaces => "too many decimal places"
  | outOfRange => "coin amount out of range"

/-- A text up to its first point, and what comes after that. -/
def splitPoint (text : List Char) : List Char × Option (List Char) :=
  let whole := text.takeWhile (· != '.')
  match text.dropWhile (· != '.') with
  | [] => (whole, none)
  | _ :: places => (whole, some places)

/-- The droplets that the places of an amount stand for.  The product is formed without a check. -/
def placesDroplets? (places : List Char) : Option UInt64 :=
  (Word64.ofDigits? places).map fun number =>
    number * Word64.tenPower (decimalPlaces - places.length)

/-- The droplets of a whole number of coins and a number of droplets below one coin, if they fit 64
bits. -/
def addDroplets (whole : List Char) (droplets : UInt64) : Except AmountError UInt64 :=
  let total? := do
    let coins ← Word64.ofDigits? whole
    let wholeDroplets ← Word64.mul? coins (Word64.tenPower decimalPlaces)
    Word64.add? wholeDroplets droplets
  match total? with
  | some total => .ok total
  | none => .error .outOfRange

/-- The droplets of an amount of coins.  Both the whole number and the places, if there is a point,
have at least one digit. -/
def parseDroplets (text : String) : Except AmountError UInt64 :=
  let (whole, places) := splitPoint text.toList
  if !Decimal.isNumeral whole then .error (.malformed text)
  else
    match places with
    | none => addDroplets whole 0
    | some places =>
      if !Decimal.isNumeral places then .error (.malformed text)
      else if places.length > decimalPlaces then .error .tooManyPlaces
      else
        match placesDroplets? places with
        | none => .error (.malformed text)
        | some droplets => addDroplets whole droplets

/-- Why a text is not a number of hours. -/
inductive HoursError where
  | empty
  | invalidDigit
  | overflow
  deriving DecidableEq

/-- The text of an error about hours. -/
def HoursError.message : HoursError → String
  | empty => "cannot parse integer from empty string"
  | invalidDigit => "invalid digit found in string"
  | overflow => "number too large to fit in target type"

/-- The hours so far with more digits.  The first fault from the left counts. -/
def extendHours (hours : Nat) : List Char → Except HoursError UInt64
  | [] => .ok (UInt64.ofNat hours)
  | c :: rest =>
    if !Decimal.isNumeral [c] then .error .invalidDigit
    else
      let next := hours * 10 + Decimal.digitValue c
      if next < UInt64.size then extendHours next rest else .error .overflow

/-- The number of hours that a text denotes.  One plus sign may stand in front of the digits. -/
def parseHours (text : String) : Except HoursError UInt64 :=
  match text.toList with
  | [] => .error .empty
  | ['+'] => .error .invalidDigit
  | '+' :: digits => extendHours 0 digits
  | digits => extendHours 0 digits

end WalletGateway.Wallet
