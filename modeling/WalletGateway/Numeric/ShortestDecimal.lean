import WalletGateway.Numeric.Binary64

/-!
# Shortest decimal text

The fewest decimal digits that read back as a given number of the binary64 format, and of those
the ones nearest to it.

A decimal reads back if it lies between the midpoints to the two neighbours of the number; the
midpoints count if the mantissa is even.  The coarsest power of ten with a multiple between them
gives the fewest digits.
-/

namespace WalletGateway.Binary64

/-- The decimal number `digits * 10 ^ power`. -/
structure Decimal where
  digits : Nat
  power : Int
  deriving DecidableEq

/-- The midpoints to the neighbours, in units of a quarter of the last place. -/
def midpoints (number : Binary64) : Nat × Nat :=
  let below := if number.mantissa = leastMantissa ∧ number.exponent > leastExponent then 1 else 2
  (4 * number.mantissa - below, 4 * number.mantissa + 2)

/-- Quarters of the last place and multiples of a power of ten, on a common scale. -/
structure Scale where
  quarter : Nat
  step : Nat

/-- The common scale of a number and a power of ten. -/
def scaleFor (number : Binary64) (power : Int) : Scale where
  quarter := Nat.pow 2 (number.exponent - 2).toNat * Nat.pow 10 (-power).toNat
  step := Nat.pow 2 (2 - number.exponent).toNat * Nat.pow 10 power.toNat

/-- Whether a multiple of the power of ten reads back as the number. -/
def readsBack (number : Binary64) (scale : Scale) (multiple : Nat) : Bool :=
  let (low, high) := number.midpoints
  let value := multiple * scale.step
  if number.mantissa % 2 = 0 then
    low * scale.quarter ≤ value && value ≤ high * scale.quarter
  else
    low * scale.quarter < value && value < high * scale.quarter

/-- The multiple of a power of ten that is nearest to the number, if it or the other neighbouring
multiple reads back. -/
def onGrid? (number : Binary64) (power : Int) : Option Decimal :=
  let scale := scaleFor number power
  let exact := 4 * number.mantissa * scale.quarter
  let lower := exact / scale.step
  let remainder := exact % scale.step
  let lowerFits := lower != 0 && number.readsBack scale lower
  let upperFits := number.readsBack scale (lower + 1)
  let upperNearer := 2 * remainder > scale.step ∨ (2 * remainder = scale.step ∧ lower % 2 = 1)
  if lowerFits && upperFits then some ⟨if upperNearer then lower + 1 else lower, power⟩
  else if lowerFits then some ⟨lower, power⟩
  else if upperFits then some ⟨lower + 1, power⟩
  else none

/-- The first power of ten, downwards, on whose grid the number reads back. -/
def shortestFrom (number : Binary64) (power : Int) : Nat → Decimal
  | 0 => ⟨0, 0⟩
  | steps + 1 =>
    match number.onGrid? power with
    | some decimal => decimal
    | none => shortestFrom number (power - 1) steps

/-- The shortest decimal that reads back as a positive number.  No number of the format needs a
finer grid than `10 ^ -343`. -/
def shortest (number : Binary64) : Decimal :=
  shortestFrom number 309 653

/-- How a decimal is written: plainly from `0.00001` up to below `10 ^ 16`, always with a point,
and elsewhere with an exponent that has its sign. -/
def Decimal.text (decimal : Decimal) : String :=
  let digits := Nat.toDigits 10 decimal.digits
  let point : Int := digits.length + decimal.power
  String.ofList <|
    if 0 ≤ decimal.power ∧ point ≤ 16 then
      digits ++ List.replicate decimal.power.toNat '0' ++ ['.', '0']
    else if 0 < point ∧ point ≤ 16 then
      digits.take point.toNat ++ '.' :: digits.drop point.toNat
    else if -5 < point ∧ point ≤ 0 then
      '0' :: '.' :: List.replicate (-point).toNat '0' ++ digits
    else
      let fraction := if digits.length ≤ 1 then [] else '.' :: digits.drop 1
      let sign := if point - 1 < 0 then '-' else '+'
      digits.take 1 ++ fraction ++ 'e' :: sign :: Nat.toDigits 10 (point - 1).natAbs

/-- The shortest text that reads back as the number. -/
def text (number : Binary64) : String :=
  if number.mantissa = 0 then "0.0" else number.shortest.text

end WalletGateway.Binary64
