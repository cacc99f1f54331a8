/-!
# Binary floating point

Non-negative numbers of the binary64 format, as a whole number times a power of two.  Every
operation is defined as rounding its exact result to the nearest number of the format, and of two
equally near ones to the one with the even mantissa.  A result beyond the largest finite number is
absent.
-/

namespace WalletGateway

/-- The number `mantissa * 2 ^ exponent`.  Numbers of the format have a mantissa below `2 ^ 53` and
an exponent from `-1074` to `971`, and the mantissa is at least `2 ^ 52` above the least
exponent. -/
structure Binary64 where
  mantissa : Nat
  exponent : Int
  deriving DecidableEq

namespace Binary64

/-- The least exponent of the format. -/
def leastExponent : Int := -1074

/-- The greatest exponent of the format. -/
def greatestExponent : Int := 971

/-- The least mantissa above the least exponent: `2 ^ 52`. -/
def leastMantissa : Nat := Nat.pow 2 52

/-- Zero. -/
def zero : Binary64 := ⟨0, leastExponent⟩

/-- The quotient rounded to a whole number, a tie to the even one. -/
def roundedQuotient (numerator denominator : Nat) : Nat :=
  let quotient := numerator / denominator
  let twice := 2 * (numerator % denominator)
  if twice > denominator ∨ (twice = denominator ∧ quotient % 2 = 1) then quotient + 1
  else quotient

/-- A positive quotient divided by a power of two, as a quotient. -/
def scaled (numerator denominator : Nat) (exponent : Int) : Nat × Nat :=
  (numerator * Nat.pow 2 (-exponent).toNat, denominator * Nat.pow 2 exponent.toNat)

/-- The exponent that leaves at most 53 bits before the point of a positive quotient. -/
def exponentFor (numerator denominator : Nat) : Int :=
  let estimate := max leastExponent ((numerator.log2 : Int) - (denominator.log2 : Int) - 53)
  let (top, bottom) := scaled numerator denominator estimate
  if top / bottom < 2 * leastMantissa then estimate else estimate + 1

/-- The number of the format that is nearest to a quotient. -/
def nearest (numerator denominator : Nat) : Option Binary64 :=
  if numerator = 0 then some zero
  else
    let exponent := exponentFor numerator denominator
    let (top, bottom) := scaled numerator denominator exponent
    let mantissa := roundedQuotient top bottom
    let number : Binary64 :=
      if mantissa = 2 * leastMantissa then ⟨leastMantissa, exponent + 1⟩ else ⟨mantissa, exponent⟩
    if number.exponent > greatestExponent then none else some number

/-- The number of the format that is nearest to a whole number. -/
def ofNat (number : Nat) : Option Binary64 :=
  nearest number 1

/-- The product. -/
def mul (a b : Binary64) : Option Binary64 :=
  let exponent := a.exponent + b.exponent
  nearest (a.mantissa * b.mantissa * Nat.pow 2 exponent.toNat) (Nat.pow 2 (-exponent).toNat)

/-- The quotient.  The divisor is positive. -/
def div (a b : Binary64) : Option Binary64 :=
  let exponent := a.exponent - b.exponent
  nearest (a.mantissa * Nat.pow 2 exponent.toNat) (b.mantissa * Nat.pow 2 (-exponent).toNat)

/-- The number of the format that is nearest to a power of ten. -/
def powerOfTen (power : Nat) : Option Binary64 :=
  ofNat (Nat.pow 10 power)

end Binary64

end WalletGateway
