import WalletGateway.Json.Parsed

/-!
# Numbers

A number without fraction and exponent is an integer as long as it fits 64 bits.  Any other number
is a float.  A float keeps as many leading digits as fit 64 unsigned bits; this significand is
rounded and then multiplied or divided by a rounded power of ten.
-/

namespace WalletGateway.Json

/-- A number as it was written. -/
inductive Number where
  | unsigned (value : Nat)
  | negative (magnitude : Nat)
  | float (isNegative : Bool) (value : Binary64)
  deriving DecidableEq

/-- How a number is shown where it is not wanted. -/
def Number.found : Number → Found
  | unsigned value => .integer value
  | negative magnitude => .integer (-magnitude)
  | float isNegative value => .float isNegative value

/-- An ASCII digit. -/
def isDigit (byte : UInt8) : Bool :=
  0x30 ≤ byte && byte ≤ 0x39

/-- The value of an ASCII digit. -/
def digitValue (byte : UInt8) : Nat :=
  byte.toNat - 0x30

/-- Leading digits as a 64-bit number, together with the digits that do not fit. -/
def takeSignificand (significand : Nat) : List UInt8 → Nat × List UInt8
  | [] => (significand, [])
  | digit :: digits =>
    let next := significand * 10 + digitValue digit
    if next < UInt64.size then takeSignificand next digits else (significand, digit :: digits)

/-- Divides by `10 ^ 308` a number of times, or until nothing is left. -/
def divideRepeatedly (value : Binary64) : Nat → Option Binary64
  | 0 => some value
  | steps + 1 =>
    if value.mantissa = 0 then some value
    else ((Binary64.powerOfTen 308).bind value.div).bind fun quotient =>
      divideRepeatedly quotient steps

/-- Divides by `10 ^ power`, in steps of at most `10 ^ 308`. -/
def dividePower (value : Binary64) (power : Nat) : Option Binary64 :=
  let steps := (power - 1) / 308
  (divideRepeatedly value steps).bind fun quotient =>
    (Binary64.powerOfTen (power - 308 * steps)).bind quotient.div

/-- The float with the given significand and power of ten, unless it is out of range. -/
def scaleTen (significand : Nat) (power : Int) : Option Binary64 :=
  match Binary64.ofNat significand with
  | none => none
  | some value =>
    if 0 ≤ power then
      if power.toNat ≤ 308 then (Binary64.powerOfTen power.toNat).bind value.mul
      else if value.mantissa = 0 then some value
      else none
    else dividePower value (-power).toNat

/-- A float, placed at the end of its text. -/
def floatOf (isNegative : Bool) (significand : Nat) (power : Int) (rest : List UInt8) :
    Reading Number :=
  match scaleTen significand power with
  | none => .error (.here .numberOutOfRange rest)
  | some value => .ok ⟨.float isNegative value, rest⟩

/-- The value of exponent digits and what comes after them.  Beyond 31 bits reading stops. -/
def takeExponent (exponent : Nat) : List UInt8 → Option Nat × List UInt8
  | [] => (some exponent, [])
  | byte :: rest =>
    if isDigit byte then
      let next := exponent * 10 + digitValue byte
      if next < UInt32.size / 2 then takeExponent next rest else (none, rest)
    else (some exponent, byte :: rest)

/-- Reads an exponent after its sign. -/
def readSignedExponent (isNegative downwards : Bool) (significand : Nat) (power : Int)
    (input : List UInt8) : Reading Number :=
  match input with
  | [] => .error (.here .endInValue [])
  | byte :: rest =>
    if isDigit byte then
      match takeExponent (digitValue byte) rest with
      | (some exponent, rest) =>
        floatOf isNegative significand
          (if downwards then power - exponent else power + exponent) rest
      | (none, rest) =>
        if significand ≠ 0 ∧ ¬ downwards then .error (.here .numberOutOfRange rest)
        else .ok ⟨.float isNegative Binary64.zero, rest.dropWhile isDigit⟩
    else .error (.here .invalidNumber rest)

/-- Reads an exponent after its letter. -/
def readExponent (isNegative : Bool) (significand : Nat) (power : Int) (input : List UInt8) :
    Reading Number :=
  match input with
  | [] => readSignedExponent isNegative false significand power []
  | byte :: rest =>
    if byte = Text.ascii '+' then readSignedExponent isNegative false significand power rest
    else if byte = Text.ascii '-' then readSignedExponent isNegative true significand power rest
    else readSignedExponent isNegative false significand power (byte :: rest)

/-- Whether a number goes on with an exponent, and the input after the letter. -/
def exponentMark? : List UInt8 → Option (List UInt8)
  | [] => none
  | byte :: rest =>
    if byte = Text.ascii 'e' ∨ byte = Text.ascii 'E' then some rest else none

/-- Reads what follows the digits of a float. -/
def readScale (isNegative : Bool) (significand : Nat) (power : Int) (input : List UInt8) :
    Reading Number :=
  match exponentMark? input with
  | some rest => readExponent isNegative significand power rest
  | none => floatOf isNegative significand power input

/-- Reads a fraction after its point. -/
def readFraction (isNegative : Bool) (significand : Nat) (power : Int) (input : List UInt8) :
    Reading Number :=
  let digits := input.takeWhile isDigit
  let rest := input.dropWhile isDigit
  if digits.isEmpty then
    if rest.isEmpty then .error (.atNext .endInValue []) else .error (.atNext .invalidNumber rest)
  else
    let (significand, unused) := takeSignificand significand digits
    readScale isNegative significand (power - (digits.length - unused.length : Nat)) rest

/-- A number without fraction and exponent: an integer if all its digits fit and, below zero, the
sign leaves it in 64 bits. -/
def wholeNumber (isNegative : Bool) (significand : Nat) (power : Int) (rest : List UInt8) :
    Reading Number :=
  if power ≠ 0 then floatOf isNegative significand power rest
  else if isNegative then
    if 0 < significand ∧ significand ≤ UInt64.size / 2 then .ok ⟨.negative significand, rest⟩
    else floatOf true significand 0 rest
  else .ok ⟨.unsigned significand, rest⟩

/-- Reads what follows the digits of the whole part. -/
def readWhole (isNegative : Bool) (digits rest : List UInt8) : Reading Number :=
  let (significand, unused) := takeSignificand 0 digits
  let power : Int := unused.length
  match rest with
  | [] => wholeNumber isNegative significand power []
  | byte :: after =>
    if byte = Text.ascii '.' then readFraction isNegative significand power after
    else if byte = Text.ascii 'e' ∨ byte = Text.ascii 'E' then
      readExponent isNegative significand power after
    else wholeNumber isNegative significand power (byte :: after)

/-- Reads a number after its sign. -/
def readNumber (isNegative : Bool) (input : List UInt8) : Reading Number :=
  match input with
  | [] => .error (.here .endInValue [])
  | byte :: rest =>
    if byte = Text.ascii '0' then
      if rest.head?.any isDigit then .error (.atNext .invalidNumber rest)
      else readWhole isNegative [byte] rest
    else if isDigit byte then
      readWhole isNegative (byte :: rest.takeWhile isDigit) (rest.dropWhile isDigit)
    else .error (.here .invalidNumber rest)

/-! ## Reading takes the front of the input -/

theorem floatOf_length {isNegative : Bool} {significand : Nat} {power : Int} {rest : List UInt8}
    {parsed : Parsed Number} (h : floatOf isNegative significand power rest = .ok parsed) :
    parsed.rest.length ≤ rest.length := by
  unfold floatOf at h
  split at h
  · simp at h
  · simp only [Except.ok.injEq] at h
    subst h
    simp

theorem takeExponent_length (exponent : Nat) (input : List UInt8) :
    (takeExponent exponent input).2.length ≤ input.length := by
  induction input generalizing exponent with
  | nil => simp [takeExponent]
  | cons byte rest ih =>
    simp only [takeExponent]
    split
    · split
      · exact Nat.le_succ_of_le (ih _)
      · simp
    · simp

theorem exponentMark?_length {input rest : List UInt8} (h : exponentMark? input = some rest) :
    rest.length < input.length := by
  unfold exponentMark? at h
  split at h
  · simp at h
  · split at h
    · simp only [Option.some.injEq] at h
      subst h
      simp
    · simp at h

theorem readSignedExponent_length {isNegative downwards : Bool} {significand : Nat} {power : Int}
    {input : List UInt8} {parsed : Parsed Number}
    (h : readSignedExponent isNegative downwards significand power input = .ok parsed) :
    parsed.rest.length ≤ input.length := by
  unfold readSignedExponent at h
  split at h
  · simp at h
  · rename_i byte rest
    split at h
    · have hle := takeExponent_length (digitValue byte) rest
      split at h
      · rename_i htaken
        rw [htaken] at hle
        dsimp only at hle
        have := floatOf_length h
        simp only [List.length_cons]
        omega
      · rename_i htaken
        rw [htaken] at hle
        dsimp only at hle
        split at h
        · simp at h
        · simp only [Except.ok.injEq] at h
          subst h
          have := length_dropWhile_le isDigit (takeExponent (digitValue byte) rest).2
          rw [htaken] at this
          dsimp only at this
          simp only [List.length_cons]
          omega
    · simp at h

theorem readExponent_length {isNegative : Bool} {significand : Nat} {power : Int}
    {input : List UInt8} {parsed : Parsed Number}
    (h : readExponent isNegative significand power input = .ok parsed) :
    parsed.rest.length ≤ input.length := by
  unfold readExponent at h
  split at h
  · simp [readSignedExponent] at h
  · rename_i byte rest
    split at h
    · exact Nat.le_succ_of_le (readSignedExponent_length h)
    · split at h
      · exact Nat.le_succ_of_le (readSignedExponent_length h)
      · exact readSignedExponent_length h

theorem readScale_length {isNegative : Bool} {significand : Nat} {power : Int}
    {input : List UInt8} {parsed : Parsed Number}
    (h : readScale isNegative significand power input = .ok parsed) :
    parsed.rest.length ≤ input.length := by
  unfold readScale at h
  split at h
  · rename_i hmark
    have := exponentMark?_length hmark
    have := readExponent_length h
    omega
  · exact floatOf_length h

theorem readFraction_length {isNegative : Bool} {significand : Nat} {power : Int}
    {input : List UInt8} {parsed : Parsed Number}
    (h : readFraction isNegative significand power input = .ok parsed) :
    parsed.rest.length ≤ input.length := by
  simp only [readFraction] at h
  split at h
  · split at h <;> simp at h
  · have := readScale_length h
    have := length_dropWhile_le isDigit input
    omega

theorem readWhole_length {isNegative : Bool} {digits rest : List UInt8} {parsed : Parsed Number}
    (h : readWhole isNegative digits rest = .ok parsed) : parsed.rest.length ≤ rest.length := by
  have hwhole : ∀ {significand : Nat} {power : Int} {rest : List UInt8} {parsed : Parsed Number},
      wholeNumber isNegative significand power rest = .ok parsed →
        parsed.rest.length ≤ rest.length := by
    intro significand power rest parsed h
    unfold wholeNumber at h
    split at h
    · exact floatOf_length h
    · split at h
      · split at h
        · simp only [Except.ok.injEq] at h
          subst h
          simp
        · exact floatOf_length h
      · simp only [Except.ok.injEq] at h
        subst h
        simp
  simp only [readWhole] at h
  split at h
  · exact hwhole h
  · split at h
    · exact Nat.le_succ_of_le (readFraction_length h)
    · split at h
      · exact Nat.le_succ_of_le (readExponent_length h)
      · exact hwhole h

theorem readNumber_length {isNegative : Bool} {input : List UInt8} {parsed : Parsed Number}
    (h : readNumber isNegative input = .ok parsed) : parsed.rest.length < input.length := by
  unfold readNumber at h
  split at h
  · simp at h
  · rename_i byte rest
    split at h
    · split at h
      · simp at h
      · exact Nat.lt_succ_of_le (readWhole_length h)
    · split at h
      · have := readWhole_length h
        have := length_dropWhile_le isDigit rest
        simp only [List.length_cons]
        omega
      · simp at h

end WalletGateway.Json
