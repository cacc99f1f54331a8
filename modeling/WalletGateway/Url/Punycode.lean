/-!
# Punycode

Text of any characters as letters, digits and hyphens.  The ASCII characters stand first, with a
hyphen behind them if there are any.  Then come, in the order of their code points, the other
characters, each as the number of states that an inserting reader passes over to reach it; the
numbers are written with digits whose weights depend on a bias that adapts to the numbers before.
-/

namespace WalletGateway.Url.Punycode

/-- The base of the digits. -/
def base : Nat := 36

/-- The first code point that is not ASCII. -/
def firstCode : Nat := 128

/-- The bias at the beginning. -/
def firstBias : Nat := 72

/-- The character of a digit. -/
def digitChar (digit : Nat) : Char :=
  if digit < 26 then Char.ofNat (97 + digit) else Char.ofNat (48 + digit - 26)

/-- The digit of a character in lower case. -/
def digit? (c : Char) : Option Nat :=
  if 'a' ≤ c ∧ c ≤ 'z' then some (c.toNat - 97)
  else if '0' ≤ c ∧ c ≤ '9' then some (c.toNat - 48 + 26)
  else none

/-- The least digit that is not the last one of its number, at a place. -/
def threshold (bias place : Nat) : Nat :=
  max 1 (min 26 (base * (place + 1) - bias))

/-- How often a step between characters is divided until it is small, and what is left of it. -/
def shrink (step : Nat) : Nat × Nat :=
  if 455 < step then
    let (count, rest) := shrink (step / 35)
    (count + 1, rest)
  else (0, step)

/-- The bias after a step. -/
def adapt (step count : Nat) (isFirst : Bool) : Nat :=
  let step := if isFirst then step / 700 else step / 2
  let (divisions, rest) := shrink (step + step / count)
  base * divisions + base * rest / (rest + 38)

/-- A number, from the given place on. -/
def encodeNumber (bias place number : Nat) : List Char :=
  let least := threshold bias place
  if number < least then [digitChar number]
  else
    digitChar (least + (number - least) % (base - least))
      :: encodeNumber bias (place + 1) ((number - least) / (base - least))
termination_by number
decreasing_by
  have : 1 ≤ threshold bias place := Nat.le_max_left _ _
  exact Nat.lt_of_le_of_lt (Nat.div_le_self _ _) (by omega)

/-- A reader's progress, as a writer follows it. -/
structure Progress where
  bias : Nat := firstBias
  /-- The states passed over since the last insertion. -/
  passed : Nat := 0
  /-- The characters that are in place. -/
  placed : Nat
  /-- The code point up to which all characters are in place. -/
  code : Nat := firstCode

/-- Writes all characters with the next code point, where they stand in the text. -/
def encodeCode (ascii : Nat) (code : Nat) : List Char → Progress → List Char × Progress
  | [], progress => ([], { progress with passed := progress.passed + 1, code := code + 1 })
  | c :: text, progress =>
    if c.toNat < code then
      encodeCode ascii code text { progress with passed := progress.passed + 1 }
    else if c.toNat = code then
      let written := encodeNumber progress.bias 0 progress.passed
      let (rest, last) := encodeCode ascii code text
        { progress with
          bias := adapt progress.passed (progress.placed + 1) (progress.placed == ascii)
          passed := 0
          placed := progress.placed + 1 }
      (written ++ rest, last)
    else encodeCode ascii code text progress

/-- Writes the characters of all code points, given in ascending order. -/
def encodeCodes (text : List Char) (ascii : Nat) : List Nat → Progress → List Char
  | [], _ => []
  | code :: codes, progress =>
    let passed := progress.passed + (code - progress.code) * (progress.placed + 1)
    let (written, progress) := encodeCode ascii code text { progress with passed, code }
    written ++ encodeCodes text ascii codes progress

/-- The Punycode of a text. -/
def encode (text : List Char) : List Char :=
  let ascii := text.filter fun c => c.toNat < firstCode
  let others := (text.map Char.toNat).filter fun code => firstCode ≤ code
  let codes := others.mergeSort.eraseDups
  (if ascii.isEmpty then [] else ascii ++ ['-'])
    ++ encodeCodes text ascii.length codes { placed := ascii.length }

/-- Reads a number, from the given place on, and what follows it.  `number` and `weight` belong to
the places before. -/
def decodeNumber? (bias : Nat) (place number weight : Nat) :
    (text : List Char) → Option (Nat × { rest : List Char // rest.length < text.length })
  | [] => none
  | c :: text =>
    match digit? c with
    | none => none
    | some digit =>
      let number := number + digit * weight
      let least := threshold bias place
      if digit < least then some (number, ⟨text, by simp⟩)
      else
        match decodeNumber? bias (place + 1) number (weight * (base - least)) text with
        | none => none
        | some (number, rest) => some (number, ⟨rest.1, by have := rest.2; simp; omega⟩)

/-- Inserts the characters that are written as numbers. -/
def insertCodes? (bias code position : Nat) (placed : List Char) (text : List Char) :
    Option (List Char) :=
  if text.isEmpty then some placed
  else
    match decodeNumber? bias 0 0 1 text with
    | none => none
    | some (number, rest) =>
      let size := placed.length + 1
      let total := position + number
      let next := code + total / size
      if next ≥ 0x110000 ∨ (0xd800 ≤ next ∧ next < 0xe000) then none
      else
        insertCodes? (adapt number size (position == 0)) next (total % size + 1)
          (placed.insertIdx (total % size) (Char.ofNat next)) rest.1
termination_by text.length
decreasing_by exact rest.2

/-- The text that Punycode stands for. -/
def decode? (text : List Char) : Option (List Char) :=
  let back := text.reverse
  let numbers := (back.takeWhile (· != '-')).reverse
  let ascii := ((back.dropWhile (· != '-')).drop 1).reverse
  if ascii.any fun c => firstCode ≤ c.toNat then none
  else insertCodes? firstBias firstCode 0 ascii numbers

end WalletGateway.Url.Punycode
