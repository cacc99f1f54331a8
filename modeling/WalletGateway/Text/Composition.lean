import WalletGateway.Text.CombiningClass
import WalletGateway.Text.Decomposition

/-!
# Composed texts

One text out of all that look the same: its characters are taken apart, the marks on a character are
put into the order of their classes, and what can be composed is composed again.
-/

namespace WalletGateway.Text

/-- Puts a character with its class before a text, behind the marks of lower classes in front. -/
def insertMark (mark : Char × Nat) : List (Char × Nat) → List (Char × Nat)
  | [] => [mark]
  | first :: rest =>
    if 0 < first.2 ∧ first.2 < mark.2 then first :: insertMark mark rest
    else mark :: first :: rest

/-- The Hangul syllable that two letters make, or a syllable and its last letter. -/
def syllable? (first second : Char) : Option Char :=
  let head := first.toNat
  let tail := second.toNat
  if 0x1100 ≤ head ∧ head < 0x1113 ∧ 0x1161 ≤ tail ∧ tail < 0x1176 then
    some (Char.ofNat (0xac00 + ((head - 0x1100) * 21 + (tail - 0x1161)) * 28))
  else if 0xac00 ≤ head ∧ head < 0xd7a4 ∧ (head - 0xac00) % 28 = 0 ∧ 0x11a8 ≤ tail ∧ tail < 0x11c3
    then some (Char.ofNat (head + (tail - 0x11a7)))
  else none

/-- The composite of two characters. -/
def compose? (first second : Char) : Option Char :=
  if second.toNat < 0x300 then none
  else
    match syllable? first second with
    | some syllable => some syllable
    | none =>
      (composites.find? fun (_, head, tail) => head == first && tail == second).map (·.1)

/-- Composes a character with what follows it.  `passed` are the marks behind it that stay as they
are, the last one first, and `last` is the class of that one; a mark is kept from the character by
marks of its own class or a higher one. -/
def composeFrom (base : Char) (passed : List Char) (last : Nat) : List (Char × Nat) → List Char
  | [] => base :: passed.reverse
  | (c, place) :: rest =>
    match if passed.isEmpty || last < place then compose? base c else none with
    | some composite => composeFrom composite passed last rest
    | none =>
      if place = 0 then base :: passed.reverse ++ composeFrom c [] 0 rest
      else composeFrom base (c :: passed) place rest

/-- Composes the characters of a text in which marks are in order. -/
def compose : List (Char × Nat) → List Char
  | [] => []
  | (c, _) :: rest => composeFrom c [] 0 rest

/-- A text taken apart. -/
def decomposed (text : List Char) : List Char :=
  text.flatMap decompose

/-- A text in its composed form.  Below the first mark, every text is in that form. -/
def composed (text : List Char) : List Char :=
  if text.all fun c => c.toNat < 0x300 then text
  else compose (((decomposed text).map fun c => (c, combiningClass c)).foldr insertMark [])

end WalletGateway.Text
