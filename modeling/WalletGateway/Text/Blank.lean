import WalletGateway.Text.Table

/-!
# Blanks and words

Blanks are the characters with the Unicode property White_Space.  The words of a text are the
longest runs without blanks.
-/

namespace WalletGateway.Text

/-- Where runs of blanks begin and end, in turn. -/
def blankBounds : List Nat :=
  [0x9, 0xe, 0x20, 0x21, 0x85, 0x86, 0xa0, 0xa1, 0x1680, 0x1681, 0x2000, 0x200b, 0x2028, 0x202a,
    0x202f, 0x2030, 0x205f, 0x2060, 0x3000, 0x3001]

/-- Whether a character separates words. -/
def isBlank (c : Char) : Bool :=
  inRanges blankBounds c.toNat

/-- Counts the words that begin in the rest of a text, given whether a word is under way. -/
def countWords (count : Nat) (inWord : Bool) : List Char → Nat
  | [] => count
  | c :: rest =>
    if isBlank c then countWords count false rest
    else countWords (if inWord then count else count + 1) true rest

/-- The number of words in a text. -/
def wordCount (text : String) : Nat :=
  countWords 0 false text.toList

end WalletGateway.Text
