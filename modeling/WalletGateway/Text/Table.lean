import WalletGateway.Text.Basic
import WalletGateway.Text.Hex

/-!
# Tables of characters

A set of code points is the ascending list of the points where it begins and ends, in turn.

Other tables are written as texts: entries with commas between them, each of numbers in base sixteen
with blanks between them.
-/

namespace WalletGateway.Text

/-- Whether a code point lies in the set: an odd number of bounds lies at or below it. -/
def inRanges (bounds : List Nat) (point : Nat) : Bool :=
  (bounds.takeWhile (· ≤ point)).length % 2 == 1

/-- The entries of a table that stands on several lines. -/
def entries (lines : List String) : List (List Nat) :=
  lines.flatMap fun line =>
    (split ',' line.toList).map fun entry => (split ' ' entry).map ofHex

end WalletGateway.Text
