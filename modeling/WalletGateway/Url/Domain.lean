import WalletGateway.Text.Basic
import WalletGateway.Text.Composition
import WalletGateway.Url.Folding
import WalletGateway.Url.Label
import WalletGateway.Url.Punycode

/-!
# Domains

The ASCII form of a domain: its characters are folded, and a label with characters outside ASCII is
written in Punycode behind the mark `xn--`.  A label that comes with the mark must be the ASCII form
of such a label.
-/

namespace WalletGateway.Url.Domain

/-- The mark of a label in Punycode. -/
def mark : List Char := "xn--".toList

/-- A text as it counts in a domain. -/
def folded (text : List Char) : List Char :=
  Text.composed ((Text.decomposed text).flatMap Folding.fold)

/-- The ASCII form of a label. -/
def written (text : List Char) : List Char :=
  if Label.isAscii text then text else mark ++ Punycode.encode text

/-- The most characters behind the mark that are read. -/
def longestMarked : Nat := 2000

/-- The label that a folded text stands for. -/
def label? (text : List Char) : Option (List Char) :=
  if mark.isPrefixOf text then
    let marked := text.drop mark.length
    if longestMarked < marked.length then none
    else
      (Punycode.decode? marked).filter fun label =>
        !Label.isAscii label && folded label == label && written label == text
  else some text

/-- The ASCII form of a domain. -/
def toAscii? (text : List Char) : Option (List Char) := do
  let labels ← (Text.split '.' (folded text)).mapM label?
  if labels.all Label.isValid && Label.keepDirection labels then
    some (['.'].intercalate (labels.map written))
  else none

end WalletGateway.Url.Domain
