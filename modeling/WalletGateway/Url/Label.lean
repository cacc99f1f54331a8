import WalletGateway.Text.CombiningClass
import WalletGateway.Text.Direction
import WalletGateway.Text.Joining
import WalletGateway.Text.Unprintable

/-!
# Labels

The texts between the dots of a domain.  In a label with characters outside ASCII all characters
must be seen, the first one must not be a mark, and joiners may stand only where they change how
the letters around them are drawn.  If a label of a domain has characters that are written from
right to left, each of its labels must be written in one direction.
-/

namespace WalletGateway.Url.Label

open Text

/-- Whether all characters are ASCII. -/
def isAscii (text : List Char) : Bool :=
  text.all fun c => c.toNat < 0x80

/-- The sign that keeps two letters from being joined. -/
def nonjoiner : Char := '\u200c'

/-- The sign that joins two letters. -/
def joiner : Char := '\u200d'

/-- Where runs of characters begin and end, in turn, that no label has although they can be printed:
variants of texts with a dot, signs that describe ideographs, and signs for what is missing. -/
def refusedBounds : List Nat :=
  [0x2024, 0x2027, 0x2488, 0x249c, 0x2ff0, 0x3000, 0x31ef, 0x31f0, 0x33c2, 0x33c3, 0x33c7, 0x33c8,
    0x33d8, 0x33d9, 0xfe12, 0xfe13, 0xfe19, 0xfe1a, 0xfe30, 0xfe31, 0xfe52, 0xfe53, 0xfffc, 0xfffe,
    0x1f100, 0x1f101]

/-- Whether no label has a character outside ASCII. -/
def isRefused (c : Char) : Bool :=
  0x80 ≤ c.toNat
    && (isUnprintable c && c != nonjoiner && c != joiner || inRanges refusedBounds c.toNat)

/-- Whether a joiner may stand between the characters `before`, the last one first, and the
characters `after`: behind a virama, or, if it keeps letters apart, between letters that would be
joined. -/
def joinerFits (c : Char) (before after : List Char) : Bool :=
  before.head?.any (combiningClass · == virama)
    || c == nonjoiner
      && (before.find? (!isTransparent ·)).any joinsNext
      && (after.find? (!isTransparent ·)).any joinsLast

/-- Whether all joiners of a text may stand where they do, behind the characters `before`. -/
def joinersFit (before : List Char) : List Char → Bool
  | [] => true
  | c :: after =>
    (c != nonjoiner && c != joiner || joinerFits c before after) && joinersFit (c :: before) after

/-- The most characters that a label has which is not ASCII. -/
def longest : Nat := 1000

/-- Whether a folded text is a label. -/
def isValid (text : List Char) : Bool :=
  isAscii text
    || text.length ≤ longest && !text.any isRefused && !text.head?.any isMark && joinersFit [] text

/-- Whether a character makes the labels of its domain keep to one direction. -/
def isDirecting (c : Char) : Bool :=
  0x590 ≤ c.toNat && [.rightToLeft, .arabicNumber].contains (Direction.ofChar c)

/-- Whether a text has one direction: it begins with a letter, and ends, marks aside, with a letter
of the same direction or a digit; no other letters lie between, and digits of one kind only if it
is written from right to left. -/
def hasOneDirection (text : List Char) : Bool :=
  let directions := text.map Direction.ofChar
  let last? := directions.reverse.find? (· != .nonspacing)
  match directions.head? with
  | none => true
  | some .leftToRight =>
    last?.any [.leftToRight, .number].contains
      && directions.all [.leftToRight, .number, .neutral, .nonspacing].contains
  | some .rightToLeft =>
    last?.any [.rightToLeft, .number, .arabicNumber].contains
      && !directions.contains .leftToRight
      && !(directions.contains .number && directions.contains .arabicNumber)
  | some _ => false

/-- Whether the labels of a domain may stand together. -/
def keepDirection (labels : List (List Char)) : Bool :=
  !labels.any (·.any isDirecting) || labels.all hasOneDirection

end WalletGateway.Url.Label
