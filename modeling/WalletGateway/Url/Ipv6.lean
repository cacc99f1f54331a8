import WalletGateway.Text.Hex
import WalletGateway.Url.Ipv4

/-!
# IPv6 addresses

An address is written as eight hexadecimal pieces of 16 bits with colons between them.  `::` stands
for one or more zero pieces, and the last two pieces may be written like an IPv4 address.  The text
of an address shortens the first longest run of at least two zero pieces.
-/

namespace WalletGateway

/-- An IPv6 address: eight pieces. -/
structure Ipv6 where
  pieces : List UInt16
  length_pieces : pieces.length = 8
  deriving DecidableEq

namespace Ipv6

/-- Reads the four decimal numbers of an embedded IPv4 address, without leading zeros. -/
def embedded? (text : List Char) : Option (List UInt16) :=
  match (Text.split '.' text).mapM number? with
  | some [first, second, third, fourth] =>
    some [UInt16.ofNat (first * 256 + second), UInt16.ofNat (third * 256 + fourth)]
  | _ => none
where
  /-- A decimal number below 256. -/
  number? (digits : List Char) : Option Nat :=
    if !Decimal.isNumeral digits || (digits.length > 1 && digits.head? = some '0') then none
    else
      let number := Decimal.value digits
      if number ≤ 255 then some number else none

/-- Reads one piece: one to four hexadecimal digits. -/
def piece? (digits : List Char) : Option UInt16 :=
  if digits.isEmpty || digits.length > 4 then none
  else (Ipv4.number? 16 digits).map UInt16.ofNat

/-- Reads pieces with colons between them.  The last one may be an embedded IPv4 address. -/
def pieces? : List (List Char) → Option (List UInt16)
  | [] => some []
  | [last] => if last.contains '.' then embedded? last else (piece? last).map ([·])
  | part :: parts => do
    let piece ← piece? part
    let pieces ← pieces? parts
    return piece :: pieces

/-- Cuts a text at the first `::`. -/
def cut? : List Char → Option (List Char × List Char)
  | ':' :: ':' :: rest => some ([], rest)
  | c :: rest => (cut? rest).map fun (before, after) => (c :: before, after)
  | [] => none

/-- The pieces on one side of `::`; there may be none. -/
def side? (text : List Char) : Option (List UInt16) :=
  if text.isEmpty then some [] else pieces? (Text.split ':' text)

/-- The address with the given pieces, if there are eight. -/
def ofPieces? (pieces : List UInt16) : Option Ipv6 :=
  if h : pieces.length = 8 then some ⟨pieces, h⟩ else none

/-- The address that a text denotes. -/
def ofText? (text : List Char) : Option Ipv6 :=
  match cut? text with
  | none => (pieces? (Text.split ':' text)).bind ofPieces?
  | some (before, after) =>
    if before.contains '.' then none
    else
      match side? before, side? after with
      | some front, some back =>
        if front.length + back.length > 7 then none
        else ofPieces? (front ++ List.replicate (8 - front.length - back.length) 0 ++ back)
      | _, _ => none

/-- The first longest run of zeros, as its start and its length. -/
def zeroRun (pieces : List UInt16) : Nat × Nat :=
  let lengthAt (start : Nat) : Nat := ((pieces.drop start).takeWhile (· == 0)).length
  (List.range pieces.length).foldl
    (fun best start => if lengthAt start > best.2 then (start, lengthAt start) else best) (0, 0)

/-- Pieces as text, with colons between them. -/
def joined (pieces : List UInt16) : String :=
  String.intercalate ":" (pieces.map fun piece => Text.hex piece.toNat)

/-- The text of an address. -/
def text (address : Ipv6) : String :=
  let (start, length) := zeroRun address.pieces
  if length < 2 then joined address.pieces
  else joined (address.pieces.take start) ++ "::" ++ joined (address.pieces.drop (start + length))

end Ipv6

end WalletGateway
