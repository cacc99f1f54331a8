/-!
# Texts as bytes and in pieces

The UTF-8 form of a text as a list of bytes, and back.  `ofUtf8?` refuses bytes that are not
well-formed UTF-8: overlong forms, surrogates and values beyond U+10FFFF.

`split` and `cut` take a list apart at separators, be it of characters or of bytes.
-/

namespace WalletGateway.Text

/-! ## Bytes -/

/-- The UTF-8 form of a text. -/
def utf8 (text : String) : List UInt8 :=
  text.toByteArray.data.toList

/-- The text with the given UTF-8 form, if the bytes are well-formed. -/
def ofUtf8? (bytes : List UInt8) : Option String :=
  String.fromUTF8? ⟨bytes.toArray⟩

/-- A text is read from its own UTF-8 form, and from nothing else. -/
theorem ofUtf8?_eq_some_iff {bytes : List UInt8} {text : String} :
    ofUtf8? bytes = some text ↔ utf8 text = bytes := by
  unfold ofUtf8? String.fromUTF8? utf8
  constructor
  · intro h
    split at h
    · obtain rfl := Option.some.inj h
      rfl
    · contradiction
  · rintro rfl
    exact dif_pos text.isValidUTF8

/-- The byte of an ASCII character. -/
@[inline] def ascii (c : Char) : UInt8 :=
  UInt8.ofNat c.toNat

/-! ## Pieces -/

/-- The pieces of a list between separators: one more than there are separators. -/
def split {α : Type} [DecidableEq α] (separator : α) : List α → List (List α)
  | [] => [[]]
  | first :: rest =>
    if first = separator then [] :: split separator rest
    else
      match split separator rest with
      | [] => [[first]]
      | piece :: pieces => (first :: piece) :: pieces

/-- What stands before the first separator, and what stands behind it. -/
def cut {α : Type} [DecidableEq α] (separator : α) (list : List α) : List α × List α :=
  (list.takeWhile (· ≠ separator), (list.dropWhile (· ≠ separator)).drop 1)

end WalletGateway.Text
