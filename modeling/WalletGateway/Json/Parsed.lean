import WalletGateway.Json.Fault
import WalletGateway.Text.Basic

/-!
# Reading steps

The answer of every reading step is a value and the input after it.  Blanks of JSON are space, tab,
line feed and carriage return.
-/

namespace WalletGateway.Json

/-- A value read from the front of the input. -/
structure Parsed (γ : Type) where
  value : γ
  rest : List UInt8

/-- The result of a reading step. -/
abbrev Reading (γ : Type) := Except Fault (Parsed γ)

/-- A byte that may stand between tokens. -/
def isBlank (byte : UInt8) : Bool :=
  byte == 0x20 || byte == 0x09 || byte == 0x0a || byte == 0x0d

/-- The input after its leading blanks. -/
def skipBlanks (input : List UInt8) : List UInt8 :=
  input.dropWhile isBlank

theorem length_dropWhile_le {α : Type} (p : α → Bool) (input : List α) :
    (input.dropWhile p).length ≤ input.length :=
  (List.dropWhile_sublist p).length_le

theorem length_skipBlanks_le (input : List UInt8) :
    (skipBlanks input).length ≤ input.length :=
  length_dropWhile_le _ _

theorem length_lt_of_skipBlanks_eq {input rest : List UInt8} {byte : UInt8}
    (h : skipBlanks input = byte :: rest) : rest.length < input.length := by
  have := length_skipBlanks_le input
  rw [h, List.length_cons] at this
  omega

/-- Reads the rest of a word such as `null` whose first letter has been taken. -/
def readWord : List Char → List UInt8 → Reading Unit
  | [], input => .ok ⟨(), input⟩
  | _ :: _, [] => .error (.here .endInValue [])
  | letter :: letters, byte :: rest =>
    if byte = Text.ascii letter then readWord letters rest
    else .error (.here .expectedWord rest)

theorem readWord_length {letters : List Char} {input : List UInt8} {parsed : Parsed Unit}
    (h : readWord letters input = .ok parsed) : parsed.rest.length ≤ input.length := by
  induction letters generalizing input with
  | nil =>
    simp only [readWord, Except.ok.injEq] at h
    subst h
    simp
  | cons letter letters ih =>
    cases input with
    | nil => simp [readWord] at h
    | cons byte rest =>
      simp only [readWord] at h
      split at h
      · have := ih h
        simp
        omega
      · simp at h

end WalletGateway.Json
