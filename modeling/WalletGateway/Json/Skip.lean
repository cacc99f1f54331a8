import WalletGateway.Json.Number
import WalletGateway.Json.Text

/-!
# Values that are passed over

The value of an unknown member is passed over.  Its structure is checked, but numbers may be out of
range, texts may hold any bytes, and it may be nested to any depth: the open brackets are kept in a
list.
-/

namespace WalletGateway.Json

/-- Passes over the digits of an exponent. -/
def skipDigits (input : List UInt8) : Reading Unit :=
  match input with
  | [] => .error (.here .invalidNumber [])
  | byte :: rest =>
    if isDigit byte then .ok ⟨(), rest.dropWhile isDigit⟩
    else .error (.here .invalidNumber rest)

/-- Passes over an exponent after its letter. -/
def skipExponent (input : List UInt8) : Reading Unit :=
  match input with
  | [] => skipDigits []
  | byte :: rest =>
    if byte = Text.ascii '+' ∨ byte = Text.ascii '-' then skipDigits rest
    else skipDigits (byte :: rest)

/-- Passes over what follows the digits of a number. -/
def skipScale (input : List UInt8) : Reading Unit :=
  match exponentMark? input with
  | some rest => skipExponent rest
  | none => .ok ⟨(), input⟩

/-- Passes over what follows the whole part of a number. -/
def skipFraction (input : List UInt8) : Reading Unit :=
  match input with
  | [] => .ok ⟨(), []⟩
  | byte :: rest =>
    if byte = Text.ascii '.' then
      if rest.head?.any isDigit then skipScale (rest.dropWhile isDigit)
      else .error (.atNext .invalidNumber rest)
    else skipScale (byte :: rest)

/-- Passes over a number after its sign. -/
def skipNumber (input : List UInt8) : Reading Unit :=
  match input with
  | [] => .error (.here .invalidNumber [])
  | byte :: rest =>
    if byte = Text.ascii '0' then
      if rest.head?.any isDigit then .error (.atNext .invalidNumber rest)
      else skipFraction rest
    else if isDigit byte then skipFraction (rest.dropWhile isDigit)
    else .error (.here .invalidNumber rest)

theorem skipDigits_length {input : List UInt8} {parsed : Parsed Unit}
    (h : skipDigits input = .ok parsed) : parsed.rest.length ≤ input.length := by
  unfold skipDigits at h
  split at h
  · simp at h
  · rename_i byte rest
    split at h
    · simp only [Except.ok.injEq] at h
      subst h
      exact Nat.le_succ_of_le (length_dropWhile_le isDigit rest)
    · simp at h

theorem skipExponent_length {input : List UInt8} {parsed : Parsed Unit}
    (h : skipExponent input = .ok parsed) : parsed.rest.length ≤ input.length := by
  unfold skipExponent at h
  split at h
  · exact skipDigits_length h
  · split at h
    · exact Nat.le_succ_of_le (skipDigits_length h)
    · exact skipDigits_length h

theorem skipScale_length {input : List UInt8} {parsed : Parsed Unit}
    (h : skipScale input = .ok parsed) : parsed.rest.length ≤ input.length := by
  unfold skipScale at h
  split at h
  · rename_i hmark
    have := exponentMark?_length hmark
    have := skipExponent_length h
    omega
  · simp only [Except.ok.injEq] at h
    subst h
    simp

theorem skipFraction_length {input : List UInt8} {parsed : Parsed Unit}
    (h : skipFraction input = .ok parsed) : parsed.rest.length ≤ input.length := by
  unfold skipFraction at h
  split at h
  · simp only [Except.ok.injEq] at h
    subst h
    simp
  · rename_i byte rest
    split at h
    · split at h
      · have := skipScale_length h
        have := length_dropWhile_le isDigit rest
        simp only [List.length_cons]
        omega
      · simp at h
    · exact skipScale_length h

theorem skipNumber_length {input : List UInt8} {parsed : Parsed Unit}
    (h : skipNumber input = .ok parsed) : parsed.rest.length < input.length := by
  unfold skipNumber at h
  split at h
  · simp at h
  · rename_i byte rest
    split at h
    · split at h
      · simp at h
      · have := skipFraction_length h
        simp only [List.length_cons]
        omega
    · split at h
      · have := skipFraction_length h
        have := length_dropWhile_le isDigit rest
        simp only [List.length_cons]
        omega
      · simp at h

/-- An open bracket. -/
inductive Bracket where
  | list
  | object
  deriving DecidableEq

/-- The byte that closes a bracket. -/
def Bracket.closing : Bracket → UInt8
  | list => Text.ascii ']'
  | object => Text.ascii '}'

/-- The fault where the input ends inside a bracket. -/
def Bracket.endFault : Bracket → Fault.Cause
  | list => .endInList
  | object => .endInObject

/-- The fault where neither a comma nor the closing byte comes. -/
def Bracket.commaFault : Bracket → Fault.Cause
  | list => .expectedCommaInList
  | object => .expectedCommaInObject

/-- Passes over a key and its colon. -/
def skipKey (input : List UInt8) : Reading Unit :=
  match skipBlanks input with
  | [] => .error (.atNext .endInObject [])
  | byte :: rest =>
    if byte ≠ Text.ascii '"' then .error (.atNext .keyNotText (byte :: rest))
    else
      match skipText rest with
      | .error fault => .error fault
      | .ok key =>
        match skipBlanks key.rest with
        | [] => .error (.atNext .endInObject [])
        | byte :: rest =>
          if byte = Text.ascii ':' then .ok ⟨(), rest⟩
          else .error (.atNext .expectedColon (byte :: rest))

theorem skipKey_length {input : List UInt8} {parsed : Parsed Unit}
    (h : skipKey input = .ok parsed) : parsed.rest.length < input.length := by
  unfold skipKey at h
  split at h
  · simp at h
  · rename_i hquote
    have := length_lt_of_skipBlanks_eq hquote
    split at h
    · simp at h
    · split at h
      · simp at h
      · rename_i hkey
        have := skipText_length hkey
        split at h
        · simp at h
        · rename_i hcolon
          have := length_lt_of_skipBlanks_eq hcolon
          split at h
          · simp only [Except.ok.injEq] at h
            subst h
            simp only
            omega
          · simp at h

/-- Before the next member of a bracket: a list goes on with a value, an object with a key. -/
def skipToValue (bracket : Bracket) (input : List UInt8) : Reading Unit :=
  match bracket with
  | .list => .ok ⟨(), input⟩
  | .object => skipKey input

theorem skipToValue_length {bracket : Bracket} {input : List UInt8} {parsed : Parsed Unit}
    (h : skipToValue bracket input = .ok parsed) : parsed.rest.length ≤ input.length := by
  cases bracket with
  | list =>
    simp only [skipToValue, Except.ok.injEq] at h
    subst h
    simp
  | object => exact Nat.le_of_lt (skipKey_length h)

/-- Passes over a value that is no bracket, given its first byte. -/
def skipScalar (byte : UInt8) (rest : List UInt8) : Reading Unit :=
  if byte = Text.ascii 'n' then readWord ['u', 'l', 'l'] rest
  else if byte = Text.ascii 't' then readWord ['r', 'u', 'e'] rest
  else if byte = Text.ascii 'f' then readWord ['a', 'l', 's', 'e'] rest
  else if byte = Text.ascii '-' then skipNumber rest
  else if isDigit byte then skipNumber (byte :: rest)
  else if byte = Text.ascii '"' then skipText rest
  else .error (.atNext .expectedValue (byte :: rest))

theorem skipScalar_length {byte : UInt8} {rest : List UInt8} {parsed : Parsed Unit}
    (h : skipScalar byte rest = .ok parsed) : parsed.rest.length ≤ rest.length := by
  unfold skipScalar at h
  repeat' split at h
  · exact readWord_length h
  · exact readWord_length h
  · exact readWord_length h
  · exact Nat.le_of_lt (skipNumber_length h)
  · exact Nat.le_of_lt_succ (by simpa using skipNumber_length h)
  · exact Nat.le_of_lt (skipText_length h)
  · simp at h

/-- What is passed over next: a value, what follows an opened bracket, or what follows a value. -/
inductive SkipStage where
  | value
  | opened
  | finished
  deriving DecidableEq

/-- Passes over input until the open brackets, innermost first, are closed. -/
def skipOpen (stage : SkipStage) (brackets : List Bracket) (input : List UInt8) : Reading Unit :=
  match stage, brackets with
  | .value, brackets =>
    match _hinput : skipBlanks input with
    | [] => .error (.atNext .endInValue [])
    | byte :: rest =>
      if byte = Text.ascii '[' then skipOpen .opened (.list :: brackets) rest
      else if byte = Text.ascii '{' then skipOpen .opened (.object :: brackets) rest
      else
        match _hscalar : skipScalar byte rest with
        | .error fault => .error fault
        | .ok scalar => skipOpen .finished brackets scalar.rest
  | .opened, [] => .ok ⟨(), input⟩
  | .opened, bracket :: outer =>
    match _hinput : skipBlanks input with
    | [] => .error (.atNext bracket.endFault [])
    | byte :: rest =>
      if byte = bracket.closing then skipOpen .finished outer rest
      else
        match _hvalue : skipToValue bracket (byte :: rest) with
        | .error fault => .error fault
        | .ok start => skipOpen .value (bracket :: outer) start.rest
  | .finished, [] => .ok ⟨(), input⟩
  | .finished, bracket :: outer =>
    match _hinput : skipBlanks input with
    | [] => .error (.atNext bracket.endFault [])
    | byte :: rest =>
      if byte = Text.ascii ',' then
        match _hvalue : skipToValue bracket rest with
        | .error fault => .error fault
        | .ok start => skipOpen .value (bracket :: outer) start.rest
      else if byte = bracket.closing then skipOpen .finished outer rest
      else .error (.atNext bracket.commaFault (byte :: rest))
termination_by 2 * input.length + (if stage = .opened then 1 else 0)
decreasing_by
  all_goals
    have := length_lt_of_skipBlanks_eq _hinput
    have := length_skipBlanks_le input
    try have := skipScalar_length _hscalar
    try have := skipToValue_length _hvalue
    simp_all <;> omega

theorem skipOpen_length {stage : SkipStage} {brackets : List Bracket} {input : List UInt8}
    {parsed : Parsed Unit} (h : skipOpen stage brackets input = .ok parsed) :
    parsed.rest.length ≤ input.length := by
  fun_induction skipOpen stage brackets input <;> simp_all
  all_goals
    try subst h
    try have := length_lt_of_skipBlanks_eq ‹skipBlanks _ = _ :: _›
    try have := skipScalar_length ‹skipScalar _ _ = Except.ok _›
    try have := skipToValue_length ‹skipToValue _ _ = Except.ok _›
    simp_all
    try omega

/-- Passes over one value. -/
def skipValue (input : List UInt8) : Reading Unit :=
  skipOpen .value [] input

theorem skipValue_length {input : List UInt8} {parsed : Parsed Unit}
    (h : skipValue input = .ok parsed) : parsed.rest.length ≤ input.length :=
  skipOpen_length h

end WalletGateway.Json
