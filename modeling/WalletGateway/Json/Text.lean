import WalletGateway.Json.Parsed

/-!
# Texts

A text is read up to its closing quote.  Escapes of code points beyond 16 bits are written as two
surrogates, which must come in pairs; a text that is passed over is not checked for that.
-/

namespace WalletGateway.Json

/-- The value of a hexadecimal digit. -/
def hexValue? (byte : UInt8) : Option Nat :=
  let point := byte.toNat
  if 0x30 ≤ point ∧ point ≤ 0x39 then some (point - 0x30)
  else if 0x41 ≤ point ∧ point ≤ 0x46 then some (point - 0x41 + 10)
  else if 0x61 ≤ point ∧ point ≤ 0x66 then some (point - 0x61 + 10)
  else none

/-- The value of four hexadecimal digits. -/
def hexUnit? (a b c d : UInt8) : Option Nat := do
  let a ← hexValue? a
  let b ← hexValue? b
  let c ← hexValue? c
  let d ← hexValue? d
  return ((a * 16 + b) * 16 + c) * 16 + d

/-- Reads four hexadecimal digits. -/
def readUnit (input : List UInt8) : Reading Nat :=
  match input with
  | a :: b :: c :: d :: rest =>
    match hexUnit? a b c d with
    | some unit => .ok ⟨unit, rest⟩
    | none => .error (.here .invalidEscape rest)
  | _ => .error (.here .endInText [])

theorem readUnit_length {input : List UInt8} {parsed : Parsed Nat}
    (h : readUnit input = .ok parsed) : parsed.rest.length < input.length := by
  unfold readUnit at h
  split at h
  · split at h
    · simp only [Except.ok.injEq] at h
      subst h
      simp
      omega
    · simp at h
  · simp at h

/-- A unit that opens a pair of surrogates. -/
def isLeading (unit : Nat) : Bool := 0xd800 ≤ unit && unit ≤ 0xdbff

/-- A unit that closes a pair of surrogates. -/
def isTrailing (unit : Nat) : Bool := 0xdc00 ≤ unit && unit ≤ 0xdfff

/-- Reads the second half of a pair of surrogates. -/
def readTrailing (leading : Nat) (input : List UInt8) : Reading Char :=
  match input with
  | [] => .error (.here .endInText [])
  | slash :: rest =>
    if slash ≠ Text.ascii '\\' then .error (.here .endOfEscape rest)
    else
      match rest with
      | [] => .error (.here .endInText [])
      | letter :: rest =>
        if letter ≠ Text.ascii 'u' then .error (.here .endOfEscape rest)
        else
          match readUnit rest with
          | .error fault => .error fault
          | .ok unit =>
            if isTrailing unit.value then
              .ok ⟨Char.ofNat (0x10000 + (leading - 0xd800) * 0x400 + (unit.value - 0xdc00)),
                unit.rest⟩
            else .error (.here .loneSurrogate unit.rest)

theorem readTrailing_length {leading : Nat} {input : List UInt8} {parsed : Parsed Char}
    (h : readTrailing leading input = .ok parsed) : parsed.rest.length < input.length := by
  unfold readTrailing at h
  split at h
  · simp at h
  · split at h
    · simp at h
    · split at h
      · simp at h
      · split at h
        · simp at h
        · split at h
          · simp at h
          · rename_i hunit
            have := readUnit_length hunit
            split at h
            · simp only [Except.ok.injEq] at h
              subst h
              simp
              omega
            · simp at h

/-- Reads an escape by code point after its letter. -/
def readPoint (input : List UInt8) : Reading Char :=
  match readUnit input with
  | .error fault => .error fault
  | .ok unit =>
    if isTrailing unit.value then .error (.here .loneSurrogate unit.rest)
    else if isLeading unit.value then readTrailing unit.value unit.rest
    else .ok ⟨Char.ofNat unit.value, unit.rest⟩

theorem readPoint_length {input : List UInt8} {parsed : Parsed Char}
    (h : readPoint input = .ok parsed) : parsed.rest.length < input.length := by
  unfold readPoint at h
  split at h
  · simp at h
  · rename_i hunit
    have := readUnit_length hunit
    split at h
    · simp at h
    · split at h
      · have := readTrailing_length h
        omega
      · simp only [Except.ok.injEq] at h
        subst h
        exact this

/-- The character of a one-letter escape. -/
def shortEscape? (byte : UInt8) : Option Char :=
  if byte = Text.ascii '"' then some '"'
  else if byte = Text.ascii '\\' then some '\\'
  else if byte = Text.ascii '/' then some '/'
  else if byte = Text.ascii 'b' then some '\x08'
  else if byte = Text.ascii 'f' then some '\x0c'
  else if byte = Text.ascii 'n' then some '\n'
  else if byte = Text.ascii 'r' then some '\r'
  else if byte = Text.ascii 't' then some '\t'
  else none

/-- Reads an escape after its backslash. -/
def readEscape (input : List UInt8) : Reading Char :=
  match input with
  | [] => .error (.here .endInText [])
  | byte :: rest =>
    match shortEscape? byte with
    | some c => .ok ⟨c, rest⟩
    | none =>
      if byte = Text.ascii 'u' then readPoint rest else .error (.here .invalidEscape rest)

theorem readEscape_length {input : List UInt8} {parsed : Parsed Char}
    (h : readEscape input = .ok parsed) : parsed.rest.length < input.length := by
  unfold readEscape at h
  split at h
  · simp at h
  · split at h
    · simp only [Except.ok.injEq] at h
      subst h
      simp
    · split at h
      · have := readPoint_length h
        simp
        omega
      · simp at h

/-- The text whose bytes have been read, the last one first. -/
def textOfReversed? (done : List UInt8) : Option String :=
  Text.ofUtf8? done.reverse

/-- The bytes of a text from the first one on that does not belong to UTF-8. -/
def fromInvalid (bytes : List UInt8) : List UInt8 :=
  match bytes with
  | [] => []
  | byte :: rest =>
    match ByteArray.utf8DecodeChar? ⟨(byte :: rest.take 3).toArray⟩ 0 with
    | none => byte :: rest
    | some c => fromInvalid (rest.drop (c.utf8Size - 1))
termination_by bytes.length
decreasing_by
  simp only [List.length_cons, List.length_drop]
  omega

/-- The fault of a text whose bytes are not UTF-8.  Its place is as many bytes before the end of the
written text as there are bytes from the first invalid one to the end of the text itself, in which
an escape counts as the bytes that it stands for. -/
def notUtf8 (bytes rest : List UInt8) : Fault :=
  ⟨.invalidCodePoint, rest.length + (fromInvalid bytes).length⟩

/-- Reads the rest of a text.  `done` holds the bytes of the text so far, the last one first. -/
def readText (done input : List UInt8) : Reading String :=
  match input with
  | [] => .error (.here .endInText [])
  | byte :: rest =>
    if byte = Text.ascii '"' then
      match textOfReversed? done with
      | some text => .ok ⟨text, rest⟩
      | none => .error (notUtf8 done.reverse rest)
    else if byte = Text.ascii '\\' then
      match _hescape : readEscape rest with
      | .error fault => .error fault
      | .ok c => readText ((String.utf8EncodeChar c.value).reverse ++ done) c.rest
    else if byte < 0x20 then .error (.here .controlCharacter rest)
    else readText (byte :: done) rest
termination_by input.length
decreasing_by
  · have := readEscape_length _hescape
    simp only [List.length_cons]
    omega
  · simp

theorem readText_length {done input : List UInt8} {parsed : Parsed String}
    (h : readText done input = .ok parsed) : parsed.rest.length < input.length := by
  fun_induction readText done input with
  | case1 => simp at h
  | case2 =>
    simp only [Except.ok.injEq] at h
    subst h
    simp
  | case3 => simp at h
  | case4 => simp at h
  | case5 _ _ _ hescape _ ih =>
    have := ih h
    have := readEscape_length hescape
    simp only [List.length_cons]
    omega
  | case6 => simp at h
  | case7 _ _ _ _ _ _ ih =>
    have := ih h
    simp only [List.length_cons]
    omega

/-- Reads a text after its opening quote. -/
def readQuoted (input : List UInt8) : Reading String :=
  readText [] input

theorem readQuoted_length {input : List UInt8} {parsed : Parsed String}
    (h : readQuoted input = .ok parsed) : parsed.rest.length < input.length :=
  readText_length h

/-- Passes over an escape after its backslash.  Surrogates need not be paired. -/
def skipEscape (input : List UInt8) : Reading Unit :=
  match input with
  | [] => .error (.here .endInText [])
  | byte :: rest =>
    match shortEscape? byte with
    | some _ => .ok ⟨(), rest⟩
    | none =>
      if byte = Text.ascii 'u' then
        match readUnit rest with
        | .error fault => .error fault
        | .ok unit => .ok ⟨(), unit.rest⟩
      else .error (.here .invalidEscape rest)

theorem skipEscape_length {input : List UInt8} {parsed : Parsed Unit}
    (h : skipEscape input = .ok parsed) : parsed.rest.length < input.length := by
  unfold skipEscape at h
  split at h
  · simp at h
  · split at h
    · simp only [Except.ok.injEq] at h
      subst h
      simp
    · split at h
      · split at h
        · simp at h
        · rename_i hunit
          have := readUnit_length hunit
          simp only [Except.ok.injEq] at h
          subst h
          simp
          omega
      · simp at h

/-- Passes over a text after its opening quote.  Its bytes need not be UTF-8. -/
def skipText (input : List UInt8) : Reading Unit :=
  match input with
  | [] => .error (.here .endInText [])
  | byte :: rest =>
    if byte = Text.ascii '"' then .ok ⟨(), rest⟩
    else if byte = Text.ascii '\\' then
      match _hescape : skipEscape rest with
      | .error fault => .error fault
      | .ok escape => skipText escape.rest
    else if byte < 0x20 then .error (.here .controlCharacter (byte :: rest))
    else skipText rest
termination_by input.length
decreasing_by
  · have := skipEscape_length _hescape
    simp only [List.length_cons]
    omega
  · simp

theorem skipText_length {input : List UInt8} {parsed : Parsed Unit}
    (h : skipText input = .ok parsed) : parsed.rest.length < input.length := by
  fun_induction skipText input with
  | case1 => simp at h
  | case2 =>
    simp only [Except.ok.injEq] at h
    subst h
    simp
  | case3 => simp at h
  | case4 _ _ hescape _ ih =>
    have := ih h
    have := skipEscape_length hescape
    simp only [List.length_cons]
    omega
  | case5 => simp at h
  | case6 _ _ _ _ _ ih =>
    have := ih h
    simp only [List.length_cons]
    omega

end WalletGateway.Json
