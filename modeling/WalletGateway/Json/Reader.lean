import WalletGateway.Json.Skip

/-!
# Readers of typed values

A reader takes one value of a given type from the front of the input, with the blanks before it.
Every reader carries the proof that it takes at least one byte, so that lists and objects of values
can be read in a loop.

A value of another type is taken as well, so that the fault stands at its end; of a list or an
object only the bracket is looked at.
-/

namespace WalletGateway.Json

/-- A reader of values of one type. -/
structure Reader (γ : Type) where
  read : List UInt8 → Reading γ
  read_length : ∀ {input : List UInt8} {parsed : Parsed γ},
    read input = .ok parsed → parsed.rest.length < input.length

/-- The same step with another value. -/
def Reading.map {γ δ : Type} (f : γ → δ) : Reading γ → Reading δ
  | .error fault => .error fault
  | .ok parsed => .ok ⟨f parsed.value, parsed.rest⟩

theorem Reading.rest_of_map {γ δ : Type} {f : γ → δ} {reading : Reading γ} {parsed : Parsed δ}
    (h : reading.map f = .ok parsed) :
    ∃ inner, reading = .ok inner ∧ inner.rest = parsed.rest := by
  cases reading with
  | error fault => simp [Reading.map] at h
  | ok inner =>
    simp only [Reading.map, Except.ok.injEq] at h
    subst h
    exact ⟨inner, rfl, rfl⟩

/-! ## Values of another type -/

/-- The fault of a value that is not wanted, at its end. -/
def unwanted {γ : Type} (expected : String) (found : γ → Found) : Reading γ → Fault
  | .error fault => fault
  | .ok parsed => .here (.invalidType (found parsed.value) expected) parsed.rest

/-- The fault of a value of another type, given its first byte. -/
def mismatch (expected : String) (byte : UInt8) (rest : List UInt8) : Fault :=
  if byte = Text.ascii 'n' then
    unwanted expected (fun _ => .null) (readWord ['u', 'l', 'l'] rest)
  else if byte = Text.ascii 't' then
    unwanted expected (fun _ => .flag true) (readWord ['r', 'u', 'e'] rest)
  else if byte = Text.ascii 'f' then
    unwanted expected (fun _ => .flag false) (readWord ['a', 'l', 's', 'e'] rest)
  else if byte = Text.ascii '-' then unwanted expected Number.found (readNumber true rest)
  else if isDigit byte then unwanted expected Number.found (readNumber false (byte :: rest))
  else if byte = Text.ascii '"' then unwanted expected Found.text (readQuoted rest)
  else if byte = Text.ascii '[' then .here (.invalidType .list expected) (byte :: rest)
  else if byte = Text.ascii '{' then .here (.invalidType .object expected) (byte :: rest)
  else .atNext .expectedValue (byte :: rest)

namespace Reader

variable {γ δ : Type}

/-- A reader that decides on the first byte of the value whether the type is right. -/
def ofFirst (expected : String) (read : UInt8 → List UInt8 → Option (Reading γ))
    (read_length : ∀ {byte : UInt8} {rest : List UInt8} {parsed : Parsed γ},
      read byte rest = some (.ok parsed) → parsed.rest.length ≤ rest.length) : Reader γ where
  read input :=
    match skipBlanks input with
    | [] => .error (.atNext .endInValue [])
    | byte :: rest =>
      match read byte rest with
      | none => .error (mismatch expected byte rest)
      | some reading => reading
  read_length := by
    intro input parsed h
    split at h
    · simp at h
    · rename_i hblank
      have := length_lt_of_skipBlanks_eq hblank
      split at h
      · simp at h
      · rename_i hread
        subst h
        have := read_length hread
        omega

/-- The same reader with another value. -/
def map (f : γ → δ) (reader : Reader γ) : Reader δ where
  read input := (reader.read input).map f
  read_length := by
    intro input parsed h
    obtain ⟨inner, hinner, hrest⟩ := Reading.rest_of_map h
    exact hrest ▸ reader.read_length hinner

/-- Truth values. -/
def flag : Reader Bool :=
  ofFirst "a boolean"
    (fun byte rest =>
      if byte = Text.ascii 't' then
        some (Reading.map (fun _ => true) (readWord ['r', 'u', 'e'] rest))
      else if byte = Text.ascii 'f' then
        some (Reading.map (fun _ => false) (readWord ['a', 'l', 's', 'e'] rest))
      else none)
    (by
      intro byte rest parsed h
      split at h
      · obtain ⟨word, hword, hrest⟩ := Reading.rest_of_map (Option.some.inj h)
        exact hrest ▸ readWord_length hword
      · split at h
        · obtain ⟨word, hword, hrest⟩ := Reading.rest_of_map (Option.some.inj h)
          exact hrest ▸ readWord_length hword
        · simp at h)

/-- Texts. -/
def text : Reader String :=
  ofFirst "a string"
    (fun byte rest => if byte = Text.ascii '"' then some (readQuoted rest) else none)
    (by
      intro byte rest parsed h
      split at h
      · exact Nat.le_of_lt (readQuoted_length (Option.some.inj h))
      · simp at h)

/-- A number that has been read, if it belongs to the wanted type. -/
def checkNumber (expected : String) (accept : Number → Option γ) :
    Reading Number → Reading γ
  | .error fault => .error fault
  | .ok number =>
    match accept number.value with
    | some value => .ok ⟨value, number.rest⟩
    | none =>
      let found := number.value.found
      let cause : Fault.Cause := match number.value with
        | .float .. => .invalidType found expected
        | _ => .invalidValue found expected
      .error (.here cause number.rest)

/-- Numbers of one type. -/
def number (expected : String) (accept : Number → Option γ) : Reader γ :=
  ofFirst expected
    (fun byte rest =>
      if byte = Text.ascii '-' then some (checkNumber expected accept (readNumber true rest))
      else if isDigit byte then
        some (checkNumber expected accept (readNumber false (byte :: rest)))
      else none)
    (by
      have hcheck : ∀ {reading : Reading Number} {parsed : Parsed γ},
          checkNumber expected accept reading = .ok parsed →
            ∃ inner, reading = .ok inner ∧ inner.rest = parsed.rest := by
        intro reading parsed h
        unfold checkNumber at h
        split at h
        · simp at h
        · rename_i inner
          split at h
          · simp only [Except.ok.injEq] at h
            subst h
            exact ⟨inner, rfl, rfl⟩
          · simp at h
      intro byte rest parsed h
      split at h
      · obtain ⟨inner, hinner, hrest⟩ := hcheck (Option.some.inj h)
        exact hrest ▸ Nat.le_of_lt (readNumber_length hinner)
      · split at h
        · obtain ⟨inner, hinner, hrest⟩ := hcheck (Option.some.inj h)
          exact hrest ▸ Nat.le_of_lt_succ (readNumber_length hinner)
        · simp at h)

/-- Signed 64-bit integers. -/
def int64 : Reader Int :=
  number "i64" fun
    | .unsigned value => if value < UInt64.size / 2 then some value else none
    | .negative magnitude => some (-magnitude)
    | .float .. => none

/-- Unsigned 32-bit integers. -/
def word32 : Reader UInt32 :=
  number "u32" fun
    | .unsigned value => if value < UInt32.size then some (UInt32.ofNat value) else none
    | _ => none

/-- Unsigned 64-bit integers. -/
def word64 : Reader UInt64 :=
  number "u64" fun
    | .unsigned value => some (UInt64.ofNat value)
    | _ => none

/-- Values that may be null. -/
def optional (reader : Reader γ) : Reader (Option γ) where
  read input :=
    match skipBlanks input with
    | [] => (reader.read input).map some
    | byte :: rest =>
      if byte = Text.ascii 'n' then
        match readWord ['u', 'l', 'l'] rest with
        | .error fault => .error fault
        | .ok word => .ok ⟨none, word.rest⟩
      else (reader.read input).map some
  read_length := by
    intro input parsed h
    split at h
    · obtain ⟨inner, hinner, hrest⟩ := Reading.rest_of_map h
      exact hrest ▸ reader.read_length hinner
    · rename_i hblank
      have := length_lt_of_skipBlanks_eq hblank
      split at h
      · split at h
        · simp at h
        · rename_i hword
          have := readWord_length hword
          simp only [Except.ok.injEq] at h
          subst h
          simp only
          omega
      · obtain ⟨inner, hinner, hrest⟩ := Reading.rest_of_map h
        exact hrest ▸ reader.read_length hinner

end Reader

/-! ## Lists -/

/-- Goes to the next item of a list.  The answer says whether there is one; if not, the closing
bracket has been taken. -/
def nextItem (first : Bool) (input : List UInt8) : Reading Bool :=
  match skipBlanks input with
  | [] => .error (.atNext .endInList [])
  | byte :: rest =>
    if byte = Text.ascii ']' then .ok ⟨false, rest⟩
    else if first then .ok ⟨true, byte :: rest⟩
    else if byte = Text.ascii ',' then
      match skipBlanks rest with
      | [] => .error (.atNext .endInValue [])
      | byte :: rest =>
        if byte = Text.ascii ']' then .error (.atNext .trailingComma (byte :: rest))
        else .ok ⟨true, byte :: rest⟩
    else .error (.atNext .expectedCommaInList (byte :: rest))

theorem nextItem_length {first : Bool} {input : List UInt8} {parsed : Parsed Bool}
    (h : nextItem first input = .ok parsed) : parsed.rest.length ≤ input.length := by
  unfold nextItem at h
  split at h
  · simp at h
  · rename_i byte rest hblank
    have := length_lt_of_skipBlanks_eq hblank
    split at h
    · simp only [Except.ok.injEq] at h
      subst h
      exact Nat.le_of_lt this
    · split at h
      · simp only [Except.ok.injEq] at h
        subst h
        exact this
      · split at h
        · split at h
          · simp at h
          · rename_i hnext
            have := length_lt_of_skipBlanks_eq hnext
            split at h
            · simp at h
            · simp only [Except.ok.injEq] at h
              subst h
              simp only [List.length_cons]
              omega
        · simp at h

/-- Reads the items of a list after its bracket.  `done` holds the items so far, the last one
first. -/
def readItems {γ : Type} (item : Reader γ) (first : Bool) (done : List γ) (input : List UInt8) :
    Reading (List γ) :=
  match _hnext : nextItem first input with
  | .error fault => .error fault
  | .ok next =>
    if next.value then
      match _hitem : item.read next.rest with
      | .error fault => .error fault
      | .ok parsed => readItems item false (parsed.value :: done) parsed.rest
    else .ok ⟨done.reverse, next.rest⟩
termination_by input.length
decreasing_by
  have := nextItem_length _hnext
  have := item.read_length _hitem
  omega

theorem readItems_length {γ : Type} {item : Reader γ} {first : Bool} {done : List γ}
    {input : List UInt8} {parsed : Parsed (List γ)}
    (h : readItems item first done input = .ok parsed) : parsed.rest.length ≤ input.length := by
  induction hn : input.length using Nat.strongRecOn generalizing first done input with
  | ind n ih =>
    rw [readItems] at h
    split at h
    · simp at h
    · rename_i hnext
      have hle := nextItem_length hnext
      split at h
      · split at h
        · simp at h
        · rename_i hitem
          have hlt := item.read_length hitem
          have := ih _ (by omega) h rfl
          omega
      · simp only [Except.ok.injEq] at h
        subst h
        exact hn ▸ hle

/-- Lists. -/
def Reader.list {γ : Type} (item : Reader γ) : Reader (List γ) :=
  ofFirst "a sequence"
    (fun byte rest =>
      if byte = Text.ascii '[' then some (readItems item true [] rest) else none)
    (by
      intro byte rest parsed h
      split at h
      · exact readItems_length (Option.some.inj h)
      · simp at h)

/-! ## Whole texts -/

/-- Reads a text that is one value and nothing else. -/
def decode {γ : Type} (reader : Reader γ) (input : List UInt8) : Except Fault γ :=
  match reader.read input with
  | .error fault => .error fault
  | .ok parsed =>
    match skipBlanks parsed.rest with
    | [] => .ok parsed.value
    | byte :: rest => .error (.atNext .trailingCharacters (byte :: rest))

end WalletGateway.Json
