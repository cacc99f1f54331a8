import WalletGateway.Json.Reader

/-!
# Records

A record is read from an object, whose members are found by name, or from a list, whose items are
the members in their order.  Members that are absent keep the value of the initial record; members
of an object that are not known are passed over, and known ones may not be repeated.
-/

namespace WalletGateway.Json

/-- A member of a record: its name and how it is read into a record. -/
structure Member (α : Type) where
  name : String
  reader : α → Reader α

/-- The member that is read by a reader and stored by a setter. -/
def Member.of {α γ : Type} (name : String) (reader : Reader γ) (set : γ → α → α) : Member α where
  name
  reader record := reader.map fun value => set value record

/-- Reads a key after its opening quote. -/
def readKey (input : List UInt8) : Reading (Option String) :=
  match readQuoted input with
  | .error fault => .error fault
  | .ok key => .ok ⟨some key.value, key.rest⟩

/-- Goes to the next key of an object.  The answer is the key if there is one; if not, the closing
bracket has been taken. -/
def nextKey (first : Bool) (input : List UInt8) : Reading (Option String) :=
  match skipBlanks input with
  | [] => .error (.atNext .endInObject [])
  | byte :: rest =>
    if byte = Text.ascii '}' then .ok ⟨none, rest⟩
    else if byte = Text.ascii ',' ∧ ¬ first then
      match skipBlanks rest with
      | [] => .error (.atNext .endInValue [])
      | byte :: rest =>
        if byte = Text.ascii '"' then readKey rest
        else if byte = Text.ascii '}' then .error (.atNext .trailingComma (byte :: rest))
        else .error (.atNext .keyNotText (byte :: rest))
    else if first then
      if byte = Text.ascii '"' then readKey rest
      else .error (.atNext .keyNotText (byte :: rest))
    else .error (.atNext .expectedCommaInObject (byte :: rest))

theorem readKey_length {input : List UInt8} {parsed : Parsed (Option String)}
    (h : readKey input = .ok parsed) : parsed.rest.length < input.length := by
  unfold readKey at h
  split at h
  · simp at h
  · rename_i hkey
    have := readQuoted_length hkey
    simp only [Except.ok.injEq] at h
    subst h
    exact this

theorem nextKey_length {first : Bool} {input : List UInt8} {parsed : Parsed (Option String)}
    (h : nextKey first input = .ok parsed) : parsed.rest.length < input.length := by
  unfold nextKey at h
  split at h
  · simp at h
  · rename_i byte rest hblank
    have := length_lt_of_skipBlanks_eq hblank
    split at h
    · simp only [Except.ok.injEq] at h
      subst h
      exact this
    · split at h
      · split at h
        · simp at h
        · rename_i hnext
          have := length_lt_of_skipBlanks_eq hnext
          split at h
          · have := readKey_length h
            omega
          · split at h <;> simp at h
      · split at h
        · split at h
          · have := readKey_length h
            omega
          · simp at h
        · simp at h

/-- Takes the colon after a key. -/
def readColon (input : List UInt8) : Reading Unit :=
  match skipBlanks input with
  | [] => .error (.atNext .endInObject [])
  | byte :: rest =>
    if byte = Text.ascii ':' then .ok ⟨(), rest⟩
    else .error (.atNext .expectedColon (byte :: rest))

theorem readColon_length {input : List UInt8} {parsed : Parsed Unit}
    (h : readColon input = .ok parsed) : parsed.rest.length < input.length := by
  unfold readColon at h
  split at h
  · simp at h
  · rename_i hblank
    have := length_lt_of_skipBlanks_eq hblank
    split at h
    · simp only [Except.ok.injEq] at h
      subst h
      exact this
    · simp at h

/-- Where an object stands after a look at its end: blanks and a closing bracket are taken. -/
def afterLookAhead (input : List UInt8) : List UInt8 :=
  match skipBlanks input with
  | [] => []
  | byte :: rest => if byte = Text.ascii '}' then rest else byte :: rest

/-- Reads the members of an object after its bracket.  `seen` holds the names of the members that
have been read. -/
def readMembers {α : Type} (members : List (Member α)) (first : Bool) (seen : List String)
    (record : α) (input : List UInt8) : Reading α :=
  match _hkey : nextKey first input with
  | .error fault => .error fault
  | .ok ⟨none, rest⟩ => .ok ⟨record, rest⟩
  | .ok ⟨some name, rest⟩ =>
    match members.find? fun member => member.name == name with
    | none =>
      match _hcolon : readColon rest with
      | .error fault => .error fault
      | .ok colon =>
        match _hvalue : skipValue colon.rest with
        | .error fault => .error fault
        | .ok value => readMembers members false seen record value.rest
    | some member =>
      if seen.contains name then
        .error (.here (.duplicateField name) (afterLookAhead rest))
      else
        match _hcolon : readColon rest with
        | .error fault => .error fault
        | .ok colon =>
          match _hvalue : (member.reader record).read colon.rest with
          | .error fault => .error fault
          | .ok value => readMembers members false (name :: seen) value.value value.rest
termination_by input.length
decreasing_by
  · have := nextKey_length _hkey
    have := readColon_length _hcolon
    have := skipValue_length _hvalue
    simp only at *
    omega
  · have := nextKey_length _hkey
    have := readColon_length _hcolon
    have := (member.reader record).read_length _hvalue
    simp only at *
    omega

theorem readMembers_length {α : Type} {members : List (Member α)} {first : Bool}
    {seen : List String} {record : α} {input : List UInt8} {parsed : Parsed α}
    (h : readMembers members first seen record input = .ok parsed) :
    parsed.rest.length ≤ input.length := by
  induction hn : input.length using Nat.strongRecOn generalizing first seen record input with
  | ind n ih =>
    rw [readMembers] at h
    split at h
    · simp at h
    · rename_i hkey
      have := nextKey_length hkey
      simp only [Except.ok.injEq] at h
      subst h
      simp only at *
      omega
    · rename_i hkey
      have := nextKey_length hkey
      simp only at this
      split at h
      · split at h
        · simp at h
        · rename_i hcolon
          have := readColon_length hcolon
          split at h
          · simp at h
          · rename_i hvalue
            have := skipValue_length hvalue
            have := ih _ (by omega) h rfl
            omega
      · rename_i member _
        split at h
        · simp at h
        · split at h
          · simp at h
          · rename_i hcolon
            have := readColon_length hcolon
            split at h
            · simp at h
            · rename_i hvalue
              have := (member.reader record).read_length hvalue
              have := ih _ (by omega) h rfl
              omega

/-- Takes the bracket that closes a list all of whose items have been read. -/
def closeList (input : List UInt8) : Reading Unit :=
  match skipBlanks input with
  | [] => .error (.atNext .endInList [])
  | byte :: rest =>
    if byte = Text.ascii ']' then .ok ⟨(), rest⟩
    else if byte = Text.ascii ',' then
      let next := skipBlanks rest
      if next.head? = some (Text.ascii ']') then .error (.atNext .trailingComma next)
      else .error (.atNext .trailingCharacters next)
    else .error (.atNext .trailingCharacters (byte :: rest))

theorem closeList_length {input : List UInt8} {parsed : Parsed Unit}
    (h : closeList input = .ok parsed) : parsed.rest.length ≤ input.length := by
  unfold closeList at h
  split at h
  · simp at h
  · rename_i hblank
    have := length_lt_of_skipBlanks_eq hblank
    split at h
    · simp only [Except.ok.injEq] at h
      subst h
      exact Nat.le_of_lt this
    · split at h
      · simp only at h
        split at h <;> simp at h
      · simp at h

/-- Reads the members of a record from a list, after its bracket. -/
def readPositions {α : Type} (members : List (Member α)) (first : Bool) (record : α)
    (input : List UInt8) : Reading α :=
  match members with
  | [] => Reading.map (fun _ => record) (closeList input)
  | member :: members =>
    match nextItem first input with
    | .error fault => .error fault
    | .ok next =>
      if next.value then
        match (member.reader record).read next.rest with
        | .error fault => .error fault
        | .ok value => readPositions members false value.value value.rest
      else .ok ⟨record, next.rest⟩

theorem readPositions_length {α : Type} {members : List (Member α)} {first : Bool} {record : α}
    {input : List UInt8} {parsed : Parsed α}
    (h : readPositions members first record input = .ok parsed) :
    parsed.rest.length ≤ input.length := by
  induction members generalizing first record input with
  | nil =>
    obtain ⟨closed, hclosed, hrest⟩ := Reading.rest_of_map h
    exact hrest ▸ closeList_length hclosed
  | cons member members ih =>
    rw [readPositions] at h
    split at h
    · simp at h
    · rename_i hnext
      have := nextItem_length hnext
      split at h
      · split at h
        · simp at h
        · rename_i hvalue
          have := (member.reader record).read_length hvalue
          have := ih h
          omega
      · simp only [Except.ok.injEq] at h
        subst h
        exact this

/-- Records with the given members. -/
def Reader.record {α : Type} (name : String) (initial : α) (members : List (Member α)) :
    Reader α :=
  ofFirst ("struct " ++ name)
    (fun byte rest =>
      if byte = Text.ascii '[' then some (readPositions members true initial rest)
      else if byte = Text.ascii '{' then some (readMembers members true [] initial rest)
      else none)
    (by
      intro byte rest parsed h
      split at h
      · exact readPositions_length (Option.some.inj h)
      · split at h
        · exact readMembers_length (Option.some.inj h)
        · simp at h)

end WalletGateway.Json
