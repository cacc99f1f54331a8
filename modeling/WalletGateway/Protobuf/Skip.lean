import WalletGateway.Protobuf.Varint

/-!
# Unknown fields

A record may hold fields that its reader does not know.  They are passed over; a group is passed
over together with all that it contains.  Each open group takes one level of the nesting limit.
-/

namespace WalletGateway.Protobuf

/-- Passes over content that holds no further entries. -/
def skipScalar (wireType : WireType) (input : List UInt8) : Except Fault (Parsed Unit) :=
  match wireType with
  | .varint => (readVarint input).map (·.map fun _ => ())
  | .fixed64 => (readBytes 8 input).map (·.map fun _ => ())
  | .fixed32 => (readBytes 4 input).map (·.map fun _ => ())
  | .lengthDelimited => (readDelimited input).map (·.map fun _ => ())
  | .startGroup | .endGroup => .error (.bare .unexpectedEndGroup)

theorem skipScalar_measure {wireType : WireType} {input : List UInt8} {parsed : Parsed Unit}
    (h : skipScalar wireType input = .ok parsed) :
    parsed.rest.length + parsed.count = input.length := by
  unfold skipScalar at h
  split at h
  · cases hread : readVarint input with
    | error fault => simp [hread, Except.map] at h
    | ok value =>
      simp only [hread, Except.map, Except.ok.injEq] at h
      subst h
      exact (readVarint_measure hread).1
  · cases hread : readBytes 8 input with
    | error fault => simp [hread, Except.map] at h
    | ok value =>
      simp only [hread, Except.map, Except.ok.injEq] at h
      subst h
      exact readBytes_measure hread
  · cases hread : readBytes 4 input with
    | error fault => simp [hread, Except.map] at h
    | ok value =>
      simp only [hread, Except.map, Except.ok.injEq] at h
      subst h
      exact readBytes_measure hread
  · cases hread : readDelimited input with
    | error fault => simp [hread, Except.map] at h
    | ok value =>
      simp only [hread, Except.map, Except.ok.injEq] at h
      subst h
      exact readDelimited_measure hread
  · simp at h
  · simp at h

/-- Passes over entries until the given groups, innermost first, are closed.  `count` is the
number of bytes taken so far. -/
def skipGroups (limit : Nat) (groups : List Nat) (count : Nat) (input : List UInt8) :
    Except Fault (Parsed Unit) :=
  match groups with
  | [] => .ok ⟨(), input, count⟩
  | tag :: outer =>
    match _hkey : readKey input with
    | .error fault => .error fault
    | .ok key =>
      match key.value.wireType with
      | .endGroup =>
        if key.value.tag = tag then skipGroups limit outer (count + key.count) key.rest
        else .error (.bare .unexpectedEndGroup)
      | .startGroup =>
        if limit ≤ groups.length then .error (.bare .recursionLimit)
        else skipGroups limit (key.value.tag :: groups) (count + key.count) key.rest
      | wireType =>
        if limit ≤ groups.length then .error (.bare .recursionLimit)
        else
          match _hskip : skipScalar wireType key.rest with
          | .error fault => .error fault
          | .ok content =>
            skipGroups limit groups (count + key.count + content.count) content.rest
termination_by input.length
decreasing_by
  all_goals have hmeasure := readKey_measure _hkey
  · omega
  · omega
  · have hcontent := skipScalar_measure _hskip
    omega

/-- Passes over the content of one unknown field. -/
def skip (limit : Nat) (key : Key) (input : List UInt8) : Except Fault (Parsed Unit) :=
  if limit = 0 then .error (.bare .recursionLimit)
  else
    match key.wireType with
    | .startGroup => skipGroups limit [key.tag] 0 input
    | wireType => skipScalar wireType input

end WalletGateway.Protobuf
