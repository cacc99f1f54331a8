import WalletGateway.Protobuf.Fault

/-!
# Varints, keys and delimited content

The smallest parts of an encoded record.  A varint holds seven bits per byte, least significant
first, and at most 64 bits in all.  A key is a varint that holds a tag and a wire type.

Every reader answers with `Parsed`: the value, the bytes after it and the number of bytes taken.
The lemmas `readVarint_measure` and `readKey_measure` say that both take at least one byte.
-/

namespace WalletGateway.Protobuf

/-- A value read from the front of some bytes. -/
structure Parsed (γ : Type) where
  value : γ
  /-- The bytes after the value. -/
  rest : List UInt8
  /-- How many bytes the value took. -/
  count : Nat

/-- The same reading with another value. -/
def Parsed.map {γ δ : Type} (f : γ → δ) (parsed : Parsed γ) : Parsed δ :=
  ⟨f parsed.value, parsed.rest, parsed.count⟩

/-- A number as a varint. -/
def varint (number : Nat) : List UInt8 :=
  if number < 128 then [UInt8.ofNat number]
  else UInt8.ofNat (number % 128 + 128) :: varint (number / 128)
termination_by number
decreasing_by omega

/-- Reads a varint of at most the given number of bytes.  Where all ten bytes are used, the last
one has a single bit left. -/
def readVarintWithin : Nat → List UInt8 → Except Fault (Parsed Nat)
  | 0, _ => .error (.bare .invalidVarint)
  | _ + 1, [] => .error (.bare .invalidVarint)
  | left + 1, byte :: rest =>
    if byte < 128 then
      if left = 0 ∧ 2 ≤ byte then .error (.bare .invalidVarint)
      else .ok ⟨byte.toNat, rest, 1⟩
    else
      match readVarintWithin left rest with
      | .error fault => .error fault
      | .ok high =>
        .ok ⟨byte.toNat - 128 + 128 * high.value, high.rest, high.count + 1⟩

/-- Reads a varint. -/
def readVarint (input : List UInt8) : Except Fault (Parsed Nat) :=
  readVarintWithin 10 input

theorem readVarintWithin_measure {left : Nat} {input : List UInt8} {parsed : Parsed Nat}
    (h : readVarintWithin left input = .ok parsed) :
    parsed.rest.length + parsed.count = input.length ∧ 0 < parsed.count := by
  fun_induction readVarintWithin left input generalizing parsed with
  | case1 => simp at h
  | case2 => simp at h
  | case3 => simp at h
  | case4 => simp at h; subst h; simp
  | case5 => simp at h
  | case6 left byte rest _ high _ ih =>
    rename_i heq
    have := ih heq
    simp at h; subst h; simp; omega

theorem readVarint_measure {input : List UInt8} {parsed : Parsed Nat}
    (h : readVarint input = .ok parsed) :
    parsed.rest.length + parsed.count = input.length ∧ 0 < parsed.count :=
  readVarintWithin_measure h

/-- The key of an entry. -/
structure Key where
  tag : Nat
  wireType : WireType

/-- A key as bytes. -/
def Key.write (key : Key) : List UInt8 :=
  varint (key.tag * 8 + key.wireType.code)

/-- Reads a key: its size, then its wire type, then its tag is checked. -/
def readKey (input : List UInt8) : Except Fault (Parsed Key) :=
  match readVarint input with
  | .error fault => .error fault
  | .ok key =>
    if UInt32.size ≤ key.value then .error (.bare (.invalidKey key.value))
    else
      match WireType.ofCode? (key.value % 8) with
      | none => .error (.bare (.invalidWireType (key.value % 8)))
      | some wireType =>
        if key.value / 8 = 0 then .error (.bare .invalidTag)
        else .ok (key.map fun _ => ⟨key.value / 8, wireType⟩)

theorem readKey_measure {input : List UInt8} {parsed : Parsed Key}
    (h : readKey input = .ok parsed) :
    parsed.rest.length + parsed.count = input.length ∧ 0 < parsed.count := by
  unfold readKey at h
  split at h
  · simp at h
  · rename_i key hkey
    have := readVarint_measure hkey
    split at h
    · simp at h
    · split at h
      · simp at h
      · split at h
        · simp at h
        · simp at h; subst h; exact this

/-- Takes a number of bytes, if there are as many. -/
def readBytes (count : Nat) (input : List UInt8) : Except Fault (Parsed (List UInt8)) :=
  let content := input.take count
  if content.length = count then .ok ⟨content, input.drop count, count⟩
  else .error (.bare .bufferUnderflow)

/-- Bytes behind their length. -/
def delimited (content : List UInt8) : List UInt8 :=
  varint content.length ++ content

/-- Reads a length and that many bytes. -/
def readDelimited (input : List UInt8) : Except Fault (Parsed (List UInt8)) :=
  match readVarint input with
  | .error fault => .error fault
  | .ok length =>
    match readBytes length.value length.rest with
    | .error fault => .error fault
    | .ok content => .ok { content with count := length.count + content.count }

theorem readBytes_measure {count : Nat} {input : List UInt8} {parsed : Parsed (List UInt8)}
    (h : readBytes count input = .ok parsed) :
    parsed.rest.length + parsed.count = input.length := by
  simp only [readBytes] at h
  split at h
  · rename_i hlength
    simp at h hlength
    subst h
    simp
    omega
  · simp at h

theorem readDelimited_measure {input : List UInt8} {parsed : Parsed (List UInt8)}
    (h : readDelimited input = .ok parsed) :
    parsed.rest.length + parsed.count = input.length := by
  unfold readDelimited at h
  split at h
  · simp at h
  · rename_i length hlength
    split at h
    · simp at h
    · rename_i content hcontent
      have hread := readVarint_measure hlength
      have hbytes := readBytes_measure hcontent
      simp at h
      subst h
      simp
      omega

end WalletGateway.Protobuf
