import Mathlib.Algebra.GroupWithZero.Nat
import WalletGateway.Json.Record

/-!
# Values are not longer than their text

A value that has been read has a size, and the input that was taken for it is at least that long.
So a bound on the length of the input is a bound on the size of what it says.

`Reader.Covers` says this of a reader, and there is one lemma for each way of making a reader.  A
text has its bytes as its size, and an optional value that is absent has none.  A record may have
any size that no member raises by more than the member's own input; lists add the sizes of their
items.  `decode_covers` is the conclusion for a whole input.
-/

namespace WalletGateway.Json

/-- The reader takes at least as much input as its value has size. -/
def Reader.Covers {γ : Type} (reader : Reader γ) (size : γ → Nat) : Prop :=
  ∀ (input : List UInt8) (parsed : Parsed γ), reader.read input = .ok parsed →
    size parsed.value + parsed.rest.length ≤ input.length

/-- The member takes at least as much input as it adds to the size of the record. -/
def Member.Covers {α : Type} (member : Member α) (size : α → Nat) : Prop :=
  ∀ (record : α) (input : List UInt8) (parsed : Parsed α),
    (member.reader record).read input = .ok parsed →
      size parsed.value + parsed.rest.length ≤ size record + input.length

/-! ## Texts -/

theorem readUnit_covers {input : List UInt8} {parsed : Parsed Nat}
    (h : readUnit input = .ok parsed) : 4 + parsed.rest.length ≤ input.length := by
  unfold readUnit at h
  split at h
  · split at h
    · obtain rfl := Except.ok.inj h
      simp only [List.length_cons]
      omega
    · contradiction
  · contradiction

/-- A character that is escaped by its code point has at least as many digits as bytes. -/
theorem readPoint_covers {input : List UInt8} {parsed : Parsed Char}
    (h : readPoint input = .ok parsed) :
    parsed.value.utf8Size + parsed.rest.length ≤ input.length := by
  have hsize := parsed.value.utf8Size_le_four
  unfold readPoint at h
  split at h
  · contradiction
  · rename_i unit hunit
    have hfour := readUnit_covers hunit
    split at h
    · contradiction
    · split at h
      · have := readTrailing_length h
        omega
      · obtain rfl := Except.ok.inj h
        simp only at hsize ⊢
        omega

theorem utf8Size_of_shortEscape? {byte : UInt8} {c : Char} (h : shortEscape? byte = some c) :
    c.utf8Size = 1 := by
  unfold shortEscape? at h
  repeat' split at h
  all_goals first
    | contradiction
    | (obtain rfl := Option.some.inj h
       decide)

/-- An escape, with its backslash, has at least as many bytes as its character. -/
theorem readEscape_covers {input : List UInt8} {parsed : Parsed Char}
    (h : readEscape input = .ok parsed) :
    parsed.value.utf8Size + parsed.rest.length ≤ input.length := by
  unfold readEscape at h
  split at h
  · contradiction
  · rename_i byte rest
    split at h
    · rename_i c hshort
      obtain rfl := Except.ok.inj h
      simp only [utf8Size_of_shortEscape? hshort, List.length_cons]
      omega
    · split at h
      · have := readPoint_covers h
        simp only [List.length_cons]
        omega
      · contradiction

theorem readText_covers {done input : List UInt8} {parsed : Parsed String}
    (h : readText done input = .ok parsed) :
    (Text.utf8 parsed.value).length + parsed.rest.length ≤ done.length + input.length := by
  fun_induction readText done input with
  | case1 => contradiction
  | case2 done rest text htext =>
    obtain rfl := Except.ok.inj h
    rw [Text.ofUtf8?_eq_some_iff.1 htext]
    simp only [List.length_reverse, List.length_cons]
    omega
  | case3 => contradiction
  | case4 => contradiction
  | case5 done rest c hescape _ ih =>
    have hrest := ih h
    have hchar := readEscape_covers hescape
    simp only [List.length_append, List.length_reverse, String.length_utf8EncodeChar] at hrest
    simp only [List.length_cons]
    omega
  | case6 => contradiction
  | case7 done byte rest _ _ _ ih =>
    have hrest := ih h
    simp only [List.length_cons] at hrest ⊢
    omega

namespace Reader

variable {γ : Type}

/-- Every value takes a byte. -/
theorem covers_one (reader : Reader γ) : reader.Covers fun _ => 1 := by
  intro input parsed h
  have := reader.read_length h
  show 1 + parsed.rest.length ≤ input.length
  omega

/-- A smaller size is covered as well. -/
theorem Covers.mono {reader : Reader γ} {size smaller : γ → Nat} (h : reader.Covers size)
    (hle : ∀ value, smaller value ≤ size value) : reader.Covers smaller := by
  intro input parsed hread
  have := h input parsed hread
  have := hle parsed.value
  omega

theorem covers_ofFirst {expected : String} {read : UInt8 → List UInt8 → Option (Reading γ)}
    {read_length : ∀ {byte : UInt8} {rest : List UInt8} {parsed : Parsed γ},
      read byte rest = some (.ok parsed) → parsed.rest.length ≤ rest.length} {size : γ → Nat}
    (h : ∀ (byte : UInt8) (rest : List UInt8) (parsed : Parsed γ),
      read byte rest = some (.ok parsed) → size parsed.value + parsed.rest.length ≤ rest.length) :
    (ofFirst expected read @read_length).Covers fun value => size value + 1 := by
  intro input parsed hread
  simp only [ofFirst] at hread
  split at hread
  · contradiction
  · rename_i byte rest hblank
    have hbyte := length_lt_of_skipBlanks_eq hblank
    split at hread
    · contradiction
    · rename_i reading hfirst
      subst hread
      have := h byte rest parsed hfirst
      show size parsed.value + 1 + parsed.rest.length ≤ input.length
      omega

theorem text_covers : text.Covers fun value => (Text.utf8 value).length := by
  refine Covers.mono (covers_ofFirst fun byte rest parsed h => ?_) fun _ => Nat.le_succ _
  split at h
  · simpa using readText_covers (Option.some.inj h)
  · contradiction

/-- A value that may be null has no size where it is null. -/
theorem optional_covers {reader : Reader γ} {size : γ → Nat} (h : reader.Covers size) :
    (optional reader).Covers fun value => value.elim 0 size := by
  have hsome : ∀ {input : List UInt8} {parsed : Parsed (Option γ)},
      (reader.read input).map some = .ok parsed →
        parsed.value.elim 0 size + parsed.rest.length ≤ input.length := by
    intro input parsed hmap
    cases hread : reader.read input with
    | error fault => simp [hread, Reading.map] at hmap
    | ok inner =>
      simp only [hread, Reading.map, Except.ok.injEq] at hmap
      subst hmap
      exact h input inner hread
  intro input parsed hread
  simp only [optional] at hread
  split at hread
  · exact hsome hread
  · rename_i byte rest hblank
    split at hread
    · split at hread
      · contradiction
      · rename_i word hword
        obtain rfl := Except.ok.inj hread
        have := readWord_length hword
        have := length_lt_of_skipBlanks_eq hblank
        simp only [Option.elim]
        omega
    · exact hsome hread

/-! ## Lists -/

theorem readItems_covers {item : Reader γ} {size : γ → Nat} (hitem : item.Covers size)
    {first : Bool} {done : List γ} {input : List UInt8} {parsed : Parsed (List γ)}
    (h : readItems item first done input = .ok parsed) :
    (parsed.value.map size).sum + parsed.rest.length ≤ (done.map size).sum + input.length := by
  fun_induction readItems item first done input with
  | case1 => contradiction
  | case2 => contradiction
  | case3 first done input next hnext _ value hvalue ih =>
    have hrest := ih h
    have hbefore := nextItem_length hnext
    have hone := hitem _ _ hvalue
    simp only [List.map_cons, List.sum_cons] at hrest
    omega
  | case4 first done input next hnext =>
    obtain rfl := Except.ok.inj h
    have hbefore := nextItem_length hnext
    simp only [List.map_reverse, List.sum_reverse]
    omega

/-- The size of a list is the sum of the sizes of its items. -/
theorem list_covers {item : Reader γ} {size : γ → Nat} (hitem : item.Covers size) :
    (list item).Covers fun values => (values.map size).sum := by
  refine Covers.mono (covers_ofFirst fun byte rest parsed h => ?_) fun _ => Nat.le_succ _
  split at h
  · simpa using readItems_covers hitem (Option.some.inj h)
  · contradiction

end Reader

/-! ## Records -/

section

variable {α γ : Type} {size : α → Nat}

/-- A member may add the size of its value to the record. -/
theorem Member.of_covers {reader : Reader γ} {part : γ → Nat} (hreader : reader.Covers part)
    (name : String) {set : γ → α → α}
    (hset : ∀ value record, size (set value record) ≤ size record + part value) :
    (Member.of name reader set).Covers size := by
  intro record input parsed h
  simp only [Member.of, Reader.map] at h
  cases hread : reader.read input with
  | error fault =>
    simp only [hread, Reading.map] at h
    contradiction
  | ok inner =>
    simp only [hread, Reading.map] at h
    obtain rfl := Except.ok.inj h
    have := hreader _ _ hread
    have := hset inner.value record
    simp only
    omega

theorem readMembers_covers {members : List (Member α)}
    (hmembers : ∀ member ∈ members, member.Covers size) {first : Bool} {seen : List String}
    {record : α} {input : List UInt8} {parsed : Parsed α}
    (h : readMembers members first seen record input = .ok parsed) :
    size parsed.value + parsed.rest.length ≤ size record + input.length := by
  fun_induction readMembers members first seen record input with
  | case1 => contradiction
  | case2 first seen record input rest hkey =>
    obtain rfl := Except.ok.inj h
    have := nextKey_length hkey
    simp only at this ⊢
    omega
  | case3 => contradiction
  | case4 => contradiction
  | case5 first seen record input name rest hkey _ colon hcolon value hvalue ih =>
    have := ih h
    have := nextKey_length hkey
    have := readColon_length hcolon
    have := skipValue_length hvalue
    simp only at *
    omega
  | case6 => contradiction
  | case7 => contradiction
  | case8 => contradiction
  | case9 first seen record input name rest hkey member hmember _ colon hcolon value hvalue ih =>
    have := ih h
    have := nextKey_length hkey
    have := readColon_length hcolon
    have := hmembers member (List.mem_of_find?_eq_some hmember) _ _ _ hvalue
    simp only at *
    omega

theorem readPositions_covers {members : List (Member α)}
    (hmembers : ∀ member ∈ members, member.Covers size) {first : Bool} {record : α}
    {input : List UInt8} {parsed : Parsed α}
    (h : readPositions members first record input = .ok parsed) :
    size parsed.value + parsed.rest.length ≤ size record + input.length := by
  induction members generalizing first record input with
  | nil =>
    rw [readPositions] at h
    cases hclose : closeList input with
    | error fault =>
      simp only [hclose, Reading.map] at h
      contradiction
    | ok closed =>
      simp only [hclose, Reading.map] at h
      obtain rfl := Except.ok.inj h
      have := closeList_length hclose
      simp only
      omega
  | cons member members ih =>
    rw [readPositions] at h
    split at h
    · contradiction
    · rename_i next hnext
      have hbefore := nextItem_length hnext
      split at h
      · split at h
        · contradiction
        · rename_i value hvalue
          have hone := hmembers member (by simp) _ _ _ hvalue
          have := ih (fun other hother => hmembers other (List.mem_cons_of_mem _ hother)) h
          omega
      · obtain rfl := Except.ok.inj h
        simp only
        omega

/-- A record has the size that its members give it, and its bracket takes one more byte. -/
theorem Reader.record_covers {initial : α} {members : List (Member α)} (name : String)
    (hinitial : size initial = 0) (hmembers : ∀ member ∈ members, member.Covers size) :
    (Reader.record name initial members).Covers fun record => size record + 1 := by
  refine covers_ofFirst fun byte rest parsed h => ?_
  split at h
  · simpa [hinitial] using readPositions_covers hmembers (Option.some.inj h)
  · split at h
    · simpa [hinitial] using readMembers_covers hmembers (Option.some.inj h)
    · contradiction

end

/-! ## Whole inputs -/

/-- What an input says is not larger than the input. -/
theorem decode_covers {γ : Type} {reader : Reader γ} {size : γ → Nat} (h : reader.Covers size)
    {input : List UInt8} {value : γ} (hdecode : decode reader input = .ok value) :
    size value ≤ input.length := by
  unfold decode at hdecode
  split at hdecode
  · contradiction
  · rename_i parsed hread
    have := h _ _ hread
    split at hdecode
    · obtain rfl := Except.ok.inj hdecode
      omega
    · contradiction

end WalletGateway.Json
