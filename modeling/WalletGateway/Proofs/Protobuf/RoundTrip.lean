import Mathlib.Data.List.Nodup
import WalletGateway.Protobuf.Record

/-!
# Reading what was written

A record that has been encoded is read back, whatever bytes come behind it.  The lemmas follow the
layers of the encoding:

* `readVarint_varint` and `readKey_write`: the numbers and the keys;
* `Codec.IsFaithful`: the content of an entry, for each codec;
* `Field.Fills`: all the entries of a field, for each form of a field;
* `Record.Refills`: the fields of a record one after the other, from which `Record.decode_encode`
  follows.

For a record type it is enough to name the codecs of its fields, in their order: `Record.Copies`
and `Record.IsFaithful.of_copies`.

A record may hold other records.  `depth` counts the levels of nesting, which the reader limits.
Every length must be below `2 ^ 64`, because a varint holds no more.
-/

namespace WalletGateway.Protobuf

/-! ## Numbers and keys -/

/-- How many numbers a varint of the given number of bytes can hold, if it is the longest one that
is read. -/
def varintCapacity : Nat → Nat
  | 0 => 0
  | 1 => 2
  | left + 1 => 128 * varintCapacity left

theorem readVarintWithin_varint {left number : Nat} (h : number < varintCapacity left)
    (rest : List UInt8) :
    readVarintWithin left (varint number ++ rest)
      = .ok ⟨number, rest, (varint number).length⟩ := by
  induction left generalizing number with
  | zero => exact absurd h (Nat.not_lt_zero number)
  | succ left ih =>
    rw [varint]
    split
    · rename_i hlast
      have hbyte : (UInt8.ofNat number).toNat = number :=
        UInt8.toNat_ofNat_of_lt' (by simp only [UInt8.size]; omega)
      have hfits : ¬ (left = 0 ∧ 2 ≤ UInt8.ofNat number) := by
        rintro ⟨rfl, hle⟩
        rw [UInt8.le_iff_toNat_le, hbyte] at hle
        exact absurd h (Nat.not_lt.2 hle)
      have hsmall : UInt8.ofNat number < 128 := by
        rw [UInt8.lt_iff_toNat_lt, hbyte]
        exact hlast
      simp [readVarintWithin, hsmall, hfits, hbyte]
    · rename_i hmore
      match left, h with
      | 0, h => exact absurd (show number < 2 from h) (by omega)
      | left + 1, h =>
        have hhigh : number / 128 < varintCapacity (left + 1) :=
          Nat.div_lt_of_lt_mul h
        have hbyte : (UInt8.ofNat (number % 128 + 128)).toNat = number % 128 + 128 :=
          UInt8.toNat_ofNat_of_lt' (by simp only [UInt8.size]; omega)
        have hcontinues : ¬ UInt8.ofNat (number % 128 + 128) < 128 := by
          rw [UInt8.lt_iff_toNat_lt, hbyte]
          exact Nat.not_lt.2 (Nat.le_add_left _ _)
        rw [List.cons_append, readVarintWithin, if_neg hcontinues, ih hhigh]
        simp only [hbyte, List.length_cons, Except.ok.injEq, Parsed.mk.injEq, and_true]
        omega

/-- A number of 64 bits is read back. -/
theorem readVarint_varint {number : Nat} (h : number < UInt64.size) (rest : List UInt8) :
    readVarint (varint number ++ rest) = .ok ⟨number, rest, (varint number).length⟩ :=
  readVarintWithin_varint h rest

theorem length_varint_le_of_lt {left number : Nat} (h : number < varintCapacity left) :
    (varint number).length ≤ left := by
  induction left generalizing number with
  | zero => exact absurd h (Nat.not_lt_zero number)
  | succ left ih =>
    rw [varint]
    split
    · simp
    · match left, h with
      | 0, h => exact absurd (show number < 2 from h) (by omega)
      | left + 1, h =>
        have hhigh : number / 128 < varintCapacity (left + 1) := Nat.div_lt_of_lt_mul h
        have := ih hhigh
        simp only [List.length_cons]
        omega

/-- A number of 64 bits takes at most ten bytes. -/
theorem length_varint_le {number : Nat} (h : number < UInt64.size) :
    (varint number).length ≤ 10 :=
  length_varint_le_of_lt h

/-- A key is read back, if its tag is not zero and fits. -/
theorem readKey_write {key : Key} (htag : 0 < key.tag) (hfits : key.tag * 8 + 8 ≤ UInt32.size)
    (rest : List UInt8) :
    readKey (key.write ++ rest) = .ok ⟨key, rest, key.write.length⟩ := by
  obtain ⟨tag, wireType⟩ := key
  have hcode : wireType.code < 8 := by cases wireType <;> decide
  simp only [UInt32.size] at htag hfits
  have hnumber : readVarint (Key.write ⟨tag, wireType⟩ ++ rest)
      = .ok ⟨tag * 8 + wireType.code, rest, (Key.write ⟨tag, wireType⟩).length⟩ :=
    readVarint_varint (by simp only [UInt64.size]; omega) rest
  have hlow : (tag * 8 + wireType.code) % 8 = wireType.code := by omega
  have hhigh : (tag * 8 + wireType.code) / 8 = tag := by omega
  have hsize : ¬ UInt32.size ≤ tag * 8 + wireType.code := by
    simp only [UInt32.size]
    omega
  have hzero : tag ≠ 0 := by omega
  simp [readKey, hnumber, hlow, hhigh, hsize, hzero, WireType.ofCode?_code, Parsed.map]

theorem readDelimited_delimited {content : List UInt8} (h : content.length < UInt64.size)
    (rest : List UInt8) :
    readDelimited (delimited content ++ rest)
      = .ok ⟨content, rest, (delimited content).length⟩ := by
  have hlength := readVarint_varint h (content ++ rest)
  simp [readDelimited, delimited, hlength, readBytes]

theorem length_delimited_le {content : List UInt8} (h : content.length < UInt64.size) :
    (delimited content).length ≤ content.length + 10 := by
  have := length_varint_le h
  simp only [delimited, List.length_append]
  omega

theorem length_le_delimited (content : List UInt8) :
    content.length ≤ (delimited content).length := by
  simp [delimited]

/-! ## Contents -/

/-- Content is read back where at least `depth` levels of nesting are left. -/
def Codec.IsFaithful {γ : Type} (codec : Codec γ) (depth : Nat) : Prop :=
  ∀ (limit : Nat) (value : γ) (rest : List UInt8), depth ≤ limit →
    (codec.write value).length < UInt64.size →
    codec.read limit (codec.write value ++ rest) = .ok ⟨value, rest, (codec.write value).length⟩

theorem Codec.word32_isFaithful {depth : Nat} : Codec.word32.IsFaithful depth := by
  intro limit value rest _ _
  have hfits : value.toNat < UInt64.size := Nat.lt_trans value.toNat_lt (by decide)
  simp [Codec.word32, readNumber, readVarint_varint hfits, Parsed.map]

theorem Codec.word64_isFaithful {depth : Nat} : Codec.word64.IsFaithful depth := by
  intro limit value rest _ _
  simp [Codec.word64, readNumber, readVarint_varint value.toNat_lt, Parsed.map]

/-- A signed number is written as its residue, of which the low bits are the number again. -/
theorem Codec.int32_isFaithful {depth : Nat} : Codec.int32.IsFaithful depth := by
  intro limit value rest _ _
  have hfits : (value.toInt % (UInt64.size : Nat)).toNat < UInt64.size := by
    simp only [UInt64.size]
    omega
  have hvalue : (UInt32.ofNat (value.toInt % (UInt64.size : Nat)).toNat).toInt32 = value := by
    have hlow := value.le_toInt
    have hhigh := value.toInt_lt
    apply Int32.toInt_inj.1
    rw [UInt32.toInt32_ofNat', Int32.toInt_ofNat', Int.bmod]
    simp only [UInt64.size, Int32.size]
    omega
  simp only [Codec.int32, readNumber, readVarint_varint hfits, Parsed.map, hvalue]

theorem Codec.flag_isFaithful {depth : Nat} : Codec.flag.IsFaithful depth := by
  intro limit value rest _ _
  have hfits : (if value then 1 else 0) < UInt64.size := by cases value <;> decide
  have hvalue : ((if value then 1 else 0) != 0) = value := by cases value <;> rfl
  simp only [Codec.flag, readNumber, readVarint_varint hfits, Parsed.map, hvalue]

theorem Codec.bytes_isFaithful {depth : Nat} : Codec.bytes.IsFaithful depth := by
  intro limit value rest _ hlength
  exact readDelimited_delimited (Nat.lt_of_le_of_lt (length_le_delimited _) hlength) rest

theorem Codec.length_word32_le (value : UInt32) : (word32.write value).length ≤ 10 :=
  length_varint_le (Nat.lt_trans value.toNat_lt (by decide))

theorem Codec.length_word64_le (value : UInt64) : (word64.write value).length ≤ 10 :=
  length_varint_le value.toNat_lt

theorem Codec.length_text_le {value : String} {bound : Nat} (hbound : bound < UInt64.size)
    (h : (Text.utf8 value).length ≤ bound) : (text.write value).length ≤ bound + 10 := by
  have := length_delimited_le (Nat.lt_of_le_of_lt h hbound)
  show (delimited (Text.utf8 value)).length ≤ bound + 10
  omega

theorem Codec.text_isFaithful {depth : Nat} : Codec.text.IsFaithful depth := by
  intro limit value rest _ hlength
  have hcontent : (Text.utf8 value).length < UInt64.size :=
    Nat.lt_of_le_of_lt (length_le_delimited _) hlength
  have htext : Text.ofUtf8? (Text.utf8 value) = some value := Text.ofUtf8?_eq_some_iff.2 rfl
  simp [Codec.text, readDelimited_delimited hcontent, htext, Parsed.map]

/-! ## Lengths -/

namespace Field

variable {α γ : Type} {codec : Codec γ} {tag bound : Nat} {name : String} {record : α}

/-- A key takes at most ten bytes. -/
theorem length_entry_le (htag : tag * 8 + 8 ≤ UInt32.size) {value : γ}
    (h : (codec.write value).length ≤ bound) : (entry tag codec value).length ≤ bound + 10 := by
  have hcode : codec.wireType.code < 8 := by cases codec.wireType <;> decide
  simp only [UInt32.size] at htag
  have hkey : (Key.write ⟨tag, codec.wireType⟩).length ≤ 10 :=
    length_varint_le (by simp only [UInt64.size]; omega)
  simp only [entry, List.length_append]
  omega

theorem length_required_le {get : α → γ} {set : γ → α → α} (htag : tag * 8 + 8 ≤ UInt32.size)
    (h : (codec.write (get record)).length ≤ bound) :
    ((required tag name codec get set).write record).length ≤ bound + 10 :=
  length_entry_le htag h

theorem length_optional_le {get : α → Option γ} {set : Option γ → α → α}
    (htag : tag * 8 + 8 ≤ UInt32.size) (h : ∀ value, (codec.write value).length ≤ bound) :
    ((optional tag name codec get set).write record).length ≤ bound + 10 := by
  cases hvalue : get record with
  | none => simp [optional, hvalue]
  | some value => simpa [optional, hvalue] using length_entry_le htag (h value)

theorem length_repeated_le {get : α → List γ} {set : List γ → α → α}
    (htag : tag * 8 + 8 ≤ UInt32.size)
    (h : ∀ value ∈ get record, (codec.write value).length ≤ bound) :
    ((repeated tag name codec get set).write record).length
      ≤ (get record).length * (bound + 10) := by
  show ((get record).flatMap (entry tag codec)).length ≤ _
  generalize get record = values at h
  induction values with
  | nil => simp
  | cons value values ih =>
    have hfirst := length_entry_le htag (h value (by simp))
    have hrest := ih fun other hother => h other (List.mem_cons_of_mem _ hother)
    rw [List.flatMap_cons, List.length_append, List.length_cons, Nat.succ_mul]
    omega

end Field

/-! ## Fields -/

/-- The tags of a record's fields are different from each other, positive, and fit a key. -/
structure Record.HasTags (α : Type) [Record α] : Prop where
  nodup : ((Record.fields (α := α)).map Field.tag).Nodup
  legal : ∀ tag ∈ (Record.fields (α := α)).map Field.tag, 0 < tag ∧ tag * 8 + 8 ≤ UInt32.size

section

variable {α γ : Type} [Record α]

/-- A field is found by its tag. -/
theorem Record.HasTags.find?_eq (h : HasTags α) {field : Field α}
    (hfield : field ∈ Record.fields (α := α)) :
    (Record.fields (α := α)).find? (fun other => other.tag == field.tag) = some field := by
  have hfound : ((Record.fields (α := α)).find? fun other => other.tag == field.tag).isSome := by
    rw [List.find?_isSome]
    exact ⟨field, hfield, by simp⟩
  obtain ⟨other, hother⟩ := Option.isSome_iff_exists.1 hfound
  have htag : other.tag = field.tag := by simpa using List.find?_some hother
  rw [hother, List.inj_on_of_nodup_map h.nodup (List.mem_of_find?_eq_some hother) hfield htag]

/-- An entry of a field, as it is written, is read into the record, and reading goes on behind
it. -/
theorem Record.HasTags.mergeEntries_entry (h : HasTags α) {field : Field α} {codec : Codec γ}
    {value : γ} {limit window tag : Nat} {base next : α} {rest : List UInt8}
    (hfield : field ∈ Record.fields (α := α)) (htag : field.tag = tag)
    (hwire : field.wireType = codec.wireType)
    (hmerge : field.merge limit base (codec.write value ++ rest)
      = .ok ⟨next, rest, (codec.write value).length⟩)
    (hwindow : (Field.entry tag codec value).length ≤ window) (count : Nat) :
    mergeEntries limit window base count (Field.entry tag codec value ++ rest)
      = mergeEntries limit (window - (Field.entry tag codec value).length) next
          (count + (Field.entry tag codec value).length) rest := by
  subst htag
  obtain ⟨hpositive, hfits⟩ := h.legal field.tag (List.mem_map_of_mem hfield)
  have hkey : readKey (Key.write ⟨field.tag, codec.wireType⟩ ++ (codec.write value ++ rest))
      = .ok ⟨⟨field.tag, codec.wireType⟩, codec.write value ++ rest,
          (Key.write ⟨field.tag, codec.wireType⟩).length⟩ :=
    readKey_write hpositive hfits _
  have hentry : mergeEntry limit base ⟨field.tag, codec.wireType⟩ (codec.write value ++ rest)
      = .ok ⟨next, rest, (codec.write value).length⟩ := by
    simp [mergeEntry, h.find?_eq hfield, hwire, hmerge, Except.mapError]
  have hsome : 0 < (Key.write ⟨field.tag, codec.wireType⟩).length := (readKey_measure hkey).2
  simp only [Field.entry, List.length_append] at hwindow ⊢
  rw [List.append_assoc, mergeEntries, if_neg (by omega)]
  split
  · rename_i fault hfault
    rw [hkey] at hfault
    contradiction
  · rename_i key hread
    rw [hkey] at hread
    obtain rfl := Except.ok.inj hread
    simp only [hentry]
    rw [if_neg (by omega)]

/-- Reading all the entries that a field writes for `record` turns one record into another. -/
def Field.Fills (field : Field α) (limit : Nat) (record base next : α) : Prop :=
  (field.write record).length < UInt64.size →
  ∀ (window count : Nat) (rest : List UInt8), (field.write record).length ≤ window →
    Record.mergeEntries limit window base count (field.write record ++ rest)
      = Record.mergeEntries limit (window - (field.write record).length) next
          (count + (field.write record).length) rest

namespace Field

variable {codec : Codec γ} {depth limit tag : Nat} {name : String} {record base : α}

theorem length_write_le_entry (tag : Nat) (codec : Codec γ) (value : γ) :
    (codec.write value).length ≤ (entry tag codec value).length := by
  simp [entry]

omit [Record α] in
theorem readInto_of_isFaithful (hcodec : codec.IsFaithful depth) (hlimit : depth ≤ limit)
    (put : γ → α → α) (base : α) {value : γ} (hlength : (codec.write value).length < UInt64.size)
    (rest : List UInt8) :
    readInto codec put limit base (codec.write value ++ rest)
      = .ok ⟨put value base, rest, (codec.write value).length⟩ := by
  simp [readInto, hcodec limit value rest hlimit hlength, Parsed.map]

theorem fills_required {get : α → γ} {set : γ → α → α} (htags : Record.HasTags α)
    (hfield : required tag name codec get set ∈ Record.fields (α := α))
    (hcodec : codec.IsFaithful depth) (hlimit : depth ≤ limit) :
    (required tag name codec get set).Fills limit record base (set (get record) base) := by
  intro hlength window count rest hwindow
  have hmerge : (required tag name codec get set).merge limit base
      (codec.write (get record) ++ rest)
        = .ok ⟨set (get record) base, rest, (codec.write (get record)).length⟩ :=
    readInto_of_isFaithful hcodec hlimit set base
      (Nat.lt_of_le_of_lt (length_write_le_entry tag codec _) hlength) rest
  exact htags.mergeEntries_entry hfield rfl rfl hmerge hwindow count

theorem fills_optional {get : α → Option γ} {set : Option γ → α → α} (htags : Record.HasTags α)
    (hfield : optional tag name codec get set ∈ Record.fields (α := α))
    (hcodec : codec.IsFaithful depth) (hlimit : depth ≤ limit) (hunset : set none base = base) :
    (optional tag name codec get set).Fills limit record base (set (get record) base) := by
  intro hlength window count rest hwindow
  cases hvalue : get record with
  | none => simp [optional, hvalue, hunset]
  | some value =>
    have hwrite : (optional tag name codec get set).write record = entry tag codec value := by
      simp [optional, hvalue]
    rw [hwrite] at hlength hwindow ⊢
    have hmerge : (optional tag name codec get set).merge limit base (codec.write value ++ rest)
        = .ok ⟨set (some value) base, rest, (codec.write value).length⟩ :=
      readInto_of_isFaithful hcodec hlimit (fun value => set (some value)) base
        (Nat.lt_of_le_of_lt (length_write_le_entry tag codec _) hlength) rest
    exact htags.mergeEntries_entry hfield rfl rfl hmerge hwindow count

/-- The entries of a repeated field are added one after the other. -/
theorem fills_repeated {get : α → List γ} {set : List γ → α → α} (htags : Record.HasTags α)
    (hfield : repeated tag name codec get set ∈ Record.fields (α := α))
    (hcodec : codec.IsFaithful depth) (hlimit : depth ≤ limit)
    (hunset : set [] base = base) (hget : ∀ values, get (set values base) = values)
    (hset : ∀ values later, set later (set values base) = set later base) :
    (repeated tag name codec get set).Fills limit record base (set (get record) base) := by
  have hrun : ∀ (values done : List γ), (values.flatMap (entry tag codec)).length < UInt64.size →
      ∀ (window count : Nat) (rest : List UInt8),
        (values.flatMap (entry tag codec)).length ≤ window →
        Record.mergeEntries limit window (set done base) count
            (values.flatMap (entry tag codec) ++ rest)
          = Record.mergeEntries limit (window - (values.flatMap (entry tag codec)).length)
              (set (done ++ values) base) (count + (values.flatMap (entry tag codec)).length)
              rest := by
    intro values
    induction values with
    | nil => simp
    | cons value values ih =>
      intro done hlength window count rest hwindow
      simp only [List.flatMap_cons, List.length_append] at hlength hwindow ⊢
      have hone := length_write_le_entry tag codec value
      have hmerge : (repeated tag name codec get set).merge limit (set done base)
          (codec.write value ++ (values.flatMap (entry tag codec) ++ rest))
            = .ok ⟨set (done ++ [value]) base, values.flatMap (entry tag codec) ++ rest,
                (codec.write value).length⟩ := by
        have hread := readInto_of_isFaithful hcodec hlimit
          (fun value record => set (get record ++ [value]) record) (set done base)
          (show (codec.write value).length < UInt64.size by omega)
          (values.flatMap (entry tag codec) ++ rest)
        rwa [hget, hset] at hread
      have hfirst : (entry tag codec value).length ≤ window := by omega
      have htag : (repeated tag name codec get set).tag = tag := rfl
      have hentry := htags.mergeEntries_entry hfield htag rfl hmerge hfirst count
      rw [List.append_assoc, hentry, ih (done ++ [value]) (by omega) _ _ rest (by omega),
        List.append_assoc, List.singleton_append, Nat.sub_sub, Nat.add_assoc]
  intro hlength window count rest hwindow
  have hall := hrun (get record) [] hlength window count rest hwindow
  rwa [hunset] at hall

end Field

/-! ## Records -/

/-- Reading all the entries of some fields, as they are written for `record`, turns one record into
another. -/
inductive Record.Refills (limit : Nat) (record : α) : List (Field α) → α → α → Prop where
  | nil (base : α) : Refills limit record [] base base
  | cons {field : Field α} {fields : List (Field α)} {base next last : α}
      (hfield : field.Fills limit record base next)
      (hfields : Refills limit record fields next last) :
      Refills limit record (field :: fields) base last

/-- The entries of some fields are read one field after the other. -/
theorem Record.Refills.mergeEntries_eq {limit : Nat} {record base last : α}
    {fields : List (Field α)} (h : Refills limit record fields base last)
    (hlength : (fields.flatMap (·.write record)).length < UInt64.size) (window count : Nat)
    (rest : List UInt8) (hwindow : (fields.flatMap (·.write record)).length ≤ window) :
    mergeEntries limit window base count (fields.flatMap (·.write record) ++ rest)
      = mergeEntries limit (window - (fields.flatMap (·.write record)).length) last
          (count + (fields.flatMap (·.write record)).length) rest := by
  induction h generalizing window count with
  | nil => simp
  | cons hfield _ ih =>
    simp only [List.flatMap_cons, List.length_append] at hlength hwindow ⊢
    rw [List.append_assoc, hfield (by omega) window count _ (by omega),
      ih (by omega) _ _ (by omega), Nat.sub_sub, Nat.add_assoc]

/-- Every field of a list takes its value from `record`, one field after the other, and that turns
one record into another.  The codecs of the fields need at most `depth` levels of nesting. -/
inductive Record.Copies (depth : Nat) (record : α) : List (Field α) → α → α → Prop where
  | nil (base : α) : Copies depth record [] base base
  | required {γ : Type} {codec : Codec γ} {tag : Nat} {name : String} {get : α → γ}
      {set : γ → α → α} {fields : List (Field α)} {base last : α}
      (hcodec : codec.IsFaithful depth)
      (hfields : Copies depth record fields (set (get record) base) last) :
      Copies depth record (.required tag name codec get set :: fields) base last
  | optional {γ : Type} {codec : Codec γ} {tag : Nat} {name : String} {get : α → Option γ}
      {set : Option γ → α → α} {fields : List (Field α)} {base last : α}
      (hcodec : codec.IsFaithful depth) (hunset : set none base = base)
      (hfields : Copies depth record fields (set (get record) base) last) :
      Copies depth record (.optional tag name codec get set :: fields) base last
  | repeated {γ : Type} {codec : Codec γ} {tag : Nat} {name : String} {get : α → List γ}
      {set : List γ → α → α} {fields : List (Field α)} {base last : α}
      (hcodec : codec.IsFaithful depth) (hunset : set [] base = base)
      (hget : ∀ values, get (set values base) = values)
      (hset : ∀ values later, set later (set values base) = set later base)
      (hfields : Copies depth record fields (set (get record) base) last) :
      Copies depth record (.repeated tag name codec get set :: fields) base last

/-- Fields of a record type that are copied are read one after the other. -/
theorem Record.Copies.refills {depth limit : Nat} {record base last : α}
    {fields : List (Field α)} (h : Copies depth record fields base last) (htags : HasTags α)
    (hlisted : ∀ field ∈ fields, field ∈ Record.fields (α := α)) (hlimit : depth ≤ limit) :
    Refills limit record fields base last := by
  induction h with
  | nil base => exact .nil base
  | required hcodec _ ih =>
    obtain ⟨hfield, hrest⟩ := List.forall_mem_cons.1 hlisted
    exact .cons (Field.fills_required htags hfield hcodec hlimit) (ih hrest)
  | optional hcodec hunset _ ih =>
    obtain ⟨hfield, hrest⟩ := List.forall_mem_cons.1 hlisted
    exact .cons (Field.fills_optional htags hfield hcodec hlimit hunset) (ih hrest)
  | repeated hcodec hunset hget hset _ ih =>
    obtain ⟨hfield, hrest⟩ := List.forall_mem_cons.1 hlisted
    exact .cons (Field.fills_repeated htags hfield hcodec hlimit hunset hget hset) (ih hrest)

end

/-- The records of a type are read back where at least `depth` levels of nesting are left. -/
structure Record.IsFaithful (α : Type) [Record α] (depth : Nat) : Prop extends HasTags α where
  refills : ∀ (limit : Nat) (record : α), depth ≤ limit →
    Refills limit record (Record.fields (α := α)) Record.empty record

namespace Record.IsFaithful

variable {α : Type} [Record α] {depth : Nat}

/-- The fields of a record make up the whole of it. -/
theorem of_copies (htags : HasTags α)
    (hcopies : ∀ record : α, Copies depth record Record.fields Record.empty record) :
    Record.IsFaithful α depth :=
  { htags with
    refills := fun _ record hlimit => (hcopies record).refills htags (fun _ h => h) hlimit }

theorem mergeEntries_encode (h : Record.IsFaithful α depth) {limit : Nat} (hlimit : depth ≤ limit)
    {record : α} (hlength : (encode record).length < UInt64.size) (count : Nat)
    (rest : List UInt8) :
    mergeEntries limit (encode record).length Record.empty count (encode record ++ rest)
      = .ok ⟨record, rest, count + (encode record).length⟩ := by
  have hall : mergeEntries limit (encode record).length Record.empty count (encode record ++ rest)
      = mergeEntries limit ((encode record).length - (encode record).length) record
          (count + (encode record).length) rest :=
    (h.refills limit record hlimit).mergeEntries_eq hlength (encode record).length count rest
      (Nat.le_refl _)
  rw [hall, Nat.sub_self, mergeEntries, if_pos rfl]

/-- A record is read from its own encoding. -/
theorem decode_encode (h : Record.IsFaithful α depth) (hdepth : depth ≤ nestingLimit) {record : α}
    (hlength : (encode record).length < UInt64.size) :
    decode (encode record) = .ok record := by
  have hall := h.mergeEntries_encode hdepth hlength 0 []
  rw [List.append_nil] at hall
  simp [decode, hall, Except.map]

/-- A record inside another one takes one level of nesting. -/
theorem codec (h : Record.IsFaithful α depth) : (Codec.record α).IsFaithful (depth + 1) := by
  intro limit record rest hlimit hlength
  have hcontent : (encode record).length < UInt64.size :=
    Nat.lt_of_le_of_lt (length_le_delimited _) hlength
  match limit, hlimit with
  | inner + 1, hlimit =>
    have hread := readVarint_varint hcontent (encode record ++ rest)
    have hall := h.mergeEntries_encode (Nat.le_of_succ_le_succ hlimit) hcontent
      (varint (encode record).length).length rest
    simp [Codec.record, delimited, hread, hall]

end Record.IsFaithful

end WalletGateway.Protobuf
