import WalletGateway.Numeric.Positional
import WalletGateway.Proofs.Json.RoundTrip

/-!
# Typed readers read what is printed

A reader of values of one type reads the printed text of a JSON value, if the value is of that type.
`Reader.Reads` says what it reads, and there is a lemma for each reader that is needed.

A record is read from the text of an object whose members it knows, each of them once, in any order:
`Reader.record_reads`.  `decode_print` is the conclusion for a text that is one printed value.
-/

namespace WalletGateway.Json

open Text (ascii utf8)

/-- The reader reads the printed value as the given one, whatever stands behind it. -/
def Reader.Reads {γ : Type} (reader : Reader γ) (printed : Value) (value : γ) : Prop :=
  ∀ rest, EndsNumber rest → reader.read (utf8 printed.print ++ rest) = .ok ⟨value, rest⟩

section

variable {γ δ : Type}

theorem Reader.map_reads {reader : Reader γ} {printed : Value} {value : γ}
    (h : reader.Reads printed value) (change : γ → δ) :
    (reader.map change).Reads printed (change value) := by
  intro rest hrest
  simp only [Reader.map, h rest hrest, Reading.map]

theorem decode_print {reader : Reader γ} {printed : Value} {value : γ}
    (h : reader.Reads printed value) : decode reader (utf8 printed.print) = .ok value := by
  have hread := h [] ⟨rfl, rfl⟩
  rw [List.append_nil] at hread
  simp only [decode, hread]
  rfl

end

/-! ## Texts and numbers -/

theorem Reader.text_reads (text : String) : Reader.text.Reads (.text text) text := by
  intro rest _
  obtain ⟨tail, hquote, hread⟩ := readQuoted_quote text rest
  have hskip : skipBlanks (ascii '"' :: tail) = ascii '"' :: tail := rfl
  rw [Value.print, printAfter, String.empty_append, hquote]
  simp only [Reader.text, Reader.ofFirst, hskip, if_true, hread]

/-- Digits are all taken where their number fits. -/
theorem takeSignificand_of_lt {digits : List UInt8} {start : Nat}
    (h : digits.foldl (fun number digit => number * 10 + digitValue digit) start < UInt64.size) :
    takeSignificand start digits
      = (digits.foldl (fun number digit => number * 10 + digitValue digit) start, []) := by
  induction digits generalizing start with
  | nil => rfl
  | cons digit digits ih =>
    rw [List.foldl_cons] at h ⊢
    have hnext := Nat.lt_of_le_of_lt (Decimal.le_foldl digitValue digits _) h
    rw [takeSignificand, if_pos hnext, ih h]

theorem readWhole_of_lt {digits rest : List UInt8} (hfits : wholeValue digits < UInt64.size)
    (hrest : rest.head?.any opensFraction = false) :
    readWhole false digits rest = .ok ⟨.unsigned (wholeValue digits), rest⟩ := by
  have htake : takeSignificand 0 digits = (wholeValue digits, []) := takeSignificand_of_lt hfits
  rw [readWhole, htake]
  cases rest with
  | nil => rfl
  | cons byte rest =>
    simp only [List.head?_cons, Option.any_some, opensFraction, Bool.or_eq_false_iff,
      beq_eq_false_iff_ne] at hrest
    obtain ⟨⟨hpoint, hlower⟩, hupper⟩ := hrest
    simp [hpoint, hlower, hupper, wholeNumber]

/-- The decimal digits of a number that fits 64 bits are read as that number. -/
theorem readNumber_repr {number : Nat} (hfits : number < UInt64.size) {rest : List UInt8}
    (hrest : EndsNumber rest) :
    readNumber false (utf8 number.repr ++ rest) = .ok ⟨.unsigned number, rest⟩ := by
  have hvalue := wholeValue_toDigits number
  have hwhole : ∀ digits, wholeValue digits = number →
      readWhole false digits rest = .ok ⟨.unsigned number, rest⟩ := by
    rintro digits rfl
    exact readWhole_of_lt hfits hrest.2
  rw [utf8_repr]
  rcases toDigits_eq_zero_or number with hzero | ⟨first, others, hdigits, hfirst⟩
  · rw [hzero] at hvalue ⊢
    simp only [List.map_cons, List.map_nil, List.singleton_append, readNumber, if_true, hrest.1,
      Bool.false_eq_true, if_false]
    exact hwhole _ hvalue
  · have hall : ∀ byte ∈ (first :: others).map ascii, isDigit byte = true := fun byte hbyte =>
      isDigit_of_mem_toDigits (hdigits ▸ hbyte)
    have hopens : first.isDigit = true :=
      Nat.isDigit_of_mem_toDigits (by omega) (by omega) (hdigits ▸ List.mem_cons_self)
    have hzero : ascii first ≠ ascii '0' := ascii_ne_of_isDigit hopens (by decide) hfirst
    obtain ⟨htake, hdrop⟩ := hrest.digits_append fun byte hbyte =>
      hall byte (List.mem_cons_of_mem _ hbyte)
    rw [hdigits] at hvalue ⊢
    rw [List.map_cons, List.cons_append, readNumber, if_neg hzero, if_pos (isDigit_ascii hopens),
      htake, hdrop]
    exact hwhole _ hvalue

theorem Reader.number_reads {γ : Type} {expected : String} {accept : Number → Option γ}
    {number : Nat} {value : γ} (hfits : number < UInt64.size)
    (haccept : accept (.unsigned number) = some value) :
    (Reader.number expected accept).Reads (.number number) value := by
  intro rest hrest
  have hread := readNumber_repr hfits hrest
  obtain ⟨byte, tail, hrepr, hdigit⟩ := repr_opens number
  have hminus : byte ≠ ascii '-' := by
    rintro rfl
    contradiction
  have hprint : utf8 (Value.number number).print = utf8 number.repr := by
    rw [Value.print, printAfter, String.empty_append]
    rfl
  rw [hrepr, List.cons_append] at hread
  have hskip : skipBlanks (byte :: (tail ++ rest)) = byte :: (tail ++ rest) := by
    simp [skipBlanks, (opensValue_of_isDigit hdigit).1]
  rw [hprint, hrepr, List.cons_append]
  simp only [Reader.number, Reader.ofFirst, hskip, if_neg hminus, if_pos hdigit, hread,
    checkNumber, haccept]

theorem Reader.word64_reads (word : UInt64) : Reader.word64.Reads (.number word.toNat) word := by
  apply Reader.number_reads word.toNat_lt
  simp

/-! ## Records -/

theorem Member.of_reads {α γ : Type} {reader : Reader γ} {printed : Value} {value : γ}
    (h : reader.Reads printed value) (name : String) (set : γ → α → α) (record : α) :
    ((Member.of name reader set).reader record).Reads printed (set value record) :=
  Reader.map_reads h fun value => set value record

/-- The members of an object fill a record: each is known, comes once, and is read into it. -/
inductive Member.Fill {α : Type} (members : List (Member α)) :
    List String → List (String × Value) → α → α → Prop where
  | nil (seen : List String) (record : α) : Fill members seen [] record record
  | cons {seen : List String} {name : String} {printed : Value} {fields : List (String × Value)}
      {record next last : α} (member : Member α)
      (hknown : members.find? (fun other => other.name == name) = some member)
      (hnew : name ∉ seen) (hreads : (member.reader record).Reads printed next)
      (hfields : Fill members (name :: seen) fields next last) :
      Fill members seen ((name, printed) :: fields) record last

section Steps

variable {α : Type} {members : List (Member α)} {first : Bool} {seen : List String} {record : α}
  {input rest : List UInt8}

theorem readMembers_end (h : nextKey first input = .ok ⟨none, rest⟩) :
    readMembers members first seen record input = .ok ⟨record, rest⟩ := by
  rw [readMembers]
  split
  · rename_i hfault
    rw [h] at hfault
    contradiction
  · rename_i hkey
    rw [h] at hkey
    obtain ⟨-, rfl⟩ := Parsed.mk.inj (Except.ok.inj hkey)
    rfl
  · rename_i hkey
    rw [h] at hkey
    obtain ⟨hname, -⟩ := Parsed.mk.inj (Except.ok.inj hkey)
    contradiction

theorem readMembers_member {name : String} {member : Member α} {colon : Parsed Unit}
    {parsed : Parsed α} (h : nextKey first input = .ok ⟨some name, rest⟩)
    (hknown : members.find? (fun other => other.name == name) = some member)
    (hnew : name ∉ seen) (hcolon : readColon rest = .ok colon)
    (hvalue : (member.reader record).read colon.rest = .ok parsed) :
    readMembers members first seen record input
      = readMembers members false (name :: seen) parsed.value parsed.rest := by
  have hseen : seen.contains name = false := by simpa using hnew
  rw [readMembers]
  split
  · rename_i hfault
    rw [h] at hfault
    contradiction
  · rename_i hkey
    rw [h] at hkey
    obtain ⟨hname, -⟩ := Parsed.mk.inj (Except.ok.inj hkey)
    contradiction
  · rename_i hkey
    rw [h] at hkey
    obtain ⟨hname, rfl⟩ := Parsed.mk.inj (Except.ok.inj hkey)
    obtain rfl := Option.some.inj hname
    split
    · rename_i hunknown
      rw [hknown] at hunknown
      contradiction
    · rename_i other hother
      rw [hknown] at hother
      obtain rfl := Option.some.inj hother
      rw [if_neg (by simp [hnew])]
      split
      · rename_i hfault
        rw [hcolon] at hfault
        contradiction
      · rename_i hok
        rw [hcolon] at hok
        obtain rfl := Except.ok.inj hok
        split
        · rename_i hfault
          rw [hvalue] at hfault
          contradiction
        · rename_i hread
          rw [hvalue] at hread
          rw [Except.ok.inj hread]

end Steps

/-- The members of a printed object are read into a record. -/
theorem Member.Fill.readMembers_print {α : Type} {members : List (Member α)} {seen : List String}
    {fields : List (String × Value)} {record last : α}
    (h : Member.Fill members seen fields record last) (first : Bool) (rest : List UInt8) :
    readMembers members first seen record
        (utf8 (printMembers "" first fields) ++ ascii '\x7d' :: rest) = .ok ⟨last, rest⟩ := by
  induction h generalizing first with
  | nil seen record =>
    have hempty : utf8 (printMembers "" first []) ++ ascii '\x7d' :: rest
        = ascii '\x7d' :: rest := rfl
    rw [hempty, readMembers_end (nextKey_close first rest)]
  | @cons seen name printed fields record next last member hknown hnew hreads hfields ih =>
    have hbytes : utf8 (printMembers "" first ((name, printed) :: fields))
        = utf8 (if first then "" else ",") ++ (utf8 (quote name)
          ++ (ascii ':' :: (utf8 printed.print ++ utf8 (printMembers "" false fields)))) := by
      rw [printMembers_cons, Text.utf8_append, Text.utf8_append, Text.utf8_append,
        Text.utf8_append, List.append_assoc, List.append_assoc, List.append_assoc]
      rfl
    have hvalue := hreads _ (endsNumber_printMembers fields rest)
    rw [hbytes, List.append_assoc, List.append_assoc, List.cons_append, List.append_assoc,
      readMembers_member (nextKey_separated name first _) hknown hnew (readColon_colon _) hvalue,
      ih false]

/-- A record is read from the text of an object whose members fill it. -/
theorem Reader.record_reads {α : Type} {name : String} {initial last : α}
    {members : List (Member α)} {fields : List (String × Value)}
    (h : Member.Fill members [] fields initial last) :
    (Reader.record name initial members).Reads (.object fields) last := by
  intro rest _
  have hread := h.readMembers_print true rest
  have hlist : ascii '\x7b' ≠ ascii '[' := by decide
  have hskip : ∀ tail, skipBlanks (ascii '\x7b' :: tail) = ascii '\x7b' :: tail := fun _ => rfl
  rw [utf8_print_object, List.cons_append, List.append_assoc, List.singleton_append]
  simp only [Reader.record, Reader.ofFirst, hskip, if_neg hlist, if_true, hread]

end WalletGateway.Json
