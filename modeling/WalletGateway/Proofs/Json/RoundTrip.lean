import WalletGateway.Proofs.Json.Scalars

/-!
# What is printed reads back

A printed value is read as that value, whatever stands behind it (`read_print`), so the text of a
value holds this value and no other (`parse_print`).

The equations of `print` come first.  The induction is on the value, together with its items and its
members; the reader may be as deep as the text is long.
-/

namespace WalletGateway

namespace Json

open Text (ascii utf8)

/-! ## Printing -/

mutual

/-- The text so far is only followed. -/
theorem printAfter_eq (done : String) : ∀ value : Value,
    printAfter done value = done ++ printAfter "" value
  | .null => by simp [printAfter]
  | .flag true => by simp [printAfter]
  | .flag false => by simp [printAfter]
  | .number _ => by simp [printAfter]
  | .text _ => by simp [printAfter]
  | .list items => by
    simp only [printAfter]
    rw [printItems_eq (done ++ "["), printItems_eq ("" ++ "[")]
    simp [String.append_assoc]
  | .object members => by
    simp only [printAfter]
    rw [printMembers_eq (done ++ "\x7b"), printMembers_eq ("" ++ "\x7b")]
    simp [String.append_assoc]

theorem printItems_eq (done : String) (first : Bool) : ∀ items : List Value,
    printItems done first items = done ++ printItems "" first items
  | [] => by simp [printItems]
  | item :: items => by
    simp only [printItems]
    rw [printItems_eq, printItems_eq (printAfter (if first then "" else "" ++ ",") item),
      printAfter_eq, printAfter_eq (if first then "" else "" ++ ",")]
    cases first <;> simp [String.append_assoc]

theorem printMembers_eq (done : String) (first : Bool) : ∀ members : List (String × Value),
    printMembers done first members = done ++ printMembers "" first members
  | [] => by simp [printMembers]
  | (name, value) :: members => by
    simp only [printMembers]
    generalize hopening : (if first then "" else "" ++ ",") ++ quote name ++ ":" = opening
    rw [printMembers_eq, printMembers_eq (printAfter opening value), printAfter_eq,
      printAfter_eq opening, ← hopening]
    cases first <;> simp [String.append_assoc]

end

theorem utf8_print_list (items : List Value) :
    utf8 (Value.list items).print
      = ascii '[' :: (utf8 (printItems "" true items) ++ [ascii ']']) := by
  rw [Value.print, printAfter, printItems_eq, String.empty_append, Text.utf8_append,
    Text.utf8_append]
  rfl

theorem utf8_print_object (members : List (String × Value)) :
    utf8 (Value.object members).print
      = ascii '\x7b' :: (utf8 (printMembers "" true members) ++ [ascii '\x7d']) := by
  rw [Value.print, printAfter, printMembers_eq, String.empty_append, Text.utf8_append,
    Text.utf8_append]
  rfl

theorem printItems_cons (first : Bool) (item : Value) (items : List Value) :
    printItems "" first (item :: items)
      = (if first then "" else ",") ++ item.print ++ printItems "" false items := by
  rw [printItems, printItems_eq, printAfter_eq, String.empty_append]
  rfl

theorem printMembers_cons (first : Bool) (name : String) (value : Value)
    (members : List (String × Value)) :
    printMembers "" first ((name, value) :: members)
      = (if first then "" else ",") ++ quote name ++ ":" ++ value.print
        ++ printMembers "" false members := by
  rw [printMembers, printMembers_eq, printAfter_eq, String.empty_append]
  rfl

/-! ## Values -/

/-- What reads the values inside of a bracket. -/
def inside : Nat → Option (Reader Value)
  | 0 => none
  | depth + 1 => some (.value depth)

theorem read_value {depth : Nat} {byte : UInt8} {rest : List UInt8} {reading : Reading Value}
    (hblank : isBlank byte = false) (h : readFrom (inside depth) byte rest = some reading) :
    (Reader.value depth).read (byte :: rest) = reading := by
  have hskip : skipBlanks (byte :: rest) = byte :: rest := by simp [skipBlanks, hblank]
  cases depth with
  | zero =>
    rw [Reader.value, Reader.ofFirst]
    simp only [inside] at h
    simp only [hskip, h]
  | succ depth =>
    rw [Reader.value, Reader.ofFirst]
    simp only [inside] at h
    simp only [hskip, h]

theorem readWord_map (letters : List Char) (rest : List UInt8) :
    readWord letters (letters.map ascii ++ rest) = .ok ⟨(), rest⟩ := by
  induction letters with
  | nil => rfl
  | cons letter letters ih => rw [List.map_cons, List.cons_append, readWord, if_pos rfl, ih]

/-- What a value may begin with: no blank, and no bracket that closes a list. -/
def OpensValue (byte : UInt8) : Prop :=
  isBlank byte = false ∧ byte ≠ ascii ']'

instance (byte : UInt8) : Decidable (OpensValue byte) :=
  inferInstanceAs (Decidable (_ ∧ _))

theorem opensValue_of_isDigit {byte : UInt8} (h : isDigit byte = true) : OpensValue byte := by
  have hall : ∀ number : Fin UInt8.size, isDigit (UInt8.ofNat number.val) = true →
      isBlank (UInt8.ofNat number.val) = false ∧ UInt8.ofNat number.val ≠ ascii ']' := by
    decide +kernel
  have hbyte := hall ⟨byte.toNat, byte.toNat_lt⟩
  rw [UInt8.ofNat_toNat] at hbyte
  exact hbyte h

theorem print_number_cases (number : Int) :
    (∃ magnitude : Nat, number = magnitude ∧ toString number = magnitude.repr) ∨
      ∃ magnitude : Nat, number = -magnitude ∧ toString number = "-" ++ magnitude.repr := by
  cases number with
  | ofNat magnitude => exact Or.inl ⟨magnitude, rfl, rfl⟩
  | negSucc magnitude => exact Or.inr ⟨magnitude + 1, rfl, rfl⟩

theorem readFrom_digit (inner : Option (Reader Value)) {byte : UInt8} (h : isDigit byte = true)
    (rest : List UInt8) :
    readFrom inner byte rest = some (Reading.map
      (fun magnitude : Nat => .number magnitude) (readInteger (byte :: rest))) := by
  have hother : ∀ c : Char, isDigit (ascii c) = false → byte ≠ ascii c := by
    rintro c hc rfl
    rw [h] at hc
    contradiction
  rw [readFrom, if_neg (hother 'n' rfl), if_neg (hother 't' rfl), if_neg (hother 'f' rfl),
    if_neg (hother '"' rfl), if_neg (hother '-' rfl), if_pos h]

theorem repr_opens (magnitude : Nat) :
    ∃ byte tail, utf8 magnitude.repr = byte :: tail ∧ isDigit byte = true := by
  obtain ⟨first, others, hdigits⟩ :=
    List.exists_cons_of_ne_nil (Nat.toDigits_ne_nil (n := magnitude) (b := 10))
  refine ⟨ascii first, others.map ascii, by rw [utf8_repr, hdigits]; rfl, isDigit_ascii ?_⟩
  exact Nat.isDigit_of_mem_toDigits (by omega) (by omega) (hdigits ▸ List.mem_cons_self)

/-- The text of a value begins with no blank and no bracket that closes a list. -/
theorem print_opens (value : Value) :
    ∃ byte tail, utf8 value.print = byte :: tail ∧ OpensValue byte := by
  cases value with
  | null => exact ⟨ascii 'n', _, rfl, by decide⟩
  | flag value => cases value with
    | true => exact ⟨ascii 't', _, rfl, by decide⟩
    | false => exact ⟨ascii 'f', _, rfl, by decide⟩
  | number number =>
    rcases print_number_cases number with ⟨magnitude, -, hprint⟩ | ⟨magnitude, -, hprint⟩
    · obtain ⟨byte, tail, hrepr, hdigit⟩ := repr_opens magnitude
      refine ⟨byte, tail, ?_, opensValue_of_isDigit hdigit⟩
      rw [Value.print, printAfter, hprint, String.empty_append, hrepr]
    · refine ⟨ascii '-', utf8 magnitude.repr, ?_, by decide⟩
      rw [Value.print, printAfter, hprint, String.empty_append, Text.utf8_append]
      rfl
  | text text =>
    refine ⟨ascii '"', text.toList.flatMap (fun c => utf8 (escaped c)) ++ [ascii '"'], ?_,
      by decide⟩
    rw [Value.print, printAfter, String.empty_append, utf8_quote]
  | list items => exact ⟨ascii '[', _, utf8_print_list items, by decide⟩
  | object members => exact ⟨ascii '\x7b', _, utf8_print_object members, by decide⟩

/-! ## Lists and objects -/

/-- In front of the first item stands nothing, in front of the others a comma. -/
theorem nextItem_separated {byte : UInt8} (h : OpensValue byte) (first : Bool)
    (rest : List UInt8) :
    nextItem first (utf8 (if first then "" else ",") ++ byte :: rest)
      = .ok ⟨true, byte :: rest⟩ := by
  obtain ⟨hblank, hclose⟩ := h
  have hskip : skipBlanks (byte :: rest) = byte :: rest := by simp [skipBlanks, hblank]
  cases first with
  | true =>
    have hempty : utf8 (if true then "" else ",") ++ byte :: rest = byte :: rest := rfl
    rw [hempty]
    simp only [nextItem, hskip, if_neg hclose, if_true]
  | false =>
    have hcomma : utf8 (if false then "" else ",") ++ byte :: rest = ascii ',' :: byte :: rest :=
      rfl
    have hskip' : skipBlanks (ascii ',' :: byte :: rest) = ascii ',' :: byte :: rest := rfl
    have hnot : ascii ',' ≠ ascii ']' := by decide
    rw [hcomma]
    simp only [nextItem, hskip', if_neg hnot, Bool.false_eq_true, if_false, if_true, hskip,
      if_neg hclose]

theorem nextItem_close (first : Bool) (rest : List UInt8) :
    nextItem first (ascii ']' :: rest) = .ok ⟨false, rest⟩ := by
  have hskip : skipBlanks (ascii ']' :: rest) = ascii ']' :: rest := rfl
  simp only [nextItem, hskip, if_true]

theorem nextKey_separated (name : String) (first : Bool) (rest : List UInt8) :
    nextKey first (utf8 (if first then "" else ",") ++ (utf8 (quote name) ++ rest))
      = .ok ⟨some name, rest⟩ := by
  obtain ⟨tail, hquote, hread⟩ := readQuoted_quote name rest
  have hkey : readKey tail = .ok ⟨some name, rest⟩ := by rw [readKey, hread]
  have hskip : skipBlanks (ascii '"' :: tail) = ascii '"' :: tail := rfl
  have hnot : ascii '"' ≠ ascii '\x7d' ∧ ascii '"' ≠ ascii ',' ∧ ascii ',' ≠ ascii '\x7d' := by
    decide
  rw [hquote]
  cases first with
  | true =>
    have hempty : utf8 (if true then "" else ",") ++ ascii '"' :: tail = ascii '"' :: tail := rfl
    rw [hempty]
    simp only [nextKey, hskip, if_neg hnot.1, hnot.2.1, false_and, if_false, if_true, hkey]
  | false =>
    have hcomma : utf8 (if false then "" else ",") ++ ascii '"' :: tail
        = ascii ',' :: ascii '"' :: tail := rfl
    have hskip' : skipBlanks (ascii ',' :: ascii '"' :: tail) = ascii ',' :: ascii '"' :: tail :=
      rfl
    rw [hcomma]
    simp only [nextKey, hskip', if_neg hnot.2.2, Bool.false_eq_true, not_false_eq_true, and_self,
      if_true, hskip, hkey]

theorem nextKey_close (first : Bool) (rest : List UInt8) :
    nextKey first (ascii '\x7d' :: rest) = .ok ⟨none, rest⟩ := by
  have hskip : skipBlanks (ascii '\x7d' :: rest) = ascii '\x7d' :: rest := rfl
  simp only [nextKey, hskip, if_true]

section Steps

variable {γ : Type} {reader : Reader γ} {first : Bool} {input rest : List UInt8}

theorem readItems_end {done : List γ} (h : nextItem first input = .ok ⟨false, rest⟩) :
    readItems reader first done input = .ok ⟨done.reverse, rest⟩ := by
  rw [readItems]
  split
  · rename_i hfault
    rw [h] at hfault
    contradiction
  · rename_i hnext
    rw [h] at hnext
    obtain rfl := Except.ok.inj hnext
    rfl

theorem readItems_item {done : List γ} {parsed : Parsed γ}
    (h : nextItem first input = .ok ⟨true, rest⟩) (hitem : reader.read rest = .ok parsed) :
    readItems reader first done input
      = readItems reader false (parsed.value :: done) parsed.rest := by
  rw [readItems]
  split
  · rename_i hfault
    rw [h] at hfault
    contradiction
  · rename_i hnext
    rw [h] at hnext
    obtain rfl := Except.ok.inj hnext
    rw [if_pos rfl]
    split
    · rename_i hfault
      rw [hitem] at hfault
      contradiction
    · rename_i hok
      rw [hitem] at hok
      rw [Except.ok.inj hok]

theorem readFields_end {done : List (String × γ)} (h : nextKey first input = .ok ⟨none, rest⟩) :
    readFields reader first done input = .ok ⟨done.reverse, rest⟩ := by
  rw [readFields]
  split
  · rename_i hfault
    rw [h] at hfault
    contradiction
  · rename_i hkey
    rw [h] at hkey
    obtain ⟨-, rfl⟩ := Parsed.mk.inj (Except.ok.inj hkey)
    rfl
  · rename_i hkey
    rw [h] at hkey
    obtain ⟨hname, -⟩ := Parsed.mk.inj (Except.ok.inj hkey)
    contradiction

theorem readFields_field {done : List (String × γ)} {name : String} {colon : Parsed Unit}
    {parsed : Parsed γ} (h : nextKey first input = .ok ⟨some name, rest⟩)
    (hcolon : readColon rest = .ok colon) (hvalue : reader.read colon.rest = .ok parsed) :
    readFields reader first done input
      = readFields reader false ((name, parsed.value) :: done) parsed.rest := by
  rw [readFields]
  split
  · rename_i hfault
    rw [h] at hfault
    contradiction
  · rename_i hkey
    rw [h] at hkey
    obtain ⟨hname, -⟩ := Parsed.mk.inj (Except.ok.inj hkey)
    contradiction
  · rename_i hkey
    rw [h] at hkey
    obtain ⟨hname, rfl⟩ := Parsed.mk.inj (Except.ok.inj hkey)
    obtain rfl := Option.some.inj hname
    split
    · rename_i hfault
      rw [hcolon] at hfault
      contradiction
    · rename_i hok
      rw [hcolon] at hok
      obtain rfl := Except.ok.inj hok
      split
      · rename_i hfault
        rw [hvalue] at hfault
        contradiction
      · rename_i hread
        rw [hvalue] at hread
        rw [Except.ok.inj hread]

end Steps

theorem readColon_colon (rest : List UInt8) : readColon (ascii ':' :: rest) = .ok ⟨(), rest⟩ := by
  have hskip : skipBlanks (ascii ':' :: rest) = ascii ':' :: rest := rfl
  simp only [readColon, hskip, if_true]

theorem endsNumber_printItems (items : List Value) (rest : List UInt8) :
    EndsNumber (utf8 (printItems "" false items) ++ ascii ']' :: rest) := by
  cases items with
  | nil => exact ⟨rfl, rfl⟩
  | cons item items =>
    rw [printItems_cons, Text.utf8_append, Text.utf8_append]
    exact ⟨rfl, rfl⟩

theorem endsNumber_printMembers (members : List (String × Value)) (rest : List UInt8) :
    EndsNumber (utf8 (printMembers "" false members) ++ ascii '\x7d' :: rest) := by
  cases members with
  | nil => exact ⟨rfl, rfl⟩
  | cons member members =>
    obtain ⟨name, value⟩ := member
    rw [printMembers_cons, Text.utf8_append, Text.utf8_append, Text.utf8_append, Text.utf8_append]
    exact ⟨rfl, rfl⟩

theorem read_number (number : Int) (depth : Nat) {rest : List UInt8} (h : EndsNumber rest) :
    (Reader.value depth).read (utf8 (toString number) ++ rest) = .ok ⟨.number number, rest⟩ := by
  rcases print_number_cases number with ⟨magnitude, rfl, hprint⟩ | ⟨magnitude, rfl, hprint⟩
  · obtain ⟨byte, tail, hrepr, hdigit⟩ := repr_opens magnitude
    have hread := readInteger_repr magnitude h
    rw [hrepr, List.cons_append] at hread
    rw [hprint, hrepr, List.cons_append,
      read_value (opensValue_of_isDigit hdigit).1 (readFrom_digit _ hdigit _), hread]
    rfl
  · have hfrom : ∀ inner tail, readFrom inner (ascii '-') tail = some (Reading.map
        (fun magnitude : Nat => .number (-(magnitude : Int))) (readInteger tail)) := fun _ _ => rfl
    have hminus : utf8 ("-" ++ magnitude.repr) = ascii '-' :: utf8 magnitude.repr := by
      rw [Text.utf8_append]
      rfl
    rw [hprint, hminus, List.cons_append, read_value (by decide) (hfrom _ _),
      readInteger_repr magnitude h]
    rfl

theorem read_quote (text : String) (depth : Nat) (rest : List UInt8) :
    (Reader.value depth).read (utf8 (quote text) ++ rest) = .ok ⟨.text text, rest⟩ := by
  obtain ⟨tail, hquote, hread⟩ := readQuoted_quote text rest
  have hfrom : readFrom (inside depth) (ascii '"') tail
      = some (Reading.map .text (readQuoted tail)) := rfl
  rw [hquote, read_value (by decide) hfrom, hread]
  rfl

/-! ## All values -/

mutual

/-- A printed value is read as that value. -/
theorem read_print (value : Value) (depth : Nat) (hdepth : (utf8 value.print).length ≤ depth)
    {rest : List UInt8} (hrest : EndsNumber rest) :
    (Reader.value depth).read (utf8 value.print ++ rest) = .ok ⟨value, rest⟩ := by
  match value with
  | .null =>
    have hfrom : readFrom (inside depth) (ascii 'n') (['u', 'l', 'l'].map ascii ++ rest)
        = some (.ok ⟨.null, rest⟩) := by
      simp only [readFrom, if_true, readWord_map, Reading.map]
    exact read_value (by decide) hfrom
  | .flag true =>
    have hfrom : readFrom (inside depth) (ascii 't') (['r', 'u', 'e'].map ascii ++ rest)
        = some (.ok ⟨.flag true, rest⟩) := by
      have hnot : ascii 't' ≠ ascii 'n' := by decide
      simp only [readFrom, if_neg hnot, if_true, readWord_map, Reading.map]
    exact read_value (by decide) hfrom
  | .flag false =>
    have hfrom : readFrom (inside depth) (ascii 'f') (['a', 'l', 's', 'e'].map ascii ++ rest)
        = some (.ok ⟨.flag false, rest⟩) := by
      have hnot : ascii 'f' ≠ ascii 'n' ∧ ascii 'f' ≠ ascii 't' := by decide
      simp only [readFrom, if_neg hnot.1, if_neg hnot.2, if_true, readWord_map, Reading.map]
    exact read_value (by decide) hfrom
  | .number number =>
    rw [Value.print, printAfter, String.empty_append]
    exact read_number number depth hrest
  | .text text =>
    rw [Value.print, printAfter, String.empty_append]
    exact read_quote text depth rest
  | .list items =>
    rw [utf8_print_list, List.length_cons, List.length_append, List.length_singleton] at hdepth
    obtain ⟨inner, rfl⟩ : ∃ inner, depth = inner + 1 := ⟨depth - 1, by omega⟩
    have hfrom : ∀ tail, readFrom (inside (inner + 1)) (ascii '[') tail
        = some (Reading.map .list (readItems (.value inner) true [] tail)) := fun _ => rfl
    rw [utf8_print_list, List.cons_append, List.append_assoc, List.singleton_append,
      read_value (by decide) (hfrom _), readItems_print true items inner (by omega) [] rest]
    rfl
  | .object members =>
    rw [utf8_print_object, List.length_cons, List.length_append, List.length_singleton] at hdepth
    obtain ⟨inner, rfl⟩ : ∃ inner, depth = inner + 1 := ⟨depth - 1, by omega⟩
    have hfrom : ∀ tail, readFrom (inside (inner + 1)) (ascii '\x7b') tail
        = some (Reading.map .object (readFields (.value inner) true [] tail)) := fun _ => rfl
    rw [utf8_print_object, List.cons_append, List.append_assoc, List.singleton_append,
      read_value (by decide) (hfrom _), readFields_print true members inner (by omega) [] rest]
    rfl

/-- The items of a printed list are read as these items. -/
theorem readItems_print (first : Bool) (items : List Value) (depth : Nat)
    (hdepth : (utf8 (printItems "" first items)).length ≤ depth) (done : List Value)
    (rest : List UInt8) :
    readItems (.value depth) first done (utf8 (printItems "" first items) ++ ascii ']' :: rest)
      = .ok ⟨done.reverse ++ items, rest⟩ := by
  match items with
  | [] =>
    have hempty : utf8 (printItems "" first []) ++ ascii ']' :: rest = ascii ']' :: rest := rfl
    rw [hempty, readItems_end (nextItem_close first rest), List.append_nil]
  | item :: items =>
    have hbytes : utf8 (printItems "" first (item :: items))
        = utf8 (if first then "" else ",")
          ++ (utf8 item.print ++ utf8 (printItems "" false items)) := by
      rw [printItems_cons, Text.utf8_append, Text.utf8_append, List.append_assoc]
    rw [hbytes, List.length_append, List.length_append] at hdepth
    have hitem := read_print item depth (by omega) (endsNumber_printItems items rest)
    have hitems := readItems_print false items depth (by omega) (item :: done) rest
    obtain ⟨byte, tail, hprint, hopens⟩ := print_opens item
    rw [hprint, List.cons_append] at hitem
    rw [hbytes, hprint, List.append_assoc, List.append_assoc, List.cons_append,
      readItems_item (nextItem_separated hopens first _) hitem, hitems, List.reverse_cons,
      List.append_assoc, List.singleton_append]

/-- The members of a printed object are read as these members. -/
theorem readFields_print (first : Bool) (members : List (String × Value)) (depth : Nat)
    (hdepth : (utf8 (printMembers "" first members)).length ≤ depth)
    (done : List (String × Value)) (rest : List UInt8) :
    readFields (.value depth) first done
        (utf8 (printMembers "" first members) ++ ascii '\x7d' :: rest)
      = .ok ⟨done.reverse ++ members, rest⟩ := by
  match members with
  | [] =>
    have hempty : utf8 (printMembers "" first []) ++ ascii '\x7d' :: rest
        = ascii '\x7d' :: rest := rfl
    rw [hempty, readFields_end (nextKey_close first rest), List.append_nil]
  | (name, value) :: members =>
    have hbytes : utf8 (printMembers "" first ((name, value) :: members))
        = utf8 (if first then "" else ",") ++ (utf8 (quote name)
          ++ (ascii ':' :: (utf8 value.print ++ utf8 (printMembers "" false members)))) := by
      rw [printMembers_cons, Text.utf8_append, Text.utf8_append, Text.utf8_append,
        Text.utf8_append, List.append_assoc, List.append_assoc, List.append_assoc]
      rfl
    rw [hbytes, List.length_append, List.length_append, List.length_cons,
      List.length_append] at hdepth
    have hvalue := read_print value depth (by omega)
      (endsNumber_printMembers members rest)
    have hmembers := readFields_print false members depth (by omega)
      ((name, value) :: done) rest
    rw [hbytes, List.append_assoc, List.append_assoc, List.cons_append, List.append_assoc,
      readFields_field (nextKey_separated name first _) (readColon_colon _) hvalue, hmembers,
      List.reverse_cons, List.append_assoc, List.singleton_append]

end

/-- The text of a value holds this value. -/
theorem parse_print (value : Value) : Value.parse value.print = .ok value := by
  have hread : (Reader.value (utf8 value.print).length).read (utf8 value.print ++ [])
      = .ok ⟨value, []⟩ := read_print value _ (Nat.le_refl _) ⟨rfl, rfl⟩
  rw [List.append_nil] at hread
  simp only [Value.parse, decode, hread]
  rfl

end Json

end WalletGateway
