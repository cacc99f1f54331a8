import WalletGateway.Proofs.Json.Document

/-!
# Texts and numbers read back

A text in quotes is read with every character, escaped or not (`readQuoted_quote`), and the decimal
digits of a number are read as that number (`readInteger_repr`).
-/

namespace WalletGateway

namespace Text

theorem utf8_append (first second : String) :
    utf8 (first ++ second) = utf8 first ++ utf8 second := by
  simp [utf8]

theorem utf8_ofList (text : List Char) :
    utf8 (String.ofList text) = text.flatMap String.utf8EncodeChar := by
  simp [utf8, List.utf8Encode]

theorem utf8_eq_flatMap (text : String) :
    utf8 text = text.toList.flatMap String.utf8EncodeChar := by
  rw [← utf8_ofList, String.ofList_toList]

end Text

namespace Json

open Text (ascii utf8)

/-! ## Texts -/

/-- A byte that stands for itself inside a text. -/
def IsPlain (byte : UInt8) : Prop :=
  byte ≠ ascii '"' ∧ byte ≠ ascii '\\' ∧ ¬ byte < 0x20

theorem readText_plain {byte : UInt8} (h : IsPlain byte) (done rest : List UInt8) :
    readText done (byte :: rest) = readText (byte :: done) rest := by
  rw [readText, if_neg h.1, if_neg h.2.1, if_neg h.2.2]

theorem readText_plains {bytes : List UInt8} (h : ∀ byte ∈ bytes, IsPlain byte)
    (done rest : List UInt8) :
    readText done (bytes ++ rest) = readText (bytes.reverse ++ done) rest := by
  induction bytes generalizing done with
  | nil => rfl
  | cons byte bytes ih =>
    rw [List.cons_append, readText_plain (h byte List.mem_cons_self),
      ih fun other hother => h other (List.mem_cons_of_mem _ hother)]
    simp

theorem readText_escape {input : List UInt8} {parsed : Parsed Char}
    (h : readEscape input = .ok parsed) (done : List UInt8) :
    readText done (ascii '\\' :: input)
      = readText ((String.utf8EncodeChar parsed.value).reverse ++ done) parsed.rest := by
  rw [readText, if_neg (by decide), if_pos rfl]
  split
  · rename_i hfault
    rw [h] at hfault
    contradiction
  · rename_i hparsed
    rw [h] at hparsed
    obtain rfl := Except.ok.inj hparsed
    rfl

theorem isPlain_ofNat {number : Nat} (hbyte : number < UInt8.size) (hquote : number ≠ '"'.toNat)
    (hslash : number ≠ '\\'.toNat) (hcontrol : ¬ number < 0x20) :
    IsPlain (UInt8.ofNat number) := by
  have hnumber : (UInt8.ofNat number).toNat = number := UInt8.toNat_ofNat_of_lt' hbyte
  refine ⟨fun heq => hquote ?_, fun heq => hslash ?_, fun hlt => hcontrol ?_⟩
  · exact hnumber.symm.trans (congrArg UInt8.toNat heq)
  · exact hnumber.symm.trans (congrArg UInt8.toNat heq)
  · exact hnumber ▸ UInt8.lt_iff_toNat_lt.1 hlt

/-- The bytes of a character that is not escaped. -/
theorem isPlain_of_mem_utf8EncodeChar {c : Char} (hquote : c ≠ '"') (hslash : c ≠ '\\')
    (hcontrol : ¬ c.toNat < 0x20) {byte : UInt8} (h : byte ∈ String.utf8EncodeChar c) :
    IsPlain byte := by
  have hquote' : c.toNat ≠ '"'.toNat := fun heq => hquote (Char.toNat_inj.1 heq)
  have hslash' : c.toNat ≠ '\\'.toNat := fun heq => hslash (Char.toNat_inj.1 heq)
  -- Beyond ASCII every byte is at least 128.
  have hhigh : ∀ {number : Nat}, 128 ≤ number → number < 256 → IsPlain (UInt8.ofNat number) := by
    intro number hlow hbyte
    have hcodes : '"'.toNat = 34 ∧ '\\'.toNat = 92 := ⟨rfl, rfl⟩
    exact isPlain_ofNat hbyte (by omega) (by omega) (by omega)
  have hpoint : c.val.toNat = c.toNat := rfl
  simp only [String.utf8EncodeChar, hpoint] at h
  split at h
  · rename_i hascii
    obtain rfl := List.mem_singleton.1 h
    exact isPlain_ofNat (by simp only [UInt8.size]; omega) hquote' hslash' hcontrol
  · split at h
    · simp only [List.mem_cons, List.not_mem_nil, or_false] at h
      rcases h with rfl | rfl <;> exact hhigh (by omega) (by omega)
    · split at h
      · simp only [List.mem_cons, List.not_mem_nil, or_false] at h
        rcases h with rfl | rfl | rfl <;> exact hhigh (by omega) (by omega)
      · simp only [List.mem_cons, List.not_mem_nil, or_false] at h
        rcases h with rfl | rfl | rfl | rfl <;> exact hhigh (by omega) (by omega)

/-- Four digits are read as the code point that they are written for. -/
theorem readUnit_hexPadded {point : Nat} (h : point < 0x20) (rest : List UInt8) :
    readUnit (utf8 (Text.hexPadded 4 point) ++ rest) = .ok ⟨point, rest⟩ := by
  have hlength : ∀ point : Fin 0x20, (utf8 (Text.hexPadded 4 point.val)).length = 4 := by
    decide +kernel
  have hunit : ∀ point : Fin 0x20,
      let digits := utf8 (Text.hexPadded 4 point.val)
      hexUnit? (digits.getD 0 0) (digits.getD 1 0) (digits.getD 2 0) (digits.getD 3 0)
        = some point.val := by
    decide +kernel
  have hlength := hlength ⟨point, h⟩
  have hunit := hunit ⟨point, h⟩
  simp only at hlength hunit
  generalize utf8 (Text.hexPadded 4 point) = digits at hlength hunit
  match digits, hlength with
  | [a, b, c, d], _ =>
    simp only [List.getD_cons_zero, List.getD_cons_succ] at hunit
    simp [readUnit, hunit]

/-- How a character is written: with an escape of one letter, with its code point, or as it is. -/
theorem escaped_cases (c : Char) :
    (∃ letter, utf8 (escaped c) = [ascii '\\', letter] ∧ shortEscape? letter = some c) ∨
      (c.toNat < 0x20 ∧ escaped c = "\\u" ++ Text.hexPadded 4 c.toNat) ∨
      (c ≠ '"' ∧ c ≠ '\\' ∧ ¬ c.toNat < 0x20 ∧ escaped c = c.toString) := by
  by_cases hquote : c = '"'
  · exact Or.inl ⟨ascii '"', by rw [hquote]; rfl, by rw [hquote]; rfl⟩
  by_cases hslash : c = '\\'
  · exact Or.inl ⟨ascii '\\', by rw [hslash]; rfl, by rw [hslash]; rfl⟩
  by_cases hback : c = '\x08'
  · exact Or.inl ⟨ascii 'b', by rw [hback]; rfl, by rw [hback]; rfl⟩
  by_cases hform : c = '\x0c'
  · exact Or.inl ⟨ascii 'f', by rw [hform]; rfl, by rw [hform]; rfl⟩
  by_cases hline : c = '\n'
  · exact Or.inl ⟨ascii 'n', by rw [hline]; rfl, by rw [hline]; rfl⟩
  by_cases hreturn : c = '\r'
  · exact Or.inl ⟨ascii 'r', by rw [hreturn]; rfl, by rw [hreturn]; rfl⟩
  by_cases htab : c = '\t'
  · exact Or.inl ⟨ascii 't', by rw [htab]; rfl, by rw [htab]; rfl⟩
  refine Or.inr ?_
  unfold escaped
  rw [if_neg hquote, if_neg hslash, if_neg hback, if_neg hform, if_neg hline, if_neg hreturn,
    if_neg htab]
  split
  · rename_i hcontrol
    exact Or.inl ⟨hcontrol, rfl⟩
  · rename_i hcontrol
    exact Or.inr ⟨hquote, hslash, hcontrol, rfl⟩

/-- What is written for a character is read as its bytes. -/
theorem readText_escaped (c : Char) (done rest : List UInt8) :
    readText done (utf8 (escaped c) ++ rest)
      = readText ((String.utf8EncodeChar c).reverse ++ done) rest := by
  rcases escaped_cases c with ⟨letter, hletter, hshort⟩ | ⟨hcontrol, hpoint⟩ |
    ⟨hquote, hslash, hcontrol, hplain⟩
  · have hread : readEscape (letter :: rest) = .ok ⟨c, rest⟩ := by
      simp only [readEscape, hshort]
    rw [hletter]
    exact readText_escape hread done
  · have hunit := readUnit_hexPadded hcontrol rest
    have hread : readEscape (ascii 'u' :: (utf8 (Text.hexPadded 4 c.toNat) ++ rest))
        = .ok ⟨c, rest⟩ := by
      have htrailing : isTrailing c.toNat = false := by
        simp only [isTrailing, Bool.and_eq_false_iff, decide_eq_false_iff_not]
        omega
      have hleading : isLeading c.toNat = false := by
        simp only [isLeading, Bool.and_eq_false_iff, decide_eq_false_iff_not]
        omega
      have hletter : shortEscape? (ascii 'u') = none := by decide
      simp [readEscape, hletter, readPoint, hunit, htrailing, hleading, Char.ofNat_toNat]
    rw [hpoint, Text.utf8_append]
    exact readText_escape hread done
  · have hbytes : utf8 c.toString = String.utf8EncodeChar c := by
      simp [Text.utf8_eq_flatMap]
    rw [hplain, hbytes]
    exact readText_plains
      (fun byte hbyte => isPlain_of_mem_utf8EncodeChar hquote hslash hcontrol hbyte) done rest

theorem readText_characters (text : List Char) (done rest : List UInt8) :
    readText done (text.flatMap (fun c => utf8 (escaped c)) ++ rest)
      = readText ((text.flatMap String.utf8EncodeChar).reverse ++ done) rest := by
  induction text generalizing done with
  | nil => rfl
  | cons c text ih =>
    simp only [List.flatMap_cons, List.append_assoc, List.reverse_append]
    rw [readText_escaped, ih]

theorem utf8_quote (text : String) :
    utf8 (quote text)
      = ascii '"' :: (text.toList.flatMap (fun c => utf8 (escaped c)) ++ [ascii '"']) := by
  have hfold : ∀ (characters : List Char) (done : String),
      utf8 (characters.foldl (fun done c => done ++ escaped c) done)
        = utf8 done ++ characters.flatMap fun c => utf8 (escaped c) := by
    intro characters
    induction characters with
    | nil => simp
    | cons c characters ih =>
      intro done
      rw [List.foldl_cons, ih, Text.utf8_append, List.flatMap_cons, List.append_assoc]
  rw [quote, Text.utf8_append, hfold]
  rfl

/-- A text in quotes reads back with every character. -/
theorem readQuoted_quote (text : String) (rest : List UInt8) :
    ∃ tail, utf8 (quote text) ++ rest = ascii '"' :: tail ∧ readQuoted tail = .ok ⟨text, rest⟩ := by
  refine ⟨text.toList.flatMap (fun c => utf8 (escaped c)) ++ (ascii '"' :: rest), ?_, ?_⟩
  · rw [utf8_quote]
    simp
  · have htext : textOfReversed? (text.toList.flatMap String.utf8EncodeChar).reverse
        = some text := by
      rw [textOfReversed?, List.reverse_reverse, ← Text.utf8_eq_flatMap]
      exact Text.ofUtf8?_eq_some_iff.2 rfl
    rw [readQuoted, readText_characters, List.append_nil, readText, if_pos rfl, htext]

/-! ## Numbers -/

/-- What may stand behind a number: nothing that would go on with it. -/
def EndsNumber (rest : List UInt8) : Prop :=
  rest.head?.any isDigit = false ∧ rest.head?.any opensFraction = false

theorem toNat_ascii {c : Char} (h : c.isDigit = true) :
    (ascii c).toNat = c.toNat ∧ '0'.toNat ≤ c.toNat ∧ c.toNat ≤ '9'.toNat := by
  have hrange : '0'.toNat ≤ c.toNat ∧ c.toNat ≤ '9'.toNat := by
    simp only [Char.isDigit, Bool.and_eq_true, decide_eq_true_iff] at h
    exact ⟨UInt32.le_iff_toNat_le.1 h.1, UInt32.le_iff_toNat_le.1 h.2⟩
  have hhigh : '9'.toNat = 57 := rfl
  exact ⟨UInt8.toNat_ofNat_of_lt' (by simp only [UInt8.size]; omega), hrange⟩

theorem isDigit_ascii {c : Char} (h : c.isDigit = true) : isDigit (ascii c) = true := by
  obtain ⟨hbyte, hlow, hhigh⟩ := toNat_ascii h
  have hlow' : '0'.toNat = 48 := rfl
  have hhigh' : '9'.toNat = 57 := rfl
  simp only [isDigit, Bool.and_eq_true, decide_eq_true_iff, UInt8.le_iff_toNat_le, hbyte]
  exact ⟨hlow, hhigh⟩

/-- Digits are told apart by their bytes. -/
theorem ascii_ne_of_isDigit {c d : Char} (hc : c.isDigit = true) (hd : d.isDigit = true)
    (hne : c ≠ d) : ascii c ≠ ascii d := by
  intro heq
  have hnumber := congrArg UInt8.toNat heq
  rw [(toNat_ascii hc).1, (toNat_ascii hd).1] at hnumber
  exact hne (Char.toNat_inj.1 hnumber)

theorem utf8_digits {digits : List Char} (h : ∀ c ∈ digits, c.isDigit = true) :
    utf8 (String.ofList digits) = digits.map ascii := by
  have hbytes : ∀ c ∈ digits, String.utf8EncodeChar c = [ascii c] := by
    intro c hc
    obtain ⟨-, -, hhigh⟩ := toNat_ascii (h c hc)
    have hhigh' : '9'.toNat = 57 := rfl
    have hpoint : c.val.toNat = c.toNat := rfl
    simp only [String.utf8EncodeChar, hpoint]
    rw [if_pos (by omega)]
    rfl
  rw [Text.utf8_ofList, List.flatMap_def, List.map_congr_left hbytes, ← List.flatMap_def,
    List.map_eq_flatMap]

theorem toDigits_eq_zero_or (number : Nat) :
    Nat.toDigits 10 number = ['0'] ∨
      ∃ first others, Nat.toDigits 10 number = first :: others ∧ first ≠ '0' := by
  induction number using Nat.strongRecOn with
  | ind number ih =>
    by_cases hlast : number < 10
    · have hdigits : ∀ digit : Fin 10, digit.val = 0 ∨ Nat.digitChar digit.val ≠ '0' := by decide
      rw [Nat.toDigits_of_lt_base hlast]
      rcases hdigits ⟨number, hlast⟩ with hzero | hdigit
      · simp only at hzero
        subst hzero
        exact Or.inl rfl
      · exact Or.inr ⟨_, _, rfl, hdigit⟩
    · rw [Nat.toDigits_of_base_le (by omega) (by omega)]
      rcases ih (number / 10) (by omega) with hzero | ⟨first, others, hdigits, hfirst⟩
      · -- The digits of a number that is not zero would denote zero.
        have hvalue := congrArg (fun digits => Nat.ofDigitChars 10 digits 0) hzero
        simp only [Nat.ofDigitChars_toDigits (b := 10) (by omega) (by omega)] at hvalue
        have : Nat.ofDigitChars 10 ['0'] 0 = 0 := rfl
        omega
      · exact Or.inr ⟨first, _, by rw [hdigits]; rfl, hfirst⟩

theorem isWhole_toDigits (number : Nat) : isWhole ((Nat.toDigits 10 number).map ascii) = true := by
  have hdigit : ∀ c ∈ Nat.toDigits 10 number, c.isDigit = true := fun c hc =>
    Nat.isDigit_of_mem_toDigits (by omega) (by omega) hc
  rcases toDigits_eq_zero_or number with hzero | ⟨first, others, hdigits, hfirst⟩
  · rw [hzero]
    decide
  · have hbyte : ascii first ≠ ascii '0' :=
      ascii_ne_of_isDigit (hdigit first (by rw [hdigits]; exact List.mem_cons_self)) (by decide)
        hfirst
    simp [hdigits, isWhole, hbyte]

theorem wholeValue_toDigits (number : Nat) :
    wholeValue ((Nat.toDigits 10 number).map ascii) = number := by
  have hfold : ∀ (digits : List Char) (start : Nat), (∀ c ∈ digits, c.isDigit = true) →
      (digits.map ascii).foldl (fun number digit => number * 10 + digitValue digit) start
        = Nat.ofDigitChars 10 digits start := by
    intro digits
    induction digits with
    | nil => exact fun _ _ => rfl
    | cons c digits ih =>
      intro start hdigits
      have hvalue : digitValue (ascii c) = c.toNat - '0'.toNat := by
        rw [digitValue, (toNat_ascii (hdigits c List.mem_cons_self)).1]
        rfl
      rw [List.map_cons, List.foldl_cons, hvalue,
        ih _ fun other hother => hdigits other (List.mem_cons_of_mem _ hother), Nat.mul_comm]
      rfl
  rw [wholeValue, hfold _ _ fun c hc => Nat.isDigit_of_mem_toDigits (by omega) (by omega) hc,
    Nat.ofDigitChars_toDigits (by omega) (by omega)]

theorem utf8_repr (number : Nat) : utf8 number.repr = (Nat.toDigits 10 number).map ascii := by
  rw [Nat.repr_eq_ofList_toDigits]
  exact utf8_digits fun c hc => Nat.isDigit_of_mem_toDigits (by omega) (by omega) hc

/-- The digits of a number are those up to what stands behind it. -/
theorem EndsNumber.digits_append {rest : List UInt8} (h : EndsNumber rest) {digits : List UInt8}
    (hdigits : ∀ byte ∈ digits, isDigit byte = true) :
    (digits ++ rest).takeWhile isDigit = digits ∧ (digits ++ rest).dropWhile isDigit = rest := by
  have hnone : rest.takeWhile isDigit = [] ∧ rest.dropWhile isDigit = rest := by
    cases rest with
    | nil => exact ⟨rfl, rfl⟩
    | cons byte rest =>
      have : isDigit byte = false := by simpa using h.1
      simp [this]
  rw [List.takeWhile_append_of_pos hdigits, List.dropWhile_append_of_pos hdigits, hnone.1,
    hnone.2, List.append_nil]
  exact ⟨rfl, rfl⟩

theorem isDigit_of_mem_toDigits {number : Nat} {byte : UInt8}
    (h : byte ∈ (Nat.toDigits 10 number).map ascii) : isDigit byte = true := by
  obtain ⟨c, hc, rfl⟩ := List.mem_map.1 h
  exact isDigit_ascii (Nat.isDigit_of_mem_toDigits (by omega) (by omega) hc)

theorem readInteger_repr (number : Nat) {rest : List UInt8} (h : EndsNumber rest) :
    readInteger (utf8 number.repr ++ rest) = .ok ⟨number, rest⟩ := by
  have hdigits : ∀ byte ∈ (Nat.toDigits 10 number).map ascii, isDigit byte = true :=
    fun byte => isDigit_of_mem_toDigits
  obtain ⟨htake, hdrop⟩ := h.digits_append hdigits
  rw [utf8_repr, readInteger, htake, hdrop]
  simp only [isWhole_toDigits, wholeValue_toDigits, h.2, Bool.not_true, Bool.or_self]
  rfl

end Json

end WalletGateway
