import WalletGateway.Json.Record
import WalletGateway.Json.Value

/-!
# Documents

The reader of whole JSON texts, whatever value they hold.  `Value.parse` accepts one value with
blanks around it and nothing else; numbers must be whole, and may be of any size.  The members of an
object are all kept, in their order, repeated ones too.

A value is read by the kind of its first byte.  How deep values may be nested is a parameter of the
reader; no text is nested deeper than it is long.
-/

namespace WalletGateway.Json

/-- Whether a byte goes on with a number that is not whole. -/
def opensFraction (byte : UInt8) : Bool :=
  byte == Text.ascii '.' || byte == Text.ascii 'e' || byte == Text.ascii 'E'

/-- Whether digits are those of a number: there are some, and none of them is a leading zero. -/
def isWhole (digits : List UInt8) : Bool :=
  match digits with
  | [] => false
  | first :: others => first != Text.ascii '0' || others.isEmpty

/-- The number that digits denote. -/
def wholeValue (digits : List UInt8) : Nat :=
  digits.foldl (fun number digit => number * 10 + digitValue digit) 0

/-- Reads a whole number after its sign. -/
def readInteger (input : List UInt8) : Reading Nat :=
  let digits := input.takeWhile isDigit
  let rest := input.dropWhile isDigit
  if !isWhole digits || rest.head?.any opensFraction then .error (.here .invalidNumber rest)
  else .ok ⟨wholeValue digits, rest⟩

theorem readInteger_length {input : List UInt8} {parsed : Parsed Nat}
    (h : readInteger input = .ok parsed) : parsed.rest.length < input.length := by
  simp only [readInteger] at h
  split at h
  · contradiction
  · rename_i hwhole
    obtain rfl := Except.ok.inj h
    have hdigits : input.takeWhile isDigit ≠ [] := by
      intro hnone
      simp [hnone, isWhole] at hwhole
    have hlength := congrArg List.length
      (List.takeWhile_append_dropWhile (p := isDigit) (l := input))
    have hpos := List.length_pos_iff.2 hdigits
    rw [List.length_append] at hlength
    simp only
    omega

/-- Reads the members of an object after its bracket.  `done` holds the members so far, the last one
first. -/
def readFields {γ : Type} (value : Reader γ) (first : Bool) (done : List (String × γ))
    (input : List UInt8) : Reading (List (String × γ)) :=
  match _hkey : nextKey first input with
  | .error fault => .error fault
  | .ok ⟨none, rest⟩ => .ok ⟨done.reverse, rest⟩
  | .ok ⟨some name, rest⟩ =>
    match _hcolon : readColon rest with
    | .error fault => .error fault
    | .ok colon =>
      match _hvalue : value.read colon.rest with
      | .error fault => .error fault
      | .ok parsed => readFields value false ((name, parsed.value) :: done) parsed.rest
termination_by input.length
decreasing_by
  have := nextKey_length _hkey
  have := readColon_length _hcolon
  have := value.read_length _hvalue
  simp only at *
  omega

theorem readFields_length {γ : Type} {value : Reader γ} {first : Bool} {done : List (String × γ)}
    {input : List UInt8} {parsed : Parsed (List (String × γ))}
    (h : readFields value first done input = .ok parsed) :
    parsed.rest.length ≤ input.length := by
  fun_induction readFields value first done input with
  | case1 => contradiction
  | case2 first done input rest hkey =>
    have := nextKey_length hkey
    obtain rfl := Except.ok.inj h
    simp only at this ⊢
    omega
  | case3 => contradiction
  | case4 => contradiction
  | case5 first done input name rest hkey colon hcolon field hvalue ih =>
    have := nextKey_length hkey
    have := readColon_length hcolon
    have := value.read_length hvalue
    have := ih h
    simp only at *
    omega

/-- Reads a value that begins with the given byte; nothing if no value does.  `inner` reads what
stands inside brackets, if a bracket may open. -/
def readFrom (inner : Option (Reader Value)) (byte : UInt8) (rest : List UInt8) :
    Option (Reading Value) :=
  if byte = Text.ascii 'n' then
    some (Reading.map (fun _ => .null) (readWord ['u', 'l', 'l'] rest))
  else if byte = Text.ascii 't' then
    some (Reading.map (fun _ => .flag true) (readWord ['r', 'u', 'e'] rest))
  else if byte = Text.ascii 'f' then
    some (Reading.map (fun _ => .flag false) (readWord ['a', 'l', 's', 'e'] rest))
  else if byte = Text.ascii '"' then some (Reading.map .text (readQuoted rest))
  else if byte = Text.ascii '-' then
    some (Reading.map (fun magnitude : Nat => .number (-(magnitude : Int))) (readInteger rest))
  else if isDigit byte then
    some (Reading.map (fun magnitude : Nat => .number magnitude) (readInteger (byte :: rest)))
  else if byte = Text.ascii '[' then
    inner.map fun item => Reading.map .list (readItems item true [] rest)
  else if byte = Text.ascii '{' then
    inner.map fun value => Reading.map .object (readFields value true [] rest)
  else none

theorem readFrom_length {inner : Option (Reader Value)} {byte : UInt8} {rest : List UInt8}
    {parsed : Parsed Value} (h : readFrom inner byte rest = some (.ok parsed)) :
    parsed.rest.length ≤ rest.length := by
  have hmap : ∀ {γ : Type} (reading : Reading γ) {change : γ → Value},
      (∀ {inner : Parsed γ}, reading = .ok inner → inner.rest.length ≤ rest.length) →
      some (reading.map change) = some (.ok parsed) → parsed.rest.length ≤ rest.length := by
    intro γ reading change hlength hsome
    obtain ⟨inner, hinner, hrest⟩ := Reading.rest_of_map (Option.some.inj hsome)
    exact hrest ▸ hlength hinner
  unfold readFrom at h
  split at h
  · exact hmap _ readWord_length h
  · split at h
    · exact hmap _ readWord_length h
    · split at h
      · exact hmap _ readWord_length h
      · split at h
        · exact hmap _ (fun hquoted => Nat.le_of_lt (readQuoted_length hquoted)) h
        · split at h
          · exact hmap _ (fun hnumber => Nat.le_of_lt (readInteger_length hnumber)) h
          · split at h
            · refine hmap (readInteger (byte :: rest)) (fun hnumber => ?_) h
              exact Nat.le_of_lt_succ (readInteger_length hnumber)
            · split at h
              · obtain ⟨item, -, hitems⟩ := Option.map_eq_some_iff.1 h
                exact hmap _ readItems_length (congrArg some hitems)
              · split at h
                · obtain ⟨value, -, hfields⟩ := Option.map_eq_some_iff.1 h
                  exact hmap _ readFields_length (congrArg some hfields)
                · contradiction

/-- Values in which at most the given number of brackets is open at a time. -/
def Reader.value : Nat → Reader Value
  | 0 => ofFirst "a value" (readFrom none) readFrom_length
  | depth + 1 => ofFirst "a value" (readFrom (some (value depth))) readFrom_length

/-- The value that a text holds. -/
def Value.parse (text : String) : Except Fault Value :=
  let input := Text.utf8 text
  decode (Reader.value input.length) input

end WalletGateway.Json
