import WalletGateway.Text.Hex

/-!
# JSON values

The values that answers are made of, and their compact text.  Members stand in the order in which
they are given.
-/

namespace WalletGateway.Json

/-- A JSON value whose numbers are whole. -/
inductive Value where
  | null
  | flag (value : Bool)
  | number (value : Int)
  | text (value : String)
  | list (items : List Value)
  | object (members : List (String × Value))

/-- One character of a text.  Only quotes, backslashes and control characters are escaped. -/
def escaped (c : Char) : String :=
  if c = '"' then "\\\""
  else if c = '\\' then "\\\\"
  else if c = '\x08' then "\\b"
  else if c = '\x0c' then "\\f"
  else if c = '\n' then "\\n"
  else if c = '\r' then "\\r"
  else if c = '\t' then "\\t"
  else if c.toNat < 0x20 then "\\u" ++ Text.hexPadded 4 c.toNat
  else c.toString

/-- A text in quotes. -/
def quote (text : String) : String :=
  text.toList.foldl (fun done c => done ++ escaped c) "\"" ++ "\""

mutual

/-- The text so far followed by a value. -/
def printAfter (done : String) : Value → String
  | .null => done ++ "null"
  | .flag true => done ++ "true"
  | .flag false => done ++ "false"
  | .number value => done ++ toString value
  | .text value => done ++ quote value
  | .list items => printItems (done ++ "[") true items ++ "]"
  | .object members => printMembers (done ++ "\x7b") true members ++ "\x7d"

/-- The text so far followed by the items of a list. -/
def printItems (done : String) (first : Bool) : List Value → String
  | [] => done
  | item :: items => printItems (printAfter (if first then done else done ++ ",") item) false items

/-- The text so far followed by the members of an object. -/
def printMembers (done : String) (first : Bool) : List (String × Value) → String
  | [] => done
  | (name, value) :: members =>
    let start := (if first then done else done ++ ",") ++ quote name ++ ":"
    printMembers (printAfter start value) false members

end

/-- The compact text of a value. -/
def Value.print (value : Value) : String :=
  printAfter "" value

end WalletGateway.Json
