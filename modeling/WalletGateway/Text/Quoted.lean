import WalletGateway.Text.Mark
import WalletGateway.Text.Hex
import WalletGateway.Text.Unprintable

/-!
# Quoted text

The form in which messages repeat a text that they complain about: in double quotes, with a
backslash before what would be misread, and with the code point in place of what does not show.
-/

namespace WalletGateway.Text

/-- One character of a quoted text. -/
def quotedChar (c : Char) : String :=
  if c = '"' then "\\\""
  else if c = '\\' then "\\\\"
  else if c = '\n' then "\\n"
  else if c = '\r' then "\\r"
  else if c = '\t' then "\\t"
  else if c.toNat = 0 then "\\0"
  else if isExtending c || isUnprintable c then "\\u\x7b" ++ hex c.toNat ++ "\x7d"
  else c.toString

/-- A text in quotes. -/
def quoted (text : String) : String :=
  "\"" ++ String.join (text.toList.map quotedChar) ++ "\""

end WalletGateway.Text
