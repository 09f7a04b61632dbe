import ManagementUnit.Text.Hex
import ManagementUnit.Text.Unprintable

/-!
# Quoted text

A text between double quotes, on one line and with every character visible: the quote and the
backslash are escaped by a backslash, the four common controls by their letter, any other
unprintable character by its number.
-/

namespace ManagementUnit.Quoted

/-- The visible form of one character. -/
def escape (c : Char) : String :=
  if c = '\x00' then "\\0"
  else if c = '\t' then "\\t"
  else if c = '\r' then "\\r"
  else if c = '\n' then "\\n"
  else if c = '"' then "\\\""
  else if c = '\\' then "\\\\"
  else if Unprintable.isUnprintable c then "\\u\x7b" ++ Hex.digits 1 c.toNat ++ "\x7d"
  else c.toString

/-- A text in quotes. -/
def quote (text : List Char) : String :=
  "\"" ++ String.join (text.map escape) ++ "\""

end ManagementUnit.Quoted
