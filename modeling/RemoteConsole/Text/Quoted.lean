import RemoteConsole.Text.Hidden

/-!
# Quoted text in messages

`quoted` shows a text in a message so that each character can be told: quotes, backslashes and
the common control characters are escaped by a letter, every other character that has no shape
of its own (`isHidden`) by its code point.
-/

namespace RemoteConsole.Text

/-- How a character stands in a quoted text. -/
def quotedChar (c : Char) : String :=
  if c = '"' then "\\\""
  else if c = '\\' then "\\\\"
  else if c = '\n' then "\\n"
  else if c = '\r' then "\\r"
  else if c = '\t' then "\\t"
  else if c = '\x00' then "\\0"
  else if isHidden c then "\\u\x7b" ++ String.ofList (Nat.toDigits 16 c.toNat) ++ "\x7d"
  else String.singleton c

/-- The text between quotes, escaped. -/
def quoted (s : String) : String := "\"" ++ String.join (s.toList.map quotedChar) ++ "\""

end RemoteConsole.Text
