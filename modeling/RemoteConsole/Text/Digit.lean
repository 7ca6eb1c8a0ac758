/-!
# Hexadecimal digits

`hexValue?`: the value of a digit, which may be a capital.
-/

namespace RemoteConsole.Text

/-- The value of a hexadecimal digit. -/
def hexValue? (c : Char) : Option Nat :=
  if c.isDigit then some (c.toNat - 48)
  else if 'a' ≤ c ∧ c ≤ 'f' then some (c.toNat - 87)
  else if 'A' ≤ c ∧ c ≤ 'F' then some (c.toNat - 55)
  else none

/-- The digits of both cases, and their neighbours. -/
example : ['/', '0', '9', ':', '@', 'A', 'F', 'G', '\x60', 'a', 'f', 'g'].map hexValue? =
    [none, some 0, some 9, none, none, some 10, some 15, none, none, some 10, some 15, none] := by
  decide

end RemoteConsole.Text
