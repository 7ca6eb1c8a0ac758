import RemoteConsole.Decimal.Numeral
import RemoteConsole.Text.Pattern.Reader

/-!
# Tests of fields

* `ValueTest`: what a filter asks of the value of a field.
* `FieldTest`: what it asks of the fields: that there is one with a name, and maybe its value.
* `FieldTest.parse?`: the test of a text, `name` or `name=value`.
-/

namespace RemoteConsole.Log

/-- What is asked of the value of a field. A number or a truth value is asked of fields that are no
texts; of a text, that a pattern matches it up to its end. -/
inductive ValueTest where
  | nonText
  | text (source : String) (pattern : Text.Pattern)
deriving DecidableEq, Repr

namespace ValueTest

/-- The test that a text writes down. -/
def parse? (s : String) : Option ValueTest :=
  if s = "true" || s = "false" || Decimal.isNumeral s then some nonText
  else (Text.Pattern.parse? s).map (text s)

/-- A text passes the test. -/
def passes (value : String) : ValueTest → Bool
  | nonText => false
  | text _ pattern => pattern.matchesEnd value

end ValueTest

/-- What is asked of the fields: one with the name, and what its value must be. -/
structure FieldTest where
  name : String
  value : Option ValueTest
deriving DecidableEq, Repr

namespace FieldTest

/-- The test that a text writes down: a name, and what is asked of the value after an equals sign.
What follows a second equals sign is left out. -/
def parse? (s : String) : Option FieldTest :=
  match s.splitOn "=" with
  | name :: value :: _ => (ValueTest.parse? value).map fun t => ⟨name, some t⟩
  | _ => some ⟨s, none⟩

/-- The fields pass the test. -/
def passes (t : FieldTest) (fields : List (String × String)) : Bool :=
  (fields.lookup t.name).any fun value => t.value.all (·.passes value)

end FieldTest

end RemoteConsole.Log
