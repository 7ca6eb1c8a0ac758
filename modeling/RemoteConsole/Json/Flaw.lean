import RemoteConsole.Json.Printer
import RemoteConsole.Text.Quoted

/-!
# What can be wrong with a JSON text

* `Misfit`: a JSON value that is not of the shape that is read, with its message.
* `Flaw`: a text that is not JSON, or a misfit in a text, with its place.
* `Kind`: how a message names a value of the wrong type.
-/

namespace RemoteConsole.Json

/-- How a message names a JSON value. -/
inductive Kind where
  | null
  | bool (value : Bool)
  | integer (value : Int)
  | float (value : Float)
  | string (value : String)
  | sequence
  | map
deriving DecidableEq, Repr

/-- The kind of a number. -/
def Number.kind : Number → Kind
  | .integer n => .integer n
  | .float f => .float f

/-- The kind of a value. -/
def kind : Json → Kind
  | .null => .null
  | .bool b => .bool b
  | .number n => n.kind
  | .string s => .string s
  | .array _ => .sequence
  | .object _ => .map

/-- A value in a message. -/
def Kind.text : Kind → String
  | .null => "null"
  | .bool b => s!"boolean `{b}`"
  | .integer n => s!"integer `{n}`"
  | .float f => "floating point `" ++ floatText f ++ "`"
  | .string s => "string " ++ Text.quoted s
  | .sequence => "sequence"
  | .map => "map"

/-- A value that is not of the shape that is read. -/
inductive Misfit where
  | wrongType (found : Kind) (expected : String)
  | wrongValue (found : Kind) (expected : String)
  | wrongLength (length : Nat) (expected : String)
  | missingField (name : String)
  | repeatedField (name : String)
  | unknownVariant (name : String) (variants : List String)
deriving DecidableEq, Repr

/-- The name between backticks. -/
def ticked (name : String) : String := "`" ++ name ++ "`"

/-- The variants that could have stood there. -/
def variantList : List String → String
  | [] => "there are no variants"
  | [a] => "expected " ++ ticked a
  | [a, b] => "expected " ++ ticked a ++ " or " ++ ticked b
  | names => "expected one of " ++ ", ".intercalate (names.map ticked)

/-- The message of a misfit. -/
def Misfit.message : Misfit → String
  | .wrongType k e => "invalid type: " ++ k.text ++ ", expected " ++ e
  | .wrongValue k e => "invalid value: " ++ k.text ++ ", expected " ++ e
  | .wrongLength n e => "invalid length " ++ toString n ++ ", expected " ++ e
  | .missingField n => "missing field " ++ ticked n
  | .repeatedField n => "duplicate field " ++ ticked n
  | .unknownVariant n vs => "unknown variant " ++ ticked n ++ ", " ++ variantList vs

/-- What is wrong at a place of a text. -/
inductive Cause where
  | endInList
  | endInObject
  | endInString
  | endInValue
  | expectedColon
  | expectedListCommaOrEnd
  | expectedObjectCommaOrEnd
  | expectedIdent
  | expectedValue
  | invalidEscape
  | invalidNumber
  | numberOutOfRange
  | loneSurrogate
  | endOfHexEscape
  | controlCharacter
  | keyMustBeString
  | trailingComma
  | trailingCharacters
  | tooDeep
  | misfit (m : Misfit)
deriving DecidableEq, Repr

/-- The message of a cause. -/
def Cause.message : Cause → String
  | .endInList => "EOF while parsing a list"
  | .endInObject => "EOF while parsing an object"
  | .endInString => "EOF while parsing a string"
  | .endInValue => "EOF while parsing a value"
  | .expectedColon => "expected `:`"
  | .expectedListCommaOrEnd => "expected `,` or `]`"
  | .expectedObjectCommaOrEnd => "expected `,` or `\x7d`"
  | .expectedIdent => "expected ident"
  | .expectedValue => "expected value"
  | .invalidEscape => "invalid escape"
  | .invalidNumber => "invalid number"
  | .numberOutOfRange => "number out of range"
  | .loneSurrogate => "lone leading surrogate in hex escape"
  | .endOfHexEscape => "unexpected end of hex escape"
  | .controlCharacter => "control character (\\u0000-\\u001F) found while parsing a string"
  | .keyMustBeString => "key must be a string"
  | .trailingComma => "trailing comma"
  | .trailingCharacters => "trailing characters"
  | .tooDeep => "recursion limit exceeded"
  | .misfit m => m.message

/-- A place in a text: its line, and the bytes before it on the line. -/
structure Position where
  line : Nat
  column : Nat
deriving DecidableEq, Repr

/-- A cause and its place. -/
structure Flaw where
  cause : Cause
  position : Position
deriving DecidableEq, Repr

/-- The message of a flaw, with its place. -/
def Flaw.message (f : Flaw) : String :=
  s!"{f.cause.message} at line {f.position.line} column {f.position.column}"

end RemoteConsole.Json
