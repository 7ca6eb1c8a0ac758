import RemoteConsole.Json.Skip

/-!
# Reading values of other types from JSON

* `Decoder α`: reads an `α` from a JSON value (`ofJson`), or directly from a text (`ofText`).
  The text is read only as far as it is needed, so a misfit has a place in it.
* `Decoder.integer`, `Decoder.word32`, `Decoder.word64`, `Decoder.optionalString`,
  `Decoder.variant`: the leaves.
* `Decoder.record`: a record, from an object or from the array of its fields. A field that is
  missing gets a value of its own, unless it is required; fields that the record does not have are
  passed over.
* `Decoder.parse`: the whole text.
-/

namespace RemoteConsole.Json

/-- How an `α` is read. -/
structure Decoder (α : Type) where
  ofJson : Json → Except Misfit α
  ofText : Cursor → Except Flaw (α × Cursor)

namespace Decoder

/-- The decoder whose results are passed through `f`. -/
def map {α β : Type} (f : α → β) (d : Decoder α) : Decoder β where
  ofJson v := (d.ofJson v).map f
  ofText c := (d.ofText c).map fun (a, c) => (f a, c)

/-- A whole text. -/
def parse {α : Type} (d : Decoder α) (text : String) : Except Flaw α := do
  let (a, c) ← d.ofText (Cursor.ofString text)
  c.finished
  return a

/-- The flaw for a value at the cursor that is of the wrong type. -/
def wrongType {α : Type} (expected : String) (c : Cursor) : Except Flaw α :=
  let found (k : Kind) (c : Cursor) : Except Flaw α := c.fail (.misfit (.wrongType k expected))
  match c.rest with
  | [] => c.failNext .endInValue
  | 'n' :: _ => do found .null (← c.advance.literal ['u', 'l', 'l'])
  | 't' :: _ => do found (.bool true) (← c.advance.literal ['r', 'u', 'e'])
  | 'f' :: _ => do found (.bool false) (← c.advance.literal ['a', 'l', 's', 'e'])
  | '"' :: _ => do
    let (s, c) ← c.advance.string
    found (.string s) c
  | '[' :: _ => found .sequence c
  | '{' :: _ => found .map c
  | x :: _ =>
    if x = '-' || x.isDigit then do
      let (n, c) ← c.number
      found n.kind c
    else c.failNext .expectedValue

/-! ## Leaves -/

/-- The number as an integer from `low` to `high`, a type that messages call `name`. -/
def checked (name : String) (low high : Int) : Number → Except Misfit Int
  | .integer n =>
    if low ≤ n ∧ n ≤ high then .ok n else .error (.wrongValue (.integer n) name)
  | .float f => .error (.wrongType (.float f) name)

/-- An integer from `low` to `high`. -/
def integer (name : String) (low high : Int) : Decoder Int where
  ofJson
    | .number n => checked name low high n
    | v => .error (.wrongType v.kind name)
  ofText c :=
    let c := c.skipBlanks
    match c.rest with
    | x :: _ =>
      if x = '-' || x.isDigit then do
        let (n, c) ← c.number
        match checked name low high n with
        | .ok n => .ok (n, c)
        | .error m => c.fail (.misfit m)
      else wrongType name c
    | [] => wrongType name c

/-- A natural number up to `high`. -/
def natural (name : String) (high : Nat) : Decoder Nat := (integer name 0 high).map Int.toNat

/-- A number of 32 bits. -/
def word32 : Decoder UInt32 := (natural "u32" 0xffffffff).map .ofNat

/-- A number of 64 bits, of a type that messages call `name`. -/
def word64 (name : String) : Decoder UInt64 := (natural name 0xffffffffffffffff).map .ofNat

/-- A string, or `null` for none. -/
def optionalString : Decoder (Option String) where
  ofJson
    | .null => .ok none
    | .string s => .ok (some s)
    | v => .error (.wrongType v.kind "a string")
  ofText c :=
    let c := c.skipBlanks
    match c.rest with
    | 'n' :: _ => do return (none, ← c.advance.literal ['u', 'l', 'l'])
    | '"' :: _ => do
      let (s, c) ← c.advance.string
      return (some s, c)
    | _ => wrongType "a string" c

/-- The value of the variant with the name. -/
def pick {α : Type} (variants : List (String × α)) (name : String) : Except Misfit α :=
  match variants.find? (·.1 = name) with
  | some (_, a) => .ok a
  | none => .error (.unknownVariant name (variants.map (·.1)))

/-- The variant whose name is the string that begins at the cursor. -/
def variantName {α : Type} (variants : List (String × α)) (c : Cursor) :
    Except Flaw (α × Cursor) := do
  let (s, c) ← c.advance.string
  match pick variants s with
  | .ok a => .ok (a, c)
  | .error m => c.fail (.misfit m)

/-- The variant whose name is the first key of an object. -/
def variantKey {α : Type} (variants : List (String × α)) (c : Cursor) :
    Except Flaw (α × Cursor) :=
  let c := c.skipBlanks
  match c.rest with
  | [] => c.failNext .endInObject
  | '"' :: _ => variantName variants c
  | '}' :: _ => c.failNext .expectedValue
  | _ => c.failNext .keyMustBeString

/-- One of the named values: its name as a string, or as the only key of an object that holds
`null`. -/
def variant {α : Type} (variants : List (String × α)) : Decoder α where
  ofJson
    | .string s => pick variants s
    | .object [(key, v)] => do
      let a ← pick variants key
      match v with
      | .null => .ok a
      | v => .error (.wrongType v.kind "unit")
    | .object _ => .error (.wrongValue .map "map with a single key")
    | v => .error (.wrongType v.kind "string or map")
  ofText c :=
    let c := c.skipBlanks
    match c.rest with
    | [] => c.failNext .endInValue
    | '"' :: _ => variantName variants c
    | '{' :: _ => do
      let (a, c) ← variantKey variants c.advance
      let c := (← c.colon).skipBlanks
      match c.rest with
      | 'n' :: _ =>
        let c := (← c.advance.literal ['u', 'l', 'l']).skipBlanks
        match c.rest with
        | '}' :: _ => .ok (a, c.advance)
        | [] => c.fail .endInObject
        | _ => c.fail .expectedValue
      | _ => wrongType "unit" c
    | _ => c.failNext .expectedValue

end Decoder

/-! ## Records -/

/-- A field of a record `σ`: `read` puts the value that it reads into the record, and `absent` the
value for a field that is missing, if it may be. -/
structure Field (σ : Type) where
  name : String
  absent : Option (σ → σ)
  read : Decoder (σ → σ)

/-- A field that is read by `d` and put into the record by `put`; `default` stands for one that is
missing. -/
def Field.of {σ α : Type} (name : String) (put : α → σ → σ) (d : Decoder α) (default : α) :
    Field σ :=
  ⟨name, some (put default), d.map put⟩

/-- A field that has to be there. -/
def Field.required {σ α : Type} (name : String) (put : α → σ → σ) (d : Decoder α) : Field σ :=
  ⟨name, none, d.map put⟩

/-- A record: its name, what it holds before its fields are put in, and its fields in order. -/
structure Shape (σ : Type) where
  name : String
  blank : σ
  fields : List (Field σ)

namespace Shape

variable {σ : Type}

/-- The misfit for an array that ends before a required field. -/
def tooShort (s : Shape σ) (length : Nat) : Misfit :=
  .wrongLength length ("struct " ++ s.name ++ " with " ++ toString s.fields.length ++ " elements")

/-- Puts in what stands for the fields that are not among the names, unless one is required. -/
def complete (seen : List String) : List (Field σ) → σ → Except Misfit σ
  | [], a => .ok a
  | f :: fields, a =>
    if seen.contains f.name then complete seen fields a
    else
      match f.absent with
      | some put => complete seen fields (put a)
      | none => .error (.missingField f.name)

/-! From a JSON value -/

/-- The fields from the items of an array, in order. -/
def ofItems (s : Shape σ) (length : Nat) : Nat → σ → List (Field σ) → List Json → Except Misfit σ
  | _, a, [], [] => .ok a
  | _, _, [], _ :: _ => .error (.wrongLength length "fewer elements in array")
  | i, a, f :: fields, [] =>
    match f.absent with
    | some put => ofItems s length (i + 1) (put a) fields []
    | none => .error (s.tooShort i)
  | i, a, f :: fields, v :: items => do ofItems s length (i + 1) ((← f.read.ofJson v) a) fields items

/-- The fields from the members of an object, in the order of the members. -/
def ofMembers (s : Shape σ) : σ → List String → List (String × Json) → Except Misfit σ
  | a, seen, [] => complete seen s.fields a
  | a, seen, (key, v) :: members =>
    match s.fields.find? (·.name = key) with
    | none => ofMembers s a seen members
    | some f =>
      if seen.contains key then .error (.repeatedField key)
      else do ofMembers s ((← f.read.ofJson v) a) (key :: seen) members

/-- The record from a JSON value. -/
def ofJson (s : Shape σ) : Json → Except Misfit σ
  | .array items => s.ofItems items.length 0 s.blank s.fields items
  | .object members => s.ofMembers s.blank [] members
  | v => .error (.wrongType v.kind ("struct " ++ s.name))

/-! From a text -/

/-- What stands at the cursor where an array should end. -/
def endOfArray (c : Cursor) : Except Flaw Cursor :=
  let c := c.skipBlanks
  match c.rest with
  | ']' :: _ => .ok c.advance
  | ',' :: _ =>
    let c := c.advance.skipBlanks
    match c.rest with
    | ']' :: _ => c.failNext .trailingComma
    | _ => c.failNext .trailingCharacters
  | [] => c.failNext .endInList
  | _ => c.failNext .trailingCharacters

/-- What stands at the cursor where an object should end. -/
def endOfObject (c : Cursor) : Except Flaw Cursor :=
  let c := c.skipBlanks
  match c.rest with
  | '}' :: _ => .ok c.advance
  | ',' :: _ => c.failNext .trailingComma
  | [] => c.failNext .endInObject
  | _ => c.failNext .trailingCharacters

/-- A misfit of a record that is written as an array: its place is after the end of the array,
or after what was passed over in search of it. -/
def arrayMisfit {α : Type} (m : Misfit) (c : Cursor) : Except Flaw α :=
  let c := c.skipBlanks
  match c.rest with
  | ']' :: _ => c.advance.fail (.misfit m)
  | ',' :: _ => c.advance.skipBlanks.fail (.misfit m)
  | _ => c.fail (.misfit m)

/-- A misfit of a record that is written as an object: its place is after the end of the object,
if it ends there. -/
def objectMisfit {α : Type} (m : Misfit) (c : Cursor) : Except Flaw α :=
  let c := c.skipBlanks
  match c.rest with
  | '}' :: _ => c.advance.fail (.misfit m)
  | _ => c.fail (.misfit m)

/-- The fields from the items of an array. -/
def itemsOfText (s : Shape σ) : Nat → σ → List (Field σ) → Cursor → Except Flaw (σ × Cursor)
  | _, a, [], c => do return (a, ← endOfArray c)
  | i, a, f :: fields, c => do
    match ← c.nextItem (i == 0) with
    | none =>
      match f.absent with
      | some put => itemsOfText s i (put a) fields c
      | none => arrayMisfit (s.tooShort i) c
    | some c =>
      let (put, c) ← f.read.ofText c
      itemsOfText s (i + 1) (put a) fields c

/-- The fields from the members of an object. -/
def membersOfText (s : Shape σ) : Nat → σ → List String → Bool → Cursor → Except Flaw (σ × Cursor)
  | 0, _, _, _, c => c.fail .endInObject
  | steps + 1, a, seen, first, c => do
    match ← c.nextKey first with
    | none =>
      match complete seen s.fields a with
      | .error m => objectMisfit m c
      | .ok a => return (a, ← endOfObject c)
    | some c =>
      let (key, c) ← c.string
      match s.fields.find? (·.name = key) with
      | none => membersOfText s steps a seen false (← (← c.colon).skipValue)
      | some f =>
        if seen.contains key then objectMisfit (.repeatedField key) c
        else
          let (put, c) ← f.read.ofText (← c.colon)
          membersOfText s steps (put a) (key :: seen) false c

/-- The record from a text. -/
def ofText (s : Shape σ) (c : Cursor) : Except Flaw (σ × Cursor) :=
  let c := c.skipBlanks
  match c.rest with
  | '[' :: _ => s.itemsOfText 0 s.blank s.fields c.advance
  | '{' :: _ => s.membersOfText (c.rest.length + 1) s.blank [] true c.advance
  | _ => Decoder.wrongType ("struct " ++ s.name) c

end Shape

/-- A record. -/
def Decoder.record {σ : Type} (s : Shape σ) : Decoder σ := ⟨s.ofJson, s.ofText⟩

end RemoteConsole.Json
