import RemoteConsole.Text.Blank
import RemoteConsole.Url.Host

/-!
# Addresses

* `Url`: the parts of an address, each in the form in which it is written.
* `Url.parse?`: the address of a text, if it is one: a scheme and what follows it.
* `Url.text`: the address as a text.
* `Url.withParameter`: the address with one more parameter in its query.
-/

namespace RemoteConsole

/-- The user of an address. -/
structure Url.User where
  name : String
  password : String
deriving DecidableEq, Repr

/-- The server of an address. -/
structure Url.Authority where
  user : Option Url.User
  host : String
  port : Option Nat
deriving DecidableEq, Repr

/-- The parts of an address. -/
structure Url where
  scheme : String
  authority : Option Url.Authority
  path : String
  query : Option String
  fragment : Option String
deriving DecidableEq, Repr

namespace Url

/-! ## Writing -/

/-- The server as a text. -/
def Authority.text (a : Authority) : String :=
  let user := match a.user with
    | none => ""
    | some u => u.name ++ (if u.password = "" then "" else ":" ++ u.password) ++ "@"
  let port := match a.port with
    | none => ""
    | some p => ":" ++ toString p
  user ++ a.host ++ port

/-- What a request asks the server for. -/
def target (u : Url) : String :=
  u.path ++ (match u.query with
    | none => ""
    | some q => "?" ++ q)

/-- What stands before the path. A path that begins with two slashes would be taken for a server, so
that without one it is written as a step that goes nowhere. -/
def beforePath (u : Url) : String :=
  match u.authority with
  | none => if u.path.startsWith "//" then "/." else ""
  | some a => "//" ++ a.text

/-- The address as a text. -/
def text (u : Url) : String :=
  let fragment := match u.fragment with
    | none => ""
    | some f => "#" ++ f
  u.scheme ++ ":" ++ u.beforePath ++ u.target ++ fragment

/-- The address with one more parameter at the end of its query. -/
def withParameter (u : Url) (name value : String) : Url :=
  let pair := formEncode name ++ "=" ++ formEncode value
  { u with query := some (match u.query with
      | none => pair
      | some "" => pair
      | some q => q ++ "&" ++ pair) }

/-- The bytes of a text, some of which are written in hexadecimal, are a text. -/
def decodesToText (s : String) : Bool :=
  (String.fromUTF8? ⟨(percentDecode s.toList).toArray⟩).isSome

/-- The user can be told to the server: the name is a text, and so is the password if there is no
name. -/
def User.isTellable (u : User) : Bool :=
  decodesToText u.name && (u.name ≠ "" || decodesToText u.password)

/-- The address without its user, who is told to the server in another way where possible. -/
def withoutUser (u : Url) : Url :=
  { u with authority := u.authority.map fun a =>
      { a with user := a.user.filter fun user => !user.isTellable } }

/-! ## Reading -/

/-- The port that a scheme stands for. -/
def defaultPort? (scheme : String) : Option Nat :=
  if scheme = "http" || scheme = "ws" then some 80
  else if scheme = "https" || scheme = "wss" then some 443
  else if scheme = "ftp" then some 21
  else none

/-- The scheme names a server by a web host. -/
def isSpecial (scheme : String) : Bool := (defaultPort? scheme).isSome

/-- The characters that can stand in a scheme. -/
def isSchemeChar (c : Char) : Bool := c.isAlphanum || ['+', '-', '.'].contains c

/-- The scheme at the start of a text, in small letters, and what follows its colon. -/
def splitScheme (cs : List Char) : Option (String × List Char) :=
  match cs with
  | [] => none
  | c :: _ =>
    if c.isAlpha then
      match cs.dropWhile isSchemeChar with
      | ':' :: rest => some ((String.ofList (cs.takeWhile isSchemeChar)).map Char.toLower, rest)
      | _ => none
    else none

/-- The character separates the parts of a path. -/
def isSlash (special : Bool) (c : Char) : Bool := c = '/' || (special && c = '\\')

/-- The character ends the server of an address. -/
def endsAuthority (special : Bool) (c : Char) : Bool := isSlash special c || c = '?' || c = '#'

/-- The query and the fragment at the end of an address. -/
def parseEnd (special : Bool) (cs : List Char) : Option String × Option String :=
  let inQuery := if special then inSpecialQuerySet else inQuerySet
  let fragment (cs : List Char) : Option String :=
    match cs with
    | '#' :: rest => some (percentEncode inFragmentSet rest)
    | _ => none
  match cs with
  | '?' :: rest =>
    let query := rest.takeWhile (· ≠ '#')
    (some (percentEncode inQuery query), fragment (rest.dropWhile (· ≠ '#')))
  | cs => (none, fragment cs)

/-- The text before the last at sign of a server, and what follows the sign. -/
def splitUser (special : Bool) (cs : List Char) : Option (List Char × List Char) :=
  let server := cs.takeWhile fun c => !endsAuthority special c
  (server.reverse.findIdx? (· = '@')).map fun i =>
    (cs.take (server.length - 1 - i), cs.drop (server.length - i))

/-- The user of a text, if it names one or tells a password. -/
def parseUser (cs : List Char) : Option User :=
  let name := cs.takeWhile (· ≠ ':')
  let password := (cs.dropWhile (· ≠ ':')).drop 1
  if name.isEmpty && password.isEmpty then none
  else some ⟨percentEncode inUserSet name, percentEncode inUserSet password⟩

/-- The host, and what follows it: the end of the server, or a colon that is not between brackets. -/
def splitHost (special bracketed : Bool) : List Char → List Char × List Char
  | [] => ([], [])
  | c :: rest =>
    if endsAuthority special c || (c = ':' && !bracketed) then ([], c :: rest)
    else
      let (host, after) := splitHost special (c = '[' || (bracketed && c ≠ ']')) rest
      (c :: host, after)

/-- Nothing is lost between the host and what follows it. -/
theorem splitHost_append (special bracketed : Bool) (cs : List Char) :
    (splitHost special bracketed cs).1 ++ (splitHost special bracketed cs).2 = cs := by
  induction cs generalizing bracketed with
  | nil => rfl
  | cons c rest ih =>
    rw [splitHost]
    split
    · rfl
    · exact congrArg (c :: ·) (ih _)

/-- The port after a colon, unless it is the one of the scheme, and what follows it. -/
def parsePort (scheme : String) (cs : List Char) : Option (Option Nat × List Char) :=
  let digits := cs.takeWhile Char.isDigit
  let after := cs.dropWhile Char.isDigit
  if !after.head?.all (endsAuthority true) then none
  else if digits.isEmpty then some (none, after)
  else
    match ofDigits 10 0 digits with
    | some n =>
      if 65535 < n then none
      else if defaultPort? scheme = some n then some (none, after)
      else some (some n, after)
    | none => none

/-- The server at the start of a text, and what follows it. A web address names a host, and so does
any address with a user or a port. An at sign with nothing before it has to be followed by a host or
by the end of the text. -/
def parseAuthority (scheme : String) (cs : List Char) : Option (Authority × List Char) := do
  let special := isSpecial scheme
  let (user, rest) ← match splitUser special cs with
    | none => some (none, cs)
    | some ([], rest) => if rest.head?.any (endsAuthority special) then none else some (none, rest)
    | some (text, rest) => some (parseUser text, rest)
  let (host, after) := splitHost special false rest
  if host.isEmpty && (special || user.isSome || after.head? = some ':') then none
  else
    let host ← if special then parseHost host else parseOpaqueHost host
    let (port, after) ← match after with
      | ':' :: digits => parsePort scheme digits
      | after => some (none, after)
    return (⟨user, host, port⟩, after)

/-- The segment stands for the place where it is. -/
def isSingleDot (s : List Char) : Bool :=
  let s := (String.ofList s).map Char.toLower
  s = "." || s = "%2e"

/-- The segment stands for the place one step up. -/
def isDoubleDot (s : List Char) : Bool :=
  let s := (String.ofList s).map Char.toLower
  s = ".." || s = "%2e." || s = ".%2e" || s = "%2e%2e"

/-- The text is a drive of a file system. -/
def isDrive : List Char → Bool
  | [c, d] => c.isAlpha && (d = ':' || d = '|')
  | _ => false

/-- The place one step up; there is none above the drive of a file. -/
def oneStepUp (isFile : Bool) (read : List String) : List String :=
  match read with
  | [s] => if isFile && isDrive s.toList then [s] else []
  | read => read.dropLast

/-- A segment as it is written; the drive of a file has a colon. -/
def writeSegment (isFile : Bool) (read : List String) (s : List Char) : String :=
  if isFile && read.isEmpty && isDrive s then String.ofList (s.take 1 ++ [':'])
  else percentEncode inPathSet s

/-- The segments of a path, after those that were read. -/
def pathSegments (isFile : Bool) (read : List String) : List (List Char) → List String
  | [] => read
  | [s] =>
    if isDoubleDot s then oneStepUp isFile read ++ [""]
    else if isSingleDot s then read ++ [""]
    else read ++ [writeSegment isFile read s]
  | s :: t :: rest =>
    if isDoubleDot s then pathSegments isFile (oneStepUp isFile read) (t :: rest)
    else if isSingleDot s then pathSegments isFile read (t :: rest)
    else pathSegments isFile (read ++ [writeSegment isFile read s]) (t :: rest)

/-- The parts of a path between its separators. -/
def splitPath (special : Bool) : List Char → List (List Char)
  | [] => [[]]
  | c :: rest =>
    if isSlash special c then [] :: splitPath special rest
    else
      match splitPath special rest with
      | [] => [[c]]
      | s :: ss => (c :: s) :: ss

/-- A path of segments; a web address has at least the empty one, and a file no empty ones before
the others. -/
def parsePath (scheme : String) (special : Bool) (cs : List Char) : String :=
  match cs with
  | [] => if special then "/" else ""
  | c :: rest =>
    let cs := if isSlash special c then rest else c :: rest
    let isFile := scheme = "file"
    let path := "/".intercalate (pathSegments isFile [] (splitPath special cs))
    "/" ++ (if isFile then String.ofList (path.toList.dropWhile (· = '/')) else path)

/-- The path, the query and the fragment. -/
def parseRest (special : Bool) (scheme : String) (authority : Option Authority)
    (cs : List Char) : Url :=
  let isEnd (c : Char) : Bool := c = '?' || c = '#'
  let path := parsePath scheme special (cs.takeWhile fun c => !isEnd c)
  let (query, fragment) := parseEnd special (cs.dropWhile fun c => !isEnd c)
  ⟨scheme, authority, path, query, fragment⟩

/-- An address with a server. -/
def parseWithAuthority (scheme : String) (cs : List Char) : Option Url := do
  let (authority, after) ← parseAuthority scheme cs
  return parseRest (isSpecial scheme) scheme (some authority) after

/-- An address whose path is not made of segments. -/
def parseOpaque (scheme : String) (cs : List Char) : Url :=
  let isEnd (c : Char) : Bool := c = '?' || c = '#'
  let path := percentEncode isControl (cs.takeWhile fun c => !isEnd c)
  let (query, fragment) := parseEnd false (cs.dropWhile fun c => !isEnd c)
  ⟨scheme, none, path, query, fragment⟩

/-- The address of a file, whose host may be missing. A path that begins with a drive needs none. -/
def parseFile (cs : List Char) : Option Url :=
  let file (host : String) (cs : List Char) : Url :=
    parseRest true "file" (some ⟨none, host, none⟩) cs
  match cs with
  | c :: d :: rest =>
    if isSlash true c && isSlash true d then
      let host := rest.takeWhile fun c => !endsAuthority true c
      let after := rest.dropWhile fun c => !endsAuthority true c
      if host.isEmpty then some (file "" after)
      else if isDrive host then some (file "" rest)
      else
        let onDrive := isDrive ((after.drop 1).takeWhile fun c => !endsAuthority true c)
        (parseHost host).map fun h => file (if h = "localhost" || onDrive then "" else h) after
    else some (file "" cs)
  | cs => some (file "" cs)

/-- The characters of a text that count: controls and blanks around it do not, and neither do tabs
and the ends of lines. -/
def significant (s : String) : List Char :=
  let isEdge (c : Char) : Bool := c.toNat ≤ 0x20
  let cs := ((s.toList.dropWhile isEdge).reverse.dropWhile isEdge).reverse
  cs.filter fun c => c ≠ '\t' && c ≠ '\n' && c ≠ '\r'

/-- The address of a text. -/
def parse? (s : String) : Option Url := do
  let (scheme, rest) ← splitScheme (significant s)
  if scheme = "file" then parseFile rest
  else if isSpecial scheme then
    parseWithAuthority scheme (rest.dropWhile (isSlash true))
  else
    match rest with
    | '/' :: '/' :: rest => parseWithAuthority scheme rest
    | '/' :: _ => some (parseRest false scheme none rest)
    | rest => some (parseOpaque scheme rest)

end Url

end RemoteConsole
