/-!
# Places of files

* `Location`: a file, by the directories on the way to it and its name.
* `Location.ofPath`: the file that a path names. A path that ends with a directory names a file in it.
* `Location.place?`: the file as seen from where the program runs.
* `Location.canOpen`: the file can be opened once the directories on the way are made.
-/

namespace RemoteConsole.Log

/-- A file: whether the way to it begins at the root, the directories on the way as they were
written down, and its name. -/
structure Location where
  isAbsolute : Bool
  directories : List String
  name : String
deriving DecidableEq, Repr

namespace Location

/-- The name of a file for a path that has none. -/
def defaultName : String := "console-stream.logs.jsonl"

/-- The parts of a path. -/
def parts (path : String) : List String :=
  (path.splitOn "/").filter fun s => s ≠ "" && s ≠ "."

/-- The file that a path names. -/
def ofPath (path : String) : Location :=
  let parts := parts path
  let name :=
    match parts.getLast? with
    | some last => if last = ".." then defaultName else last
    | none => defaultName
  ⟨path.startsWith "/" && !parts.isEmpty, parts.dropLast, name⟩

/-- One directory further on the way from where the program runs; `none` when it leads away. -/
def step (way : Option (List String)) (part : String) : Option (List String) :=
  match way with
  | none => none
  | some way =>
    if part = ".." then (if way.isEmpty then none else some way.dropLast)
    else some (way ++ [part])

/-- The directories that the way passes through, after each of its parts. -/
def passed (way : Option (List String)) : List String → List (Option (List String))
  | [] => []
  | part :: rest => step way part :: passed (step way part) rest

/-- Where the way begins. -/
def origin (l : Location) : Option (List String) := if l.isAbsolute then none else some []

/-- The file as seen from where the program runs, unless it is somewhere else. -/
def place? (l : Location) : Option (List String) :=
  (l.directories.foldl step l.origin).map (· ++ [l.name])

/-- The path from where the program runs. -/
def relative? (l : Location) : Option String := l.place?.map ("/".intercalate ·)

/-- The most bytes that a part of a path can have. -/
def longestPart : Nat := 255

/-- The most bytes that a path can have. -/
def longestPath : Nat := 4095

/-- The path that is opened. -/
def path (l : Location) : String :=
  (if l.isAbsolute then "/" else if l.directories.isEmpty then "./" else "") ++
    "/".intercalate (l.directories ++ [l.name])

/-- The way leads through the empty device, which is no directory. -/
def isInDevice (l : Location) : Bool := l.isAbsolute && ["dev", "null"].isPrefixOf l.directories

/-- The file can be opened: its path is not too long, the way leads through directories only, and
the file is not itself a directory on the way. -/
def canOpen (l : Location) : Bool :=
  (l.directories ++ [l.name]).all (·.utf8ByteSize ≤ longestPart) &&
    l.path.utf8ByteSize ≤ longestPath && !l.isInDevice &&
    (l.place?.isNone || !(passed l.origin l.directories).contains l.place?)

/-- A way that leads back to the file as a directory, and one through the empty device. -/
example :
    [⟨false, ["a"], "b.log"⟩, ⟨false, ["a", ".."], "a"⟩, ⟨true, ["dev"], "null"⟩,
      ⟨true, ["dev", "null"], "a"⟩].map canOpen = [true, false, true, false] := by
  decide +kernel

end Location

end RemoteConsole.Log
