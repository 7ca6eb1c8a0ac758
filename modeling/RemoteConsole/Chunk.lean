import RemoteConsole.Json.Basic

/-!
# Chunks of console output

* `Chunk`: what one fetch brings: nothing, a text, a record, several chunks at once, or the notice
  that the server shuts the console down.
* `Chunk.notice?`: the first shutdown notice in a chunk, depth first.
* `Chunk.leaves`: the texts and records of a chunk up to its first shutdown notice, depth first.
-/

namespace RemoteConsole

/-- What one fetch brings. -/
inductive Chunk where
  | empty
  | text (content : String)
  | record (value : Json)
  | batch (chunks : List Chunk)
  | shutdown (clean : Bool)
deriving Repr

namespace Chunk

/-- The name of the sort of a chunk. -/
def sort : Chunk → String
  | .empty => "empty"
  | .text _ => "text"
  | .record _ => "structured"
  | .batch _ => "multi"
  | .shutdown _ => "shutdown"

/-- The chunk is the empty one. -/
def isEmpty : Chunk → Bool
  | .empty => true
  | _ => false

mutual

/-- Whether the first shutdown notice in the chunk is a clean one, if there is a notice. -/
def notice? : Chunk → Option Bool
  | .shutdown clean => some clean
  | .batch chunks => firstNotice? chunks
  | .empty => none
  | .text _ => none
  | .record _ => none

/-- The first shutdown notice in a list of chunks. -/
def firstNotice? : List Chunk → Option Bool
  | [] => none
  | c :: rest =>
    match notice? c with
    | some clean => some clean
    | none => firstNotice? rest

end

mutual

/-- The texts and records of the chunk before its first shutdown notice, depth first. -/
def leaves : Chunk → List Chunk
  | .empty => []
  | .text s => [.text s]
  | .record v => [.record v]
  | .batch chunks => leavesOf chunks
  | .shutdown _ => []

/-- The texts and records of a list of chunks before its first shutdown notice. -/
def leavesOf : List Chunk → List Chunk
  | [] => []
  | c :: rest => leaves c ++ if (notice? c).isSome then [] else leavesOf rest

end

end Chunk

end RemoteConsole
