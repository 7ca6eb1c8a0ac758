/-!
# Watched values

`Watch α` holds a value that others look at; the version counts the notices that were given to
those who wait for a change.
-/

namespace RemoteConsole

/-- A value and the number of notices given about it. -/
structure Watch (α : Type) where
  value : α
  version : Nat
deriving DecidableEq, Repr

namespace Watch

variable {α : Type}

/-- A value about which nothing was said yet. -/
def ofValue (a : α) : Watch α := ⟨a, 0⟩

/-- A new value, with a notice. -/
def send (w : Watch α) (a : α) : Watch α := ⟨a, w.version + 1⟩

/-- A new value, with a notice if it differs from the old one. -/
def update [DecidableEq α] (w : Watch α) (a : α) : Watch α := if w.value = a then w else w.send a

end Watch

end RemoteConsole
