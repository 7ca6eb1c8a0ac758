import RemoteConsole.Delivery

/-!
# A display in memory

`Buffer` keeps the items that it is passed, from the last request to clear on.
-/

namespace RemoteConsole

/-- The items since the last request to clear. -/
structure Buffer where
  items : List Item
deriving DecidableEq, Repr

namespace Buffer

/-- Nothing was shown. -/
def empty : Buffer := ⟨[]⟩

/-- The buffer after one more item. -/
def accept (b : Buffer) : Item → Buffer
  | .clear => empty
  | item => ⟨b.items ++ [item]⟩

/-- The texts among the items. -/
def texts (b : Buffer) : List String := b.items.filterMap Item.text?

/-- The buffer that was passed these items. -/
def ofItems (items : List Item) : Buffer := items.foldl accept empty

/-- A buffer takes every item. -/
def display : Display := fun _ _ => .quiet

end Buffer

end RemoteConsole
