/-!
# Events

What a watch tells about the objects of a kind.
-/

namespace PoolOperator

/-- A change of an object. -/
inductive WatchEvent (α : Type) where
  | added (object : α)
  | modified (object : α)
  | deleted (object : α)
deriving DecidableEq, Repr

namespace WatchEvent

variable {α : Type}

/-- The object that has changed. -/
def object : WatchEvent α → α
  | .added x | .modified x | .deleted x => x

/-- The word for the kind of change. -/
def word : WatchEvent α → String
  | .added _ => "added"
  | .modified _ => "modified"
  | .deleted _ => "deleted"

end WatchEvent

end PoolOperator
