import PoolOperator.Store.Basic

/-!
# Watches

A watch first tells about the objects that are there, and then about every change in its turn. A
watch that is too far behind loses the oldest changes and says so.
-/

namespace PoolOperator

/-- How far a watch may fall behind. -/
def watchCapacity : Nat := 1024

/-- A reader of the changes of a kind of object. -/
structure Watch (α : Type) where
  /-- The objects that are still to be told of as they were at the start. -/
  replay : List α := []
  /-- How many changes have been told of or lost; nothing if the kind cannot be watched. -/
  seen : Option Nat := none
  /-- Told first of all. -/
  complaint : Option StoreError := none
deriving Inhabited

namespace Watch

variable {α : Type}

/-- A watch that starts now. It tells of the objects that are there in an order of choice. -/
def start [Watched α] (s : Store) (order : List α → List α := id) : Watch α :=
  if Watched.isRegistered α s then
    { replay := order (Stored.objects s).values
      seen := some (Watched.events (α := α) s).length }
  else
    let detail := s!"{Watched.resource α}: the server could not find the requested resource"
    { complaint := some (.watch detail) }

/-- How much a watch has to tell without waiting for a change, right after its start. -/
def ready (w : Watch α) : Nat := w.replay.length + w.complaint.toList.length

/-- What a watch tells next, if it has anything to tell, and the watch afterwards. -/
def next? [Watched α] (s : Store) (w : Watch α) :
    Option (Except StoreError (WatchEvent α) × Watch α) :=
  match w.complaint with
  | some e => some (.error e, { w with complaint := none })
  | none =>
    match w.replay with
    | x :: xs => some (.ok (.added x), { w with replay := xs })
    | [] =>
      w.seen.bind fun seen =>
        let events := Watched.events (α := α) s
        let unread := events.length - seen
        if watchCapacity < unread then
          let lost := unread - watchCapacity
          some (.error (.watch s!"watch fell behind by {lost} events"),
            { w with seen := some (seen + lost) })
        else if 0 < unread then
          events[unread - 1]?.map fun e => (.ok e, { w with seen := some (seen + 1) })
        else none

end Watch

end PoolOperator
