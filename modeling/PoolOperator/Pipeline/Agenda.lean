import PoolOperator.Object.Meta

/-!
# Agendas

Which objects are due for a turn, and when. An object is due at one time at most. A turn is put off
by a second, so that triggers in quick succession lead to one turn.
-/

namespace PoolOperator

/-- A name, and the namespace that it is in, if any. -/
structure ObjectRef where
  ns : Option String
  name : String
deriving DecidableEq, Repr

namespace ObjectRef

instance : Ord ObjectRef := ⟨compareLex (compareOn ns) (compareOn name)⟩

instance : Std.TransOrd ObjectRef :=
  inferInstanceAs (Std.TransCmp (compareLex (compareOn ObjectRef.ns) (compareOn ObjectRef.name)))

/-- The object with some metadata. -/
def ofMeta (md : ObjectMeta) : ObjectRef := ⟨md.ns, md.name.getD ""⟩

end ObjectRef

/-- The times, in seconds, at which objects are due. Of the objects that are due at the same time,
the one that was asked for first comes first. -/
structure Agenda where
  entries : List (Nat × ObjectRef) := []
deriving DecidableEq, Repr, Inhabited

namespace Agenda

/-- The time that passes between a request and the turn, in seconds. -/
def pause : Nat := 1

/-- When an object is due. -/
def due? (a : Agenda) (ref : ObjectRef) : Option Nat :=
  (a.entries.find? (·.2 == ref)).map (·.1)

/-- Crosses an object off. -/
def erase (a : Agenda) (ref : ObjectRef) : Agenda := ⟨a.entries.filter (·.2 != ref)⟩

/-- Asks for a turn on an object from a time on. If the object is due before that time, it stays
so. -/
def ask (a : Agenda) (ref : ObjectRef) (time : Nat) : Agenda :=
  match a.due? ref with
  | some due => if due < time then a else ⟨(a.erase ref).entries ++ [(time + pause, ref)]⟩
  | none => ⟨a.entries ++ [(time + pause, ref)]⟩

/-- The objects that are due at a time, the earliest one first. -/
def dueAt (a : Agenda) (time : Nat) : List ObjectRef :=
  ((a.entries.filter (·.1 ≤ time)).mergeSort fun x y => x.1 ≤ y.1).map (·.2)

end Agenda

end PoolOperator
