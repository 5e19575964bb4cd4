import PoolOperator.Object.Timestamp
import PoolOperator.SortedMap

/-!
# Object metadata

What every object carries beside its content, and the key that identifies it in a namespace.
-/

namespace PoolOperator

/-- Names, labels and the marks that the store puts on an object. -/
structure ObjectMeta where
  name : Option String := none
  generateName : Option String := none
  /-- The namespace of the object. -/
  ns : Option String := none
  labels : Option (SortedMap String String) := none
  annotations : Option (SortedMap String String) := none
  /-- Set as soon as the object is on its way out. -/
  deletionTimestamp : Option Timestamp := none
  /-- The version of the stored object; every write gives a new one. -/
  resourceVersion : Option String := none
  uid : Option String := none
  generation : Option Int64 := none
deriving DecidableEq, Inhabited

/-- A namespace and a name in it. -/
structure ObjectKey where
  ns : String
  name : String
deriving DecidableEq, Repr, Inhabited

namespace ObjectKey

instance : Ord ObjectKey := ⟨compareLex (compareOn ns) (compareOn name)⟩

instance : Std.TransOrd ObjectKey :=
  inferInstanceAs (Std.TransCmp (compareLex (compareOn ObjectKey.ns) (compareOn ObjectKey.name)))

instance : Std.LawfulEqOrd ObjectKey where
  eq_of_compare {a b} h := by
    have h : compareLex (compareOn ObjectKey.ns) (compareOn ObjectKey.name) a b = .eq := h
    obtain ⟨h₁, h₂⟩ : compare a.ns b.ns = .eq ∧ compare a.name b.name = .eq := by
      simpa [compareLex, compareOn, Ordering.then_eq_eq] using h
    cases a; cases b
    simp_all

/-- The key in its written form. -/
def display (k : ObjectKey) : String := s!"{k.ns}/{k.name}"

/-- The key of an object, in a namespace of choice if it names none; none without a name. -/
def ofMeta? (md : ObjectMeta) (defaultNs : String) : Option ObjectKey :=
  md.name.map fun name => ⟨md.ns.getD defaultNs, name⟩

end ObjectKey

/-- The name by which an object is called: its name, else the start of a generated one. -/
def ObjectMeta.anyName (md : ObjectMeta) : String :=
  (md.name.or md.generateName).getD ""

end PoolOperator
