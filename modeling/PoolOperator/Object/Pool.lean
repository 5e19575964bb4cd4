import PoolOperator.Condition
import PoolOperator.Object.Meta

/-!
# Address pools

A pool lists the addresses that may be handed out, as texts that are checked only when the pool is
merged.
-/

namespace PoolOperator

/-- What is recorded about an object besides what was asked for. -/
structure Status where
  conditions : List Condition := []
deriving DecidableEq, Repr, Inhabited

/-- What a pool asks for. -/
structure PoolSpec where
  protocol : String
  addresses : List String := []
  autoAssign : Option Bool := none
deriving DecidableEq, Repr, Inhabited

/-- A pool of addresses. -/
structure AddressPool where
  metadata : ObjectMeta
  spec : PoolSpec
  status : Option Status := none
deriving DecidableEq, Inhabited

/-- A way to announce addresses. -/
inductive Protocol where
  | layer2
deriving DecidableEq, Repr, Inhabited

/-- The word for a protocol. -/
def Protocol.word : Protocol → String
  | .layer2 => "layer2"

/-- The protocol that a word stands for. -/
def Protocol.ofWord? (s : String) : Option Protocol :=
  if s = "layer2" then some .layer2 else none

/-- The complaint about a word that stands for no protocol. -/
def Protocol.unsupportedMessage (word : String) : String :=
  s!"unsupported protocol '{word}', expected one of: layer2"

theorem Protocol.ofWord?_eq_some {s : String} {p : Protocol} :
    Protocol.ofWord? s = some p ↔ s = p.word := by
  cases p
  simp [Protocol.ofWord?, Protocol.word]

namespace AddressPool

/-- The recorded conditions; none without a status. -/
def conditions (p : AddressPool) : List Condition :=
  match p.status with
  | some s => s.conditions
  | none => []

/-- Whether the pool is on its way out. -/
def isBeingDeleted (p : AddressPool) : Bool := p.metadata.deletionTimestamp.isSome

end AddressPool

end PoolOperator
