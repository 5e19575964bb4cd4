import PoolOperator.Object.Pool

/-!
# Instances

An instance asks for the load balancer to be run. Only the one with the canonical name is honoured.
-/

namespace PoolOperator

/-- What an instance asks for. -/
structure InstanceSpec where
  logLevel : Option String := none
  speakerNodeSelector : Option (SortedMap String String) := none
  controllerNodeSelector : Option (SortedMap String String) := none
deriving DecidableEq, Inhabited

/-- A request to run the load balancer. -/
structure Instance where
  metadata : ObjectMeta
  spec : InstanceSpec
  status : Option Status := none
deriving DecidableEq, Inhabited

namespace Instance

/-- The only name that is honoured. -/
def canonicalName : String := "metallb"

/-- The recorded conditions; none without a status. -/
def conditions (i : Instance) : List Condition :=
  match i.status with
  | some s => s.conditions
  | none => []

end Instance

end PoolOperator
