import PoolOperator.Object.Instance

/-!
# Identity of instances

The state of an instance: degraded if it has the wrong name, else available or pending as its
dependencies are ready or not. A state is recorded as a full set of conditions and read back from
them.
-/

namespace PoolOperator

/-- What to do with an object after a turn. -/
inductive Action where
  /-- Look at it again when it changes. -/
  | awaitChange
  /-- Look at it again after some seconds. -/
  | requeue (seconds : UInt64)
deriving DecidableEq, Repr, Inhabited

/-- The state of an instance. -/
inductive IdentityState where
  | pending
  | available
  | degraded
deriving DecidableEq, Repr, Inhabited

/-- Whether the dependencies of an instance are there, and what is missing if not. -/
inductive Readiness where
  | ready
  | notReady (reason : String)
deriving DecidableEq, Repr, Inhabited

namespace IdentityState

/-- The state that conditions record. -/
def ofConditions (cs : List Condition) : IdentityState :=
  if Condition.isTrue Condition.degraded cs then .degraded
  else if Condition.isTrue Condition.available cs then .available
  else .pending

/-- What to do with an instance in a state. -/
def action (resync : UInt64) : IdentityState → Action
  | .pending => .requeue resync
  | .available | .degraded => .awaitChange

/-- The word for a state. -/
def word : IdentityState → String
  | .pending => "Pending"
  | .available => "Available"
  | .degraded => "Degraded"

end IdentityState

namespace Identity

/-- The four conditions of an instance, with one reason. -/
def conditions (now reason : String) (available progressing degraded upgradeable : Bool)
    (messages : String × String × String × String) : List Condition :=
  [.observed now Condition.available (.ofBool available) reason messages.1,
    .observed now Condition.progressing (.ofBool progressing) reason messages.2.1,
    .observed now Condition.degraded (.ofBool degraded) reason messages.2.2.1,
    .observed now Condition.upgradeable (.ofBool upgradeable) reason messages.2.2.2]

/-- The conditions of the instance with the right name whose dependencies are ready. -/
def availableConditions (now : String) : List Condition :=
  conditions now "MetalLBAvailable" true false false true ("MetalLB is available", "", "", "")

/-- The conditions of the instance with the right name that waits for its dependencies. -/
def pendingConditions (now reason : String) : List Condition :=
  conditions now "DependenciesNotReady" false true false false (reason, reason, "", reason)

/-- The conditions of an instance with a wrong name. -/
def degradedConditions (now name : String) : List Condition :=
  let fault := s!"MetalLB resource name must be '{Instance.canonicalName}', found '{name}'"
  conditions now "IncorrectMetalLBResourceName" false false true false (fault, "", fault, fault)

/-- The state and the conditions that go with the readiness of the dependencies. -/
def ofReadiness (now : String) : Readiness → IdentityState × List Condition
  | .ready => (.available, availableConditions now)
  | .notReady reason => (.pending, pendingConditions now reason)

end Identity

end PoolOperator
