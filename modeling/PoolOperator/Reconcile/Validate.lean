import PoolOperator.Reconcile.Report

/-!
# Validating an instance

An instance is judged by its name and its dependencies alone. One with a wrong name is degraded,
once and for all; the other is available or pending.
-/

namespace PoolOperator.Task

/-- Reports the conditions of a state, and ends in that state. -/
def settleIn (attempts : Nat) (key : ObjectKey) (state : IdentityState) (cs : List Condition) :
    Task (Except OperatorError (Option IdentityState)) := do
  match ← report Instance attempts key cs with
  | .ok _ => return .ok (some state)
  | .error e => return .error e

/-- Validates the instance under a key. There is no state if there is no instance. -/
def validate (now : String) (attempts : Nat) (key : ObjectKey) :
    Task (Except OperatorError (Option IdentityState)) := do
  match ← call (.getInstance key) with
  | .error e => return .error (.store e)
  | .ok none => return .ok none
  | .ok (some object) =>
    if key.name = Instance.canonicalName then
      match ← probe object with
      | .error e => return .error e
      | .ok readiness =>
        let (state, cs) := Identity.ofReadiness now readiness
        settleIn attempts key state cs
    else if IdentityState.ofConditions object.conditions = .degraded then
      return .ok (some .degraded)
    else settleIn attempts key .degraded (Identity.degradedConditions now key.name)

end PoolOperator.Task
