import PoolOperator.Store.Basic
import PoolOperator.Task

/-!
# Reporting conditions

Conditions are merged into the status of an object as it is now, and written if that changes
anything. A write that meets a newer version is tried again from the start.
-/

namespace PoolOperator

/-- A kind of object whose conditions are reported, and the calls that this takes. -/
class Reported (α : Type) extends Watched α where
  fetch : ObjectKey → Task (Except StoreError (Option α))
  writeStatus : α → Task (Except StoreError α)

instance : Reported AddressPool where
  fetch key := .call (.getPool key)
  writeStatus pool := .call (.patchPoolStatus pool)

instance : Reported Instance where
  fetch key := .call (.getInstance key)
  writeStatus object := .call (.patchInstanceStatus object)

namespace Task

/-- Writes conditions to the status of an object, with a number of attempts left. Tells whether
anything was written. -/
def reportWithin (α : Type) [Reported α] (key : ObjectKey) (desired : List Condition)
    (total : Nat) : (left : Nat) → Task (Except OperatorError Bool)
  | 0 =>
    done (.error (.conflictsExhausted s!"{Stored.kind α} {key.display} status" total))
  | left + 1 => do
    match ← Reported.fetch (α := α) key with
    | .error e => return .error (.store e)
    | .ok none => return .ok false
    | .ok (some current) =>
      match Condition.merge? (conditionsOf current) desired with
      | none => return .ok false
      | some merged =>
        match ← Reported.writeStatus (withConditions current merged) with
        | .ok _ => return .ok true
        | .error (.conflict _) => reportWithin α key desired total left
        | .error (.notFound _) => return .ok false
        | .error e => return .error (.store e)

/-- Writes conditions to the status of an object. -/
def report (α : Type) [Reported α] (attempts : Nat) (key : ObjectKey) (desired : List Condition) :
    Task (Except OperatorError Bool) :=
  reportWithin α key desired attempts attempts

end Task

end PoolOperator
