import PoolOperator.Backoff
import PoolOperator.Error
import PoolOperator.Identity
import PoolOperator.Metrics
import PoolOperator.Settings

/-!
# What the operator remembers

Nothing but its settings, how often each object has failed in a row, and the metrics. An object
that fails is looked at again after a delay that grows with every failure, and after a success it
is forgotten. A failure that no repetition can mend is only counted.
-/

namespace PoolOperator

/-- The names of the two pipelines. -/
def poolPipeline : String := "addresspool"

@[inherit_doc poolPipeline] def instancePipeline : String := "metallb"

/-- The failures of an object in a row, and the delays that they cause. The number of failures has
no bound: a word of 32 bits counts alike as long as it stays below `2 ^ 32`. -/
structure Retries where
  backoff : Backoff
  failures : Nat := 0
deriving DecidableEq, Repr

/-- What the operator remembers between two turns. -/
structure Operator where
  settings : Settings
  /-- By pipeline and object. -/
  retries : SortedMap String Retries := ∅
  metrics : Metrics := {}
deriving DecidableEq

namespace Operator

/-- The name under which the failures of an object of a pipeline are kept. -/
def retryKey (pipeline object : String) : String := s!"{pipeline}/{object}"

/-- The failures kept under a name. -/
def retriesOf (o : Operator) (key : String) : Retries :=
  (o.retries.get? key).getD ⟨.start o.settings.backoffLeast o.settings.backoffGreatest, 0⟩

/-- Counts a failure. -/
def countFailure (o : Operator) (key : String) : Operator :=
  let r := o.retriesOf key
  { o with retries := o.retries.insert key { r with failures := r.failures + 1 } }

/-- The next delay and the number of failures. -/
def nextDelay (o : Operator) (key : String) : (UInt64 × Nat) × Operator :=
  let r := o.retriesOf key
  let (delay, backoff) := r.backoff.next
  ((delay, r.failures), { o with retries := o.retries.insert key { r with backoff := backoff } })

/-- Forgets all failures. -/
def forget (o : Operator) (key : String) : Operator := { o with retries := o.retries.erase key }

/-- What to do with an object after a failure. -/
def afterFailure (o : Operator) (pipeline object : String) (e : OperatorError) :
    Action × Operator :=
  if e.isFatal then
    (.awaitChange, { o with metrics := o.metrics.countTurn pipeline "fatal" })
  else
    let key := retryKey pipeline object
    let ((delay, _), o) := (o.countFailure key).nextDelay key
    (.requeue delay, { o with metrics := o.metrics.countTurn pipeline "error" })

/-- Notes a success. -/
def afterSuccess (o : Operator) (pipeline object : String) : Operator :=
  let o := o.forget (retryKey pipeline object)
  { o with metrics := o.metrics.countTurn pipeline "success" }

end Operator

end PoolOperator
