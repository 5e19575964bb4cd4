import PoolOperator.Api.Failure
import PoolOperator.Error
import PoolOperator.Health

/-!
# Results of a pipeline

What a pipeline has to tell, one result after the other, and which results end it. A pipeline goes
on after every failure that a repetition may mend. Whatever ends it is noted in the health of the
operator.
-/

namespace PoolOperator

/-- A result of a pipeline. -/
inductive PipelineResult where
  /-- A turn went well. -/
  | done
  /-- A turn was due on an object that is gone. -/
  | objectNotFound
  /-- A turn failed. -/
  | failed (e : OperatorError)
  /-- The watch that leads to turns failed. -/
  | interrupted (e : Api.WatchFailure)
  /-- What works off the turns failed itself. -/
  | runnerFailed (detail : String)
deriving DecidableEq, Repr

/-- The error with which a result ends its pipeline, if it does. -/
def PipelineResult.fatal? : PipelineResult → Option OperatorError
  | .failed e => if e.isFatal then some e else none
  | .interrupted e =>
    if e.isUnregistered then some (.store (.kindNotRegistered e.message)) else none
  | .done | .objectNotFound | .runnerFailed _ => none

/-- The error of a pipeline that has no more results. -/
def streamEnded (pipeline : String) : OperatorError :=
  .watch s!"{pipeline} controller stream ended"

/-- Notes the error that has ended a pipeline. -/
def Health.stop (h : Health) (pipeline : String) (e : OperatorError) : Health :=
  h.markFailed pipeline e.message

/-- Follows the results of a pipeline to its end, which is an error in any case. -/
def supervise (pipeline : String) : List PipelineResult → Health → OperatorError × Health
  | [], h => (streamEnded pipeline, h.stop pipeline (streamEnded pipeline))
  | r :: rs, h =>
    match r.fatal? with
    | some e => (e, h.stop pipeline e)
    | none => supervise pipeline rs h

end PoolOperator
