import PoolOperator.Artifact
import PoolOperator.Store.Error

/-!
# Errors of the operator

Why a turn of a pipeline fails, and which failures end the pipeline.
-/

namespace PoolOperator

/-- Why the operator cannot go on with an object. -/
inductive OperatorError where
  | client (e : Api.ClientError)
  | store (e : StoreError)
  | artifact (e : ArtifactError)
  | invalidSettings (detail : String)
  /-- Every attempt at a write met a newer version. -/
  | conflictsExhausted (resource : String) (attempts : Nat)
  | watch (detail : String)
  | metrics (detail : String)
  | health (detail : String)
deriving DecidableEq, Repr

namespace OperatorError

/-- The wording of an error. -/
def message : OperatorError → String
  | .client e => s!"Kubernetes error: {e.message}"
  | .store e => s!"Resource store error: {e.message}"
  | .artifact e => s!"Config codec error: {e.message}"
  | .invalidSettings detail => s!"Invalid configuration: {detail}"
  | .conflictsExhausted resource attempts =>
    s!"Gave up on {resource} after {attempts} conflicting writes"
  | .watch detail => s!"Resource watch failed: {detail}"
  | .metrics detail => s!"Metrics error: Error: {detail}"
  | .health detail => s!"Health server error: {detail}"

/-- Whether no repetition can succeed, so that the pipeline ends. -/
def isFatal : OperatorError → Bool
  | .store e => e.isFatal
  | .invalidSettings _ => true
  | _ => false

end OperatorError

end PoolOperator
