import PoolOperator.Api.Failure

/-!
# Errors of a store

Why a store refuses a call.
-/

namespace PoolOperator

/-- Why a store refuses a call. -/
inductive StoreError where
  /-- The object is not in the version that the caller has seen. -/
  | conflict (detail : String)
  | notFound (detail : String)
  /-- No object of the kind can be stored. -/
  | kindNotRegistered (detail : String)
  | unavailable (detail : String)
  /-- The object cannot be written as it is. -/
  | invalidObject (detail : String)
  | watch (detail : String)
  | serialization
  /-- Any other failure of a request. -/
  | client (e : Api.ClientError)
deriving DecidableEq, Repr, Inhabited

namespace StoreError

/-- The wording of a store error. -/
def message : StoreError → String
  | .conflict detail => s!"Conflict: {detail}"
  | .notFound detail => s!"Not found: {detail}"
  | .kindNotRegistered detail => s!"Resource kind not registered: {detail}"
  | .unavailable detail => s!"Store unavailable: {detail}"
  | .invalidObject detail => s!"Invalid object: {detail}"
  | .watch detail => s!"Watch error: {detail}"
  | .serialization => "Serialization error"
  | .client e => s!"Kubernetes error: {e.message}"

/-- Whether a newer version of the object stands against the call. -/
def isConflict : StoreError → Bool
  | .conflict _ => true
  | _ => false

/-- Whether the object is not there. -/
def isNotFound : StoreError → Bool
  | .notFound _ => true
  | _ => false

/-- Whether no repetition of the call can succeed. -/
def isFatal : StoreError → Bool
  | .kindNotRegistered _ => true
  | _ => false

/-- The store error that a failed request amounts to, by its code. -/
def ofClient : Api.ClientError → StoreError
  | .transport => .client .transport
  | .api e =>
    if e.code = 409 then .conflict e.message
    else if e.code = 404 then .notFound e.message
    else if 500 ≤ e.code then .unavailable e.message
    else .client (.api e)

end StoreError

end PoolOperator
