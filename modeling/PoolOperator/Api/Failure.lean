import PoolOperator.Text.Quoted

/-!
# Failures of requests

What an API server answers instead of what was asked for, and what else may go wrong on the way.
-/

namespace PoolOperator.Api

/-- A failure as the server describes it. -/
structure ApiError where
  status : String := "Failure"
  message : String := ""
  reason : String := ""
  code : Nat
deriving DecidableEq, Repr, Inhabited

/-- A failure with all its parts. -/
def ApiError.describe (e : ApiError) : String :=
  let parts :=
    s!"status: {Text.quoted e.status}, message: {Text.quoted e.message}, " ++
      s!"reason: {Text.quoted e.reason}, code: {e.code}"
  s!"ApiError: {e.message}: {e.reason} (ErrorResponse \x7b {parts} \x7d)"

/-- A request that failed: refused by the server, or never answered in a form that can be read. -/
inductive ClientError where
  | api (e : ApiError)
  | transport
deriving DecidableEq, Repr, Inhabited

/-- The code of a failure that the server describes. -/
def ClientError.code? : ClientError → Option Nat
  | .api e => some e.code
  | .transport => none

/-- The wording of a failed request. -/
def ClientError.message : ClientError → String
  | .api e => e.describe
  | .transport => "request failed"

/-! ## Watches -/

/-- Why a watch could not go on for a moment. -/
inductive WatchFailure where
  | initialList (e : ClientError)
  | watchStart (e : ClientError)
  | watch (e : ClientError)
  /-- The server reported a failure among the changes. -/
  | reported (e : ApiError)
  | noResourceVersion
deriving DecidableEq, Repr

namespace WatchFailure

/-- The wording of a failure. -/
def message : WatchFailure → String
  | .initialList e => s!"failed to perform initial object list: {e.message}"
  | .watchStart e => s!"failed to start watching object: {e.message}"
  | .watch e => s!"watch stream failed: {e.message}"
  | .reported e => s!"error returned by apiserver during watch: {e.message}: {e.reason}"
  | .noResourceVersion =>
    "no metadata.resourceVersion in watch result (does resource support watch?)"

/-- Whether the kind is not registered: there is nothing under it to be listed. -/
def isUnregistered : WatchFailure → Bool
  | .initialList (.api e) => e.code == 404
  | _ => false

end WatchFailure

end PoolOperator.Api
