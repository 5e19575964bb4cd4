import PoolOperator.Api.Request
import PoolOperator.Api.Response

/-!
# A store over API responses

Each call is one request, and its reply is read from one response. A missing object is no failure
of a look-up, and a missing collection means that the kind is not registered.
-/

namespace PoolOperator.Api

/-- Why a call failed. -/
def failed {α : Type} : Except ClientError α → Except StoreError α
  | .ok a => .ok a
  | .error e => .error (.ofClient e)

/-- Why a list failed. -/
def listed {α : Type} (kind : String) : Except ClientError (ObjectList α) →
    Except StoreError (List α)
  | .ok page => .ok page.items
  | .error (.api e) =>
    if e.code = 404 then .error (.kindNotRegistered s!"{kind}: {e.message}")
    else .error (.ofClient (.api e))
  | .error e => .error (.ofClient e)

/-- What was looked up. -/
def found {α : Type} : Except ClientError α → Except StoreError (Option α)
  | .ok a => .ok (some a)
  | .error (.api e) =>
    if e.reason = "NotFound" then .ok none else .error (.ofClient (.api e))
  | .error e => .error (.ofClient e)

/-- The reply to a call. -/
def replyTo (r : Response) : (call : StoreCall) → Except StoreError call.Reply
  | .listPools _ => listed Collection.pools.kind (r.value ObjectList.ofJson?)
  | .getPool _ => found (r.value Wire.ofJson?)
  | .createPool _ => failed (r.value Wire.ofJson?)
  | .replacePool _ => failed (r.value Wire.ofJson?)
  | .deletePool _ => failed (r.value (deletion? AddressPool))
  | .patchPoolStatus _ => failed (r.value Wire.ofJson?)
  | .getConfigMap _ => found (r.value Wire.ofJson?)
  | .createConfigMap _ => failed (r.value Wire.ofJson?)
  | .replaceConfigMap _ => failed (r.value Wire.ofJson?)
  | .deleteConfigMap .. => failed (r.value (deletion? ConfigMap))
  | .listInstances _ => listed Collection.instances.kind (r.value ObjectList.ofJson?)
  | .getInstance _ => found (r.value Wire.ofJson?)
  | .createInstance _ => failed (r.value Wire.ofJson?)
  | .deleteInstance _ => failed (r.value (deletion? Instance))
  | .patchInstanceStatus _ => failed (r.value Wire.ofJson?)

/-- A store behind an API server, with the responses that are still to come. -/
structure Client where
  watchNs : String
  responses : List Response
  /-- The requests so far, the last one first. -/
  sent : List Request := []

/-- The answer to a call. A request that gets no response fails. -/
def Client.answer (c : Client) (call : StoreCall) : Except StoreError call.Reply × Client :=
  match requestFor c.watchNs call with
  | .error e => (.error e, c)
  | .ok request =>
    let sent := request :: c.sent
    match c.responses with
    | [] => (.error unanswered, { c with sent := sent })
    | r :: rest => (replyTo r call, { c with responses := rest, sent := sent })

end PoolOperator.Api
