import PoolOperator.Operator
import PoolOperator.Reconcile.Aggregate
import PoolOperator.Reconcile.Validate
import PoolOperator.Store.Answer

/-!
# Turns

The operator in front of a store in memory. Others may act between two of its calls, and calls may
fail. A turn of a pipeline is a run on one object and what follows from its result.
-/

namespace PoolOperator

/-- What happens at a call of the operator. -/
inductive Disturbance where
  /-- The call fails. -/
  | fail (e : StoreError)
  /-- Others act just before it. -/
  | meanwhile (edits : List StoreEdit)
deriving DecidableEq

/-- The operator and what is around it. -/
structure World where
  store : Store := {}
  /-- What happens at the next calls of each kind, the first one first. -/
  disturbances : List (StoreMethod × Disturbance) := []
  /-- The answer about the dependencies of instances. -/
  readiness : Except OperatorError Readiness := .ok .ready
  operator : Operator

/-- Takes the first entry of a method out of a list. -/
def takeFirst {α : Type} (method : StoreMethod) :
    List (StoreMethod × α) → Option α × List (StoreMethod × α)
  | [] => (none, [])
  | (m, a) :: rest =>
    if m = method then (some a, rest)
    else
      let (found, rest) := takeFirst method rest
      (found, (m, a) :: rest)

namespace World

/-- The answer to a call of the operator. -/
def answerCall (w : World) (call : StoreCall) : Except StoreError call.Reply × World :=
  match takeFirst call.method w.disturbances with
  | (some (.fail e), rest) => (.error e, { w with disturbances := rest })
  | (some (.meanwhile edits), rest) =>
    let (reply, store) := (w.store.edits edits).answer call
    (reply, { w with store := store, disturbances := rest })
  | (none, _) =>
    let (reply, store) := w.store.answer call
    (reply, { w with store := store })

/-- The answer to a request of the operator. -/
def answer (request : Request) (w : World) : request.Reply × World :=
  match request with
  | .store call => w.answerCall call
  | .probe _ => (w.readiness, w)
  | .countWrite operation =>
    ((), { w with
      operator :=
        { w.operator with metrics := w.operator.metrics.countArtifactWrite operation } })

/-- Runs a task. -/
def perform {α : Type} (w : World) (t : Task α) : α × World := t.run answer w

/-- The number of attempts at a write. -/
def attempts (w : World) : Nat := w.operator.settings.maxAttempts.toNat

/-! ## Runs -/

/-- What follows from a merge of the pools of a namespace. -/
def afterMerge (ns : String) :
    Except OperatorError AggregateOutcome × World → Except OperatorError Action × World
  | (.error e, w) => (.error e, w)
  | (.ok _, w) =>
    (.ok (.requeue w.operator.settings.resync),
      { w with operator := w.operator.afterSuccess poolPipeline ns })

/-- Merges the pools of a namespace. -/
def runNamespace (now : String) (w : World) (n : Namespace) :
    Except OperatorError Action × World :=
  let name := n.metadata.anyName
  afterMerge name (w.perform (.aggregate now w.attempts name))

/-- The key under which an instance is looked up. -/
def keyOfInstance (w : World) (i : Instance) : ObjectKey :=
  ⟨i.metadata.ns.getD w.operator.settings.ns, i.metadata.anyName⟩

/-- Validates an instance. -/
def runInstance (now : String) (w : World) (i : Instance) : Except OperatorError Action × World :=
  let key := w.keyOfInstance i
  match w.perform (.validate now w.attempts key) with
  | (.error e, w) => (.error e, w)
  | (.ok state, w) =>
    let action :=
      match state with
      | some state => state.action w.operator.settings.resync
      | none => .awaitChange
    (.ok action, { w with operator := w.operator.afterSuccess instancePipeline key.display })

/-! ## Turns -/

/-- Notes a failed run, if it failed. -/
def conclude (pipeline object : String) :
    Except OperatorError Action × World → Except OperatorError Unit × Action × World
  | (.ok action, w) => (.ok (), action, w)
  | (.error e, w) =>
    let (action, operator) := w.operator.afterFailure pipeline object e
    (.error e, action, { w with operator := operator })

/-- A turn of the pipeline of pools on a namespace. -/
def turnOnNamespace (now : String) (w : World) (n : Namespace) :
    Except OperatorError Unit × Action × World :=
  conclude poolPipeline n.metadata.anyName (w.runNamespace now n)

/-- A turn of the pipeline of instances on an instance. -/
def turnOnInstance (now : String) (w : World) (i : Instance) :
    Except OperatorError Unit × Action × World :=
  conclude instancePipeline (w.keyOfInstance i).display (w.runInstance now i)

end World

end PoolOperator
