import PoolOperator.Artifact.Text
import PoolOperator.Reconcile.Report
import PoolOperator.Verdict

/-!
# Merging the pools of a namespace

The valid pools of a namespace are merged into one artifact, which is stored in a config map. It is
written only if it does not describe them already, and deleted when there is nothing to describe.
Then every pool is told whether it is part of the artifact. A write that meets a newer version
starts the whole run again, from a fresh list of pools.
-/

namespace PoolOperator

/-- What a run did to the artifact. -/
inductive AggregateOutcome where
  | created
  | updated
  | deleted
  | unchanged
  /-- There was no artifact, and nothing to describe. -/
  | absent
deriving DecidableEq, Repr, Inhabited

/-- The word for an outcome. -/
def AggregateOutcome.word : AggregateOutcome → String
  | .created => "Created"
  | .updated => "Updated"
  | .deleted => "Deleted"
  | .unchanged => "Unchanged"
  | .absent => "Absent"

namespace Artifact

/-- The name of the config map that holds the artifact, and the name of the artifact in it. -/
def configMapName : String := "config"

@[inherit_doc configMapName] def dataKey : String := "config"

/-- The label of objects that the operator writes, and its value. -/
def managedByLabel : String := "app.kubernetes.io/managed-by"

@[inherit_doc managedByLabel] def managedByValue : String := "metallb-operator"

/-- Labels, with that of the operator among them. -/
def managedLabels (labels : Option (SortedMap String String)) : SortedMap String String :=
  (labels.getD ∅).insert managedByLabel managedByValue

/-- The key of the config map of a namespace. -/
def keyIn (ns : String) : ObjectKey := ⟨ns, configMapName⟩

/-- A new config map that holds a text. -/
def newConfigMap (ns text : String) : ConfigMap where
  metadata := { name := some configMapName, ns := some ns, labels := some (managedLabels none) }
  data := some ((∅ : SortedMap String String).insert dataKey text)

/-- A stored config map with another text. Its version stays, so that nobody is overtaken. -/
def updateConfigMap (c : ConfigMap) (text : String) : ConfigMap :=
  { c with
    metadata := { c.metadata with labels := some (managedLabels c.metadata.labels) }
    data := some ((c.data.getD ∅).insert dataKey text) }

/-- The text in a config map; empty if there is none. -/
def storedText (c : ConfigMap) : String := (c.data.bind (·.get? dataKey)).getD ""

end Artifact

/-- A pool, and the conditions that it is to have. -/
structure PoolVerdict where
  name : String
  conditions : List Condition
deriving DecidableEq, Repr

namespace PoolVerdict

/-- The verdict on a pool that is not on its way out. A faulty pool without a name gets none. -/
def ofPool? (now : String) (p : AddressPool) : Option PoolVerdict :=
  let name := p.metadata.name.getD ""
  match PoolEntry.ofPool p with
  | .ok _ => some ⟨name, Verdict.mergedConditions now⟩
  | .error e =>
    if name.isEmpty then none else some ⟨name, Verdict.invalidSpecConditions now e.message⟩

end PoolVerdict

/-- The pools that are not on their way out. -/
def livePools (pools : List AddressPool) : List AddressPool := pools.filter (!·.isBeingDeleted)

/-- The artifact that describes a list of pools. -/
def Artifact.ofPools (pools : List AddressPool) : Artifact :=
  .ofEntries ((livePools pools).filterMap fun p => (PoolEntry.ofPool p).toOption)

/-- The verdicts on a list of pools. -/
def PoolVerdict.ofPools (now : String) (pools : List AddressPool) : List PoolVerdict :=
  (livePools pools).filterMap (ofPool? now)

namespace Task

/-- Deletes the artifact of a namespace, in the version that was read. -/
def deleteArtifact (ns : String) (current : ConfigMap) :
    Task (Except OperatorError AggregateOutcome) := do
  match ← call (.deleteConfigMap (Artifact.keyIn ns) current.metadata.resourceVersion) with
  | .ok () =>
    countWrite "delete"
    return .ok .deleted
  | .error (.notFound _) => return .ok .absent
  | .error e => return .error (.store e)

/-- Creates the artifact of a namespace. -/
def createArtifact (ns text : String) : Task (Except OperatorError AggregateOutcome) := do
  match ← call (.createConfigMap (Artifact.newConfigMap ns text)) with
  | .ok _ =>
    countWrite "create"
    return .ok .created
  | .error e => return .error (.store e)

/-- Replaces the artifact of a namespace, in the version that was read. -/
def replaceArtifact (current : ConfigMap) (text : String) :
    Task (Except OperatorError AggregateOutcome) := do
  match ← call (.replaceConfigMap (Artifact.updateConfigMap current text)) with
  | .ok _ =>
    countWrite "replace"
    return .ok .updated
  | .error e => return .error (.store e)

/-- Brings the stored artifact of a namespace in line with the one desired. -/
def writeArtifact (ns : String) (desired : Artifact) :
    Task (Except OperatorError AggregateOutcome) := do
  match ← call (.getConfigMap (Artifact.keyIn ns)) with
  | .error e => return .error (.store e)
  | .ok none =>
    if desired.isEmpty then return .ok .absent else createArtifact ns desired.encode
  | .ok (some current) =>
    if desired.isEmpty then deleteArtifact ns current
    else if desired.isDescribedBy (Artifact.storedText current) then return .ok .unchanged
    else replaceArtifact current desired.encode

/-- Tells the pools of a namespace their verdicts. A pool that cannot be told is passed over. -/
def reportVerdicts (attempts : Nat) (ns : String) : List PoolVerdict → Task Unit
  | [] => return ()
  | v :: vs => do
    let _ ← report AddressPool attempts ⟨ns, v.name⟩ v.conditions
    reportVerdicts attempts ns vs

/-- One attempt at merging the pools of a namespace. -/
def aggregateOnce (now : String) (attempts : Nat) (ns : String) :
    Task (Except OperatorError AggregateOutcome) := do
  match ← call (.listPools ns) with
  | .error e => return .error (.store e)
  | .ok pools =>
    match ← writeArtifact ns (.ofPools pools) with
    | .error e => return .error e
    | .ok outcome =>
      reportVerdicts attempts ns (PoolVerdict.ofPools now pools)
      return .ok outcome

/-- Merges the pools of a namespace, with a number of attempts left. -/
def aggregateWithin (now : String) (total : Nat) (ns : String) :
    (left : Nat) → Task (Except OperatorError AggregateOutcome)
  | 0 => done (.error (.conflictsExhausted s!"ConfigMap {(Artifact.keyIn ns).display}" total))
  | left + 1 => do
    match ← aggregateOnce now total ns with
    | .error (.store (.conflict _)) => aggregateWithin now total ns left
    | result => return result

/-- Merges the pools of a namespace. -/
def aggregate (now : String) (attempts : Nat) (ns : String) :
    Task (Except OperatorError AggregateOutcome) :=
  aggregateWithin now attempts ns attempts

end Task

end PoolOperator
