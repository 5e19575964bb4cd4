import PoolOperator.Object.ConfigMap
import PoolOperator.Object.Instance
import PoolOperator.Object.Pool
import PoolOperator.Store.Error
import PoolOperator.Store.Event

/-!
# A store in memory

Objects of three kinds under their keys, with a counter of versions. Every write gives its object a
version that no object had before. Changes of pools and instances are logged for watches. Conflicts
can be ordered in advance, and a kind can be struck off.
-/

namespace PoolOperator

/-- Objects and their history. The next version, the conflicts that are ordered and the writes that
are counted are numbers without a bound: words of 64 bits count alike as long as they stay below
`2 ^ 64`. -/
structure Store where
  pools : SortedMap ObjectKey AddressPool := ∅
  configMaps : SortedMap ObjectKey ConfigMap := ∅
  instances : SortedMap ObjectKey Instance := ∅
  /-- All changes of pools, the last one first. -/
  poolEvents : List (WatchEvent AddressPool) := []
  /-- All changes of instances, the last one first. -/
  instanceEvents : List (WatchEvent Instance) := []
  hasPoolKind : Bool := true
  hasInstanceKind : Bool := true
  /-- The version that the next write gives. -/
  nextVersion : Nat := 1
  /-- How many writes of config maps are still to meet a conflict. -/
  configMapConflicts : Nat := 0
  /-- How many writes of a status are still to meet a conflict. -/
  statusConflicts : Nat := 0
  /-- How many config maps were created, replaced and deleted. -/
  configMapWrites : Nat := 0
  /-- How many times a status was written. -/
  statusWrites : Nat := 0
deriving DecidableEq, Inhabited

/-- A kind of object that a store holds. -/
class Stored (α : Type) where
  kind : String
  metadata : α → ObjectMeta
  withMetadata : α → ObjectMeta → α
  objects : Store → SortedMap ObjectKey α
  withObjects : Store → SortedMap ObjectKey α → Store

/-- A kind of object that has a status and can be watched. -/
class Watched (α : Type) extends Stored α where
  /-- The name of the collection of such objects. -/
  resource : String
  status : α → Option Status
  withStatus : α → Option Status → α
  isRegistered : Store → Bool
  events : Store → List (WatchEvent α)
  withEvents : Store → List (WatchEvent α) → Store

instance : Watched AddressPool where
  kind := "AddressPool"
  resource := "addresspools.metallb.io"
  metadata := AddressPool.metadata
  withMetadata p md := { p with metadata := md }
  objects := Store.pools
  withObjects s pools := { s with pools := pools }
  status := AddressPool.status
  withStatus p status := { p with status := status }
  isRegistered := Store.hasPoolKind
  events := Store.poolEvents
  withEvents s events := { s with poolEvents := events }

instance : Watched Instance where
  kind := "MetalLB"
  resource := "metallbs.metallb.io"
  metadata := Instance.metadata
  withMetadata i md := { i with metadata := md }
  objects := Store.instances
  withObjects s instances := { s with instances := instances }
  status := Instance.status
  withStatus i status := { i with status := status }
  isRegistered := Store.hasInstanceKind
  events := Store.instanceEvents
  withEvents s events := { s with instanceEvents := events }

instance : Stored ConfigMap where
  kind := "ConfigMap"
  metadata := ConfigMap.metadata
  withMetadata c md := { c with metadata := md }
  objects := Store.configMaps
  withObjects s configMaps := { s with configMaps := configMaps }

/-- The conditions recorded in an object's status. -/
def conditionsOf {α : Type} [Watched α] (x : α) : List Condition :=
  match Watched.status x with
  | some status => status.conditions
  | none => []

/-- An object with other conditions in its status. -/
def withConditions {α : Type} [Watched α] (x : α) (cs : List Condition) : α :=
  Watched.withStatus x (some { (Watched.status x).getD {} with conditions := cs })

/-- The result of a call, and the store afterwards. -/
abbrev StoreResult (α : Type) := Except StoreError α × Store

namespace Store

variable {α : Type}

/-! ## Keys and versions -/

/-- The key under which an object is written. -/
def keyOf [Stored α] (x : α) : Except StoreError ObjectKey :=
  match (Stored.metadata x).ns, (Stored.metadata x).name with
  | some ns, some name => .ok ⟨ns, name⟩
  | _, _ =>
    .error (.invalidObject s!"{Stored.kind α} requires metadata.namespace and metadata.name")

/-- The object under a key, which must be there. -/
def find [Stored α] (s : Store) (key : ObjectKey) : Except StoreError α :=
  match (Stored.objects s).get? key with
  | some x => .ok x
  | none => .error (.notFound s!"{Stored.kind α} {key.display} not found")

/-- Whether a kind of object can be stored at all. -/
def checkKind (α : Type) [Watched α] (s : Store) : Except StoreError Unit :=
  if Watched.isRegistered α s then .ok () else .error (.kindNotRegistered (Stored.kind α))

/-- Whether a write is based on the stored version, or on none. -/
def checkVersion [Stored α] (key : ObjectKey) (stored : α) (expected : Option String) :
    Except StoreError Unit :=
  let version := (Stored.metadata stored).resourceVersion
  match expected with
  | none => .ok ()
  | some expected =>
    if version = some expected then .ok ()
    else
      let found := version.getD "<none>"
      .error (.conflict
        s!"{Stored.kind α} {key.display} has resourceVersion {found}, not {expected}")

/-- The metadata of a new object. -/
def stampCreated (md : ObjectMeta) (version : Nat) : ObjectMeta :=
  { md with
    uid := some s!"uid-{version}"
    resourceVersion := some (toString version)
    generation := some 1 }

/-- The metadata of an object that takes the place of a stored one. -/
def stampReplaced (md stored : ObjectMeta) (version : Nat) : ObjectMeta :=
  { md with
    uid := stored.uid
    generation := some (stored.generation.getD 0 + 1)
    resourceVersion := some (toString version) }

/-- An object with another version. -/
def withVersion [Stored α] (x : α) (version : Nat) : α :=
  Stored.withMetadata x { Stored.metadata x with resourceVersion := some (toString version) }

/-! ## Changes -/

/-- Puts an object under a key, which uses up a version. -/
def put [Stored α] (s : Store) (key : ObjectKey) (x : α) : Store :=
  { Stored.withObjects s ((Stored.objects s).insert key x) with nextVersion := s.nextVersion + 1 }

/-- Removes the object under a key. -/
def remove (α : Type) [Stored α] (s : Store) (key : ObjectKey) : Store :=
  Stored.withObjects (α := α) s ((Stored.objects s).erase key)

/-- Logs a change. -/
def record [Watched α] (s : Store) (e : WatchEvent α) : Store :=
  Watched.withEvents s (e :: Watched.events s)

/-! ## Reading -/

/-- The objects of a namespace, in the order of their keys. -/
def list (α : Type) [Watched α] (s : Store) (ns : String) : Except StoreError (List α) := do
  checkKind α s
  return ((Stored.objects s).filter fun key _ => key.ns == ns).values

/-- The object under a key. -/
def get (α : Type) [Watched α] (s : Store) (key : ObjectKey) : Except StoreError (Option α) := do
  checkKind α s
  return (Stored.objects s).get? key

end Store

end PoolOperator
