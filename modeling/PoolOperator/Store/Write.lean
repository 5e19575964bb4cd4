import PoolOperator.Store.Basic

/-!
# Writing to a store

A write that fails leaves the store as it was, but for a conflict ordered in advance: it is used up,
and the object in question gets a new version, as if somebody else had been faster.
-/

namespace PoolOperator.Store

variable {α : Type}

/-- Goes on with the result of a check, or ends with its error in the same store. -/
def guarded {β : Type} (s : Store) (check : Except StoreError β) (next : β → StoreResult α) :
    StoreResult α :=
  match check with
  | .ok b => next b
  | .error e => (.error e, s)

/-- Stores a new object under its key, which must be free. -/
def insertNew [Stored α] (s : Store) (x : α) : StoreResult α :=
  guarded s (keyOf x) fun key =>
    if (Stored.objects (α := α) s).contains key then
      (.error (.conflict s!"{Stored.kind α} {key.display} already exists"), s)
    else
      let created := Stored.withMetadata x (stampCreated (Stored.metadata x) s.nextVersion)
      (.ok created, s.put key created)

/-- Gives the object under a key, if there is one, a new version. -/
def bump (α : Type) [Stored α] (s : Store) (key : ObjectKey) : Store :=
  match (Stored.objects (α := α) s).get? key with
  | some x => s.put key (withVersion x s.nextVersion)
  | none => s

/-! ## Watched kinds -/

/-- Adds an object, whether its kind can be stored or not. -/
def add [Watched α] (s : Store) (x : α) : StoreResult α :=
  match s.insertNew x with
  | (.ok created, s) => (.ok created, s.record (.added created))
  | (.error e, s) => (.error e, s)

/-- Creates an object. -/
def create [Watched α] (s : Store) (x : α) : StoreResult α :=
  guarded s (checkKind α s) fun _ => s.add x

/-- Replaces an object. Its status stays. -/
def replace [Watched α] (s : Store) (x : α) : StoreResult α :=
  guarded s (checkKind α s) fun _ =>
    guarded s (keyOf x) fun key =>
      guarded s (s.find (α := α) key) fun stored =>
        guarded s (checkVersion key stored (Stored.metadata x).resourceVersion) fun _ =>
          let md := stampReplaced (Stored.metadata x) (Stored.metadata stored) s.nextVersion
          let replaced := Stored.withMetadata (Watched.withStatus x (Watched.status stored)) md
          (.ok replaced, (s.put key replaced).record (.modified replaced))

/-- Deletes an object. -/
def delete (α : Type) [Watched α] (s : Store) (key : ObjectKey) : StoreResult Unit :=
  guarded s (checkKind α s) fun _ =>
    guarded s (s.find (α := α) key) fun stored =>
      (.ok (), (s.remove α key).record (.deleted stored))

/-- Writes the status of an object and nothing else. -/
def patchStatus [Watched α] (s : Store) (x : α) : StoreResult α :=
  guarded s (checkKind α s) fun _ =>
    guarded s (keyOf x) fun key =>
      guarded s (s.find (α := α) key) fun stored =>
        if 0 < s.statusConflicts then
          (.error (.conflict s!"{Stored.kind α} {key.display} status was modified concurrently"),
            { s with statusConflicts := s.statusConflicts - 1 }.bump α key)
        else
          guarded s (checkVersion key stored (Stored.metadata x).resourceVersion) fun _ =>
            let updated := withVersion (Watched.withStatus stored (Watched.status x)) s.nextVersion
            let s := (s.put key updated).record (.modified updated)
            (.ok updated, { s with statusWrites := s.statusWrites + 1 })

/-! ## Config maps -/

/-- Adds a config map without counting it as a write. -/
def addConfigMap (s : Store) (c : ConfigMap) : StoreResult ConfigMap := s.insertNew c

/-- A write of a config map is over if a conflict has been ordered for it. -/
def meetConflict (s : Store) (key : ObjectKey) (next : StoreResult α) : StoreResult α :=
  if 0 < s.configMapConflicts then
    (.error (.conflict s!"ConfigMap {key.display} was modified concurrently"),
      { s with configMapConflicts := s.configMapConflicts - 1 }.bump ConfigMap key)
  else next

/-- Counts a write of a config map. -/
def countConfigMapWrite (s : Store) : Store := { s with configMapWrites := s.configMapWrites + 1 }

/-- Creates a config map. -/
def createConfigMap (s : Store) (c : ConfigMap) : StoreResult ConfigMap :=
  guarded s (keyOf c) fun key =>
    s.meetConflict key <|
      match s.insertNew c with
      | (.ok created, s) => (.ok created, s.countConfigMapWrite)
      | (.error e, s) => (.error e, s)

/-- Replaces a config map. -/
def replaceConfigMap (s : Store) (c : ConfigMap) : StoreResult ConfigMap :=
  guarded s (keyOf c) fun key =>
    guarded s (s.find (α := ConfigMap) key) fun stored =>
      s.meetConflict key <|
        guarded s (checkVersion key stored c.metadata.resourceVersion) fun _ =>
          let replaced :=
            { c with metadata := stampReplaced c.metadata stored.metadata s.nextVersion }
          (.ok replaced, (s.put key replaced).countConfigMapWrite)

/-- Deletes a config map, but no other version of it than the one given. -/
def deleteConfigMap (s : Store) (key : ObjectKey) (version : Option String) : StoreResult Unit :=
  guarded s (s.find (α := ConfigMap) key) fun stored =>
    s.meetConflict key <|
      guarded s (checkVersion key stored version) fun _ =>
        (.ok (), (s.remove ConfigMap key).countConfigMapWrite)

end PoolOperator.Store
