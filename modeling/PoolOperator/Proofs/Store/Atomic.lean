import PoolOperator.Proofs.Store.History
import PoolOperator.Proofs.Store.Outcome
import Mathlib.Algebra.Group.Prod

/-!
# Writes, done or not

A write that fails leaves no trace but for a conflict that it has met, and a write that succeeds
concerns the object at its own place only. What it leaves there is told by what it asks for and what
it finds. The writes that are counted are those that have succeeded.
-/

namespace PoolOperator

/-! ## What writes ask for -/

namespace AnyObject

/-- The kind of an object. -/
def kind : AnyObject → ObjectKind
  | ofPool _ => .pools
  | ofConfigMap _ => .configMaps
  | ofInstance _ => .instances

/-- An object with other metadata. -/
def withMetadata : AnyObject → ObjectMeta → AnyObject
  | ofPool p, md => ofPool { p with metadata := md }
  | ofConfigMap c, md => ofConfigMap { c with metadata := md }
  | ofInstance i, md => ofInstance { i with metadata := md }

/-- The status of an object. Config maps have none. -/
def status : AnyObject → Option Status
  | ofPool p => p.status
  | ofConfigMap _ => none
  | ofInstance i => i.status

/-- An object with another status, if objects of its kind have one. -/
def withStatus : AnyObject → Option Status → AnyObject
  | ofPool p, status => ofPool { p with status := status }
  | ofConfigMap c, _ => ofConfigMap c
  | ofInstance i, status => ofInstance { i with status := status }

/-- An object with another version and nothing else. -/
def withVersion (x : AnyObject) (version : Nat) : AnyObject :=
  x.withMetadata { x.metadata with resourceVersion := some (toString version) }

end AnyObject

/-- A write of an object of any kind. -/
inductive Writing where
  | create (x : AnyObject)
  | replace (x : AnyObject)
  | patchStatus (x : AnyObject)
  | delete (place : Place)

namespace Writing

/-- Whether a write is for what is at a place. -/
def IsAt : Writing → Place → Prop
  | create x, place | replace x, place | patchStatus x, place =>
    x.kind = place.kind ∧ x.metadata.HasKey place.key
  | delete place', place => place' = place

/-- What a write leaves at its place, by what it finds there and by the version that is due. -/
inductive Leaves (version : Nat) : Writing → Option AnyObject → Option AnyObject → Prop where
  | create (x : AnyObject) :
      Leaves version (.create x) none (some (x.withMetadata { x.metadata with
        uid := some s!"uid-{version}"
        resourceVersion := some (toString version)
        generation := some 1 }))
  | replace (x : AnyObject) {stored : AnyObject} {generation : Int64}
      (h : stored.metadata.generation = some generation) :
      Leaves version (.replace x) (some stored)
        (some ((x.withStatus stored.status).withMetadata { x.metadata with
          uid := stored.metadata.uid
          resourceVersion := some (toString version)
          generation := some (generation + 1) }))
  | patchStatus (x stored : AnyObject) :
      Leaves version (.patchStatus x) (some stored)
        (some ((stored.withStatus x.status).withVersion version))
  | delete (place : Place) (stored : AnyObject) :
      Leaves version (.delete place) (some stored) none

end Writing

namespace StoreEdit

/-- The write that a change from outside asks for, if it asks for one. -/
def writing? : StoreEdit → Option Writing
  | addPool p | call (.createPool p) => some (.create (.ofPool p))
  | addConfigMap c | call (.createConfigMap c) => some (.create (.ofConfigMap c))
  | addInstance i | call (.createInstance i) => some (.create (.ofInstance i))
  | call (.replacePool p) => some (.replace (.ofPool p))
  | call (.replaceConfigMap c) => some (.replace (.ofConfigMap c))
  | call (.patchPoolStatus p) => some (.patchStatus (.ofPool p))
  | call (.patchInstanceStatus i) => some (.patchStatus (.ofInstance i))
  | call (.deletePool key) => some (.delete ⟨.pools, key⟩)
  | call (.deleteConfigMap key _) => some (.delete ⟨.configMaps, key⟩)
  | call (.deleteInstance key) => some (.delete ⟨.instances, key⟩)
  | _ => none

/-- Whether a change is counted as a write of a config map if it succeeds. -/
def isConfigMapWrite : StoreEdit → Bool
  | call (.createConfigMap _) | call (.replaceConfigMap _) | call (.deleteConfigMap ..) => true
  | _ => false

/-- Whether a change is counted as a write of a status if it succeeds. -/
def isStatusWrite : StoreEdit → Bool
  | call (.patchPoolStatus _) | call (.patchInstanceStatus _) => true
  | _ => false

/-- What a change adds to the writes of config maps and to those of statuses if it succeeds. -/
def counts (e : StoreEdit) : Nat × Nat := (e.isConfigMapWrite.toNat, e.isStatusWrite.toNat)

end StoreEdit

namespace Store

/-- Whether a change from outside succeeds, and why not. -/
def outcome (s : Store) : StoreEdit → Except StoreError Unit
  | .call call => (s.answer call).1.map fun _ => ()
  | .addPool p => (s.add p).1.map fun _ => ()
  | .addConfigMap c => (s.addConfigMap c).1.map fun _ => ()
  | .addInstance i => (s.add i).1.map fun _ => ()
  | .orderConfigMapConflicts _ | .orderStatusConflicts _ | .setPoolKind _ | .setInstanceKind _ =>
    .ok ()

/-- How many of the changes of a sort succeed when they are made one after another. -/
def successes (sort : StoreEdit → Bool) : Store → List StoreEdit → Nat
  | _, [] => 0
  | s, e :: es =>
    (if sort e && (s.outcome e).isOk then 1 else 0) + successes sort (s.edit e) es

/-- How many writes of config maps and of statuses have been counted. -/
def writes (s : Store) : Nat × Nat := (s.configMapWrites, s.statusWrites)

theorem add_no_writes (writes : Nat × Nat) : writes + (0, 0) = writes := rfl

/-- Whether two stores differ in nothing that is noted beside objects, versions and ordered
conflicts. -/
structure NotedAlike (s s' : Store) : Prop where
  poolEvents : s'.poolEvents = s.poolEvents
  instanceEvents : s'.instanceEvents = s.instanceEvents
  hasPoolKind : s'.hasPoolKind = s.hasPoolKind
  hasInstanceKind : s'.hasInstanceKind = s.hasInstanceKind
  writes : s'.writes = s.writes

/-- Whether a change has used up one of the conflicts that have been ordered for it. -/
def UsesUp (s : Store) (e : StoreEdit) (s' : Store) : Prop :=
  e.isConfigMapWrite = true ∧ 0 < s.configMapConflicts ∧
      s'.configMapConflicts = s.configMapConflicts - 1 ∧ s'.statusConflicts = s.statusConflicts ∨
    e.isStatusWrite = true ∧ 0 < s.statusConflicts ∧
      s'.statusConflicts = s.statusConflicts - 1 ∧ s'.configMapConflicts = s.configMapConflicts

/-- Whether a change has met an ordered conflict: the object at its place has got a new version, and
nothing else has happened. -/
structure Overtaken (s : Store) (e : StoreEdit) (place : Place) (s' : Store) : Prop where
  at? (place' : Place) : s'.at? place' =
    if place' = place then (s.at? place).map (·.withVersion s.nextVersion) else s.at? place'
  usesUp : s.UsesUp e s'
  notedAlike : s.NotedAlike s'

/-- The ways in which a write can end. -/
inductive Ends (s : Store) (e : StoreEdit) (w : Writing) : Except StoreError Unit → Store → Prop
    where
  | refused (error : StoreError) : Ends s e w (.error error) s
  | overtaken {place : Place} {s' : Store} (hat : w.IsAt place) (h : s.Overtaken e place s')
      (message : String) : Ends s e w (.error (.conflict message)) s'
  | done {place : Place} {s' : Store} (hat : w.IsAt place)
      (hleaves : w.Leaves s.nextVersion (s.at? place) (s'.at? place))
      (hothers : ∀ place', place' ≠ place → s'.at? place' = s.at? place')
      (hwrites : s'.writes = s.writes + e.counts) : Ends s e w (.ok ()) s'

/-! ## Parts of objects -/

/-- A kind whose objects have metadata as objects of any kind have them. -/
class Labelled (α : Type) [Stored α] [Placed α] : Prop where
  kind_ofStored (x : α) : (Placed.ofStored x).kind = Placed.kind α
  ofStored_withMetadata (x : α) (md : ObjectMeta) :
    Placed.ofStored (Stored.withMetadata x md) = (Placed.ofStored x).withMetadata md
  writes_withObjects (s : Store) (m : SortedMap ObjectKey α) :
    (Stored.withObjects s m).writes = s.writes

/-- A kind whose objects have a status as well, and whose events are not counted. -/
class Judged (α : Type) [Watched α] [WatchedPlaced α] : Prop extends Labelled α where
  status_ofStored (x : α) : (Placed.ofStored x).status = Watched.status x
  ofStored_withStatus (x : α) (status : Option Status) :
    Placed.ofStored (Watched.withStatus x status) = (Placed.ofStored x).withStatus status
  writes_record (s : Store) (e : WatchEvent α) : (s.record e).writes = s.writes

instance : Judged AddressPool where
  kind_ofStored _ := rfl
  ofStored_withMetadata _ _ := rfl
  writes_withObjects _ _ := rfl
  status_ofStored _ := rfl
  ofStored_withStatus _ _ := rfl
  writes_record _ _ := rfl

instance : Judged Instance where
  kind_ofStored _ := rfl
  ofStored_withMetadata _ _ := rfl
  writes_withObjects _ _ := rfl
  status_ofStored _ := rfl
  ofStored_withStatus _ _ := rfl
  writes_record _ _ := rfl

instance : Labelled ConfigMap where
  kind_ofStored _ := rfl
  ofStored_withMetadata _ _ := rfl
  writes_withObjects _ _ := rfl

section Placed

variable {α : Type} [Stored α] [Placed α] {s s' : Store} {key : ObjectKey} {x : α}
  {e : StoreEdit} {w : Writing}

theorem ends_put (hat : w.IsAt (placeOf α key))
    (hleaves : w.Leaves s.nextVersion (s.at? (placeOf α key)) (some (Placed.ofStored x)))
    (h : ∀ place, s'.at? place = (s.put key x).at? place)
    (hwrites : s'.writes = s.writes + e.counts) : s.Ends e w (.ok ()) s' := by
  refine .done hat ?_ (fun place' hne => ?_) hwrites
  · rw [h, at?_put, if_pos rfl]
    exact hleaves
  · rw [h, at?_put, if_neg hne]

theorem ends_remove {stored : α} (hstored : (Stored.objects s).get? key = some stored)
    (h : ∀ place, s'.at? place = (s.remove α key).at? place)
    (hwrites : s'.writes = s.writes + e.counts) :
    s.Ends e (.delete (placeOf α key)) (.ok ()) s' := by
  refine .done rfl ?_ (fun place' hne => ?_) hwrites
  · rw [h, at?_remove, if_pos rfl, at?_eq_some.mpr hstored]
    exact .delete _ _
  · rw [h, at?_remove, if_neg hne]

omit [Placed α] in
/-- What holds of a store, and of it with another object at a place, holds of it when the object at
the place has been overtaken. -/
theorem of_bump {P : Store → Prop} (hs : P s) (hput : ∀ y : α, P (s.put key y)) :
    P (s.bump α key) := by
  unfold bump
  split
  · exact hput _
  · exact hs

end Placed

section Labelled

variable {α : Type} [Stored α] [Placed α] [Labelled α] {s : Store} {key : ObjectKey} {x : α}

theorem ofStored_withVersion (x : α) (version : Nat) :
    Placed.ofStored (withVersion x version) = (Placed.ofStored x).withVersion version := by
  rw [withVersion, Labelled.ofStored_withMetadata, AnyObject.withVersion, Placed.metadata_ofStored]

/-- A write is for the place of the object that it is given. -/
theorem isAt_placeOf (hkey : (Stored.metadata x).HasKey key) :
    (Placed.ofStored x).kind = (placeOf α key).kind ∧
      (Placed.ofStored x).metadata.HasKey (placeOf α key).key := by
  rw [Labelled.kind_ofStored, Placed.metadata_ofStored]
  exact ⟨rfl, hkey⟩

theorem leaves_created (hfree : (Stored.objects (α := α) s).get? key = none) :
    Writing.Leaves s.nextVersion (.create (Placed.ofStored x)) (s.at? (placeOf α key))
      (some (Placed.ofStored (s.asCreated x))) := by
  rw [at?_eq_none.mpr hfree, asCreated, Labelled.ofStored_withMetadata, stampCreated,
    ← Placed.metadata_ofStored]
  exact .create _

theorem at?_bump (s : Store) (key : ObjectKey) (place : Place) :
    (s.bump α key).at? place =
      if place = placeOf α key then
        (s.at? (placeOf α key)).map (·.withVersion s.nextVersion)
      else s.at? place := by
  unfold bump
  split
  · rename_i y hy
    rw [at?_put, at?_eq_some.mpr hy, ofStored_withVersion]
    rfl
  · rename_i hnone
    rw [at?_eq_none.mpr hnone]
    split
    · rename_i heq
      rw [heq, at?_eq_none.mpr hnone]
      rfl
    · rfl

end Labelled

/-! ## Watched kinds -/

section Judged

variable {α : Type} [Watched α] [WatchedPlaced α] [Judged α] {s : Store} {e : StoreEdit}

theorem writes_record_put (s : Store) (key : ObjectKey) (x : α) (event : WatchEvent α) :
    ((s.put key x).record event).writes = s.writes :=
  (Judged.writes_record _ event).trans (Labelled.writes_withObjects s _)

theorem writes_record_remove (s : Store) (key : ObjectKey) (event : WatchEvent α) :
    ((s.remove α key).record event).writes = s.writes :=
  (Judged.writes_record _ event).trans (Labelled.writes_withObjects s _)

theorem ends_add (s : Store) (x : α) (he : e.counts = (0, 0)) :
    s.Ends e (.create (Placed.ofStored x)) ((s.add x).1.map fun _ => ()) (s.add x).2 := by
  rcases s.add_cases x with ⟨error, h⟩ | ⟨key, hkey, hfree, h⟩
  · rw [h]
    exact .refused error
  · rw [h]
    refine ends_put (isAt_placeOf hkey) (leaves_created hfree) (WatchedPlaced.at?_record _ _) ?_
    rw [writes_record_put, he, add_no_writes]

theorem ends_create (s : Store) (x : α) (he : e.counts = (0, 0)) :
    s.Ends e (.create (Placed.ofStored x)) ((s.create x).1.map fun _ => ()) (s.create x).2 := by
  rcases s.create_cases x with ⟨error, h⟩ | h
  · rw [h]
    exact .refused error
  · rw [h]
    exact s.ends_add x he

theorem ends_replace (hs : s.Reachable) (x : α) (he : e.counts = (0, 0)) :
    s.Ends e (.replace (Placed.ofStored x)) ((s.replace x).1.map fun _ => ())
      (s.replace x).2 := by
  rcases s.replace_cases x with ⟨error, h⟩ | ⟨key, stored, hkey, hstored, h⟩
  · rw [h]
    exact .refused error
  · rw [h]
    have hat := at?_eq_some.mpr hstored
    obtain ⟨generation, hgeneration, -⟩ := hs.counted.object hat
    refine ends_put (isAt_placeOf hkey) ?_ (WatchedPlaced.at?_record _ _)
      (by rw [writes_record_put, he, add_no_writes])
    have hgeneration' := hgeneration
    rw [Placed.metadata_ofStored] at hgeneration'
    rw [hat, asReplaced, stampReplaced, hgeneration', Labelled.ofStored_withMetadata,
      Judged.ofStored_withStatus, ← Judged.status_ofStored, ← Placed.metadata_ofStored x,
      ← Placed.metadata_ofStored stored]
    exact .replace _ hgeneration

theorem ends_delete (s : Store) (key : ObjectKey) (he : e.counts = (0, 0)) :
    s.Ends e (.delete (placeOf α key)) ((s.delete α key).1.map fun _ => ())
      (s.delete α key).2 := by
  rcases s.delete_cases (α := α) key with ⟨error, h⟩ | ⟨stored, hstored, h⟩
  · rw [h]
    exact .refused error
  · rw [h]
    refine ends_remove hstored (WatchedPlaced.at?_record _ _) ?_
    rw [writes_record_remove, he, add_no_writes]

theorem ends_patchStatus (x : α) (he : e.counts = (0, 1))
    (hovertaken : ∀ key, 0 < s.statusConflicts →
      s.Overtaken e (placeOf α key) (s.overtakenStatus α key)) :
    s.Ends e (.patchStatus (Placed.ofStored x)) ((s.patchStatus x).1.map fun _ => ())
      (s.patchStatus x).2 := by
  rcases s.patchStatus_cases x with ⟨error, h⟩ | ⟨key, message, hkey, hordered, h⟩ |
    ⟨key, stored, hkey, hstored, h⟩
  · rw [h]
    exact .refused error
  · rw [h]
    have hat : Writing.IsAt (.patchStatus (Placed.ofStored x)) (placeOf α key) :=
      isAt_placeOf hkey
    exact .overtaken hat (hovertaken key hordered) message
  · rw [h]
    refine ends_put (isAt_placeOf hkey) ?_ (WatchedPlaced.at?_record _ _) ?_
    · rw [at?_eq_some.mpr hstored, patched, ofStored_withVersion, Judged.ofStored_withStatus,
        ← Judged.status_ofStored]
      exact .patchStatus _ _
    · have hput := writes_record_put s key (s.patched stored x) (.modified (s.patched stored x))
      rw [he, ← hput]
      rfl

end Judged

/-! ## Any write -/

section Edits

variable {s : Store}

/-- What is left of an ordered conflict is the new version of an object. -/
theorem overtaken_bump {α : Type} [Stored α] [Placed α] [Labelled α] {s₁ : Store} {e : StoreEdit}
    {key : ObjectKey} (hat : ∀ place, s₁.at? place = s.at? place)
    (hnext : s₁.nextVersion = s.nextVersion) (h : s.UsesUp e s₁ ∧ s.NotedAlike s₁)
    (hput : ∀ y : α, s.UsesUp e (s₁.put key y) ∧ s.NotedAlike (s₁.put key y)) :
    s.Overtaken e (placeOf α key) (s₁.bump α key) := by
  obtain ⟨husesUp, hnoted⟩ := of_bump (P := fun s' => s.UsesUp e s' ∧ s.NotedAlike s') h hput
  refine ⟨fun place => ?_, husesUp, hnoted⟩
  rw [at?_bump, hnext]
  simp only [hat]

theorem overtaken_poolStatus (p : AddressPool) (key : ObjectKey) (h : 0 < s.statusConflicts) :
    s.Overtaken (.call (.patchPoolStatus p)) (placeOf AddressPool key)
      (s.overtakenStatus AddressPool key) :=
  overtaken_bump (fun _ => rfl) rfl ⟨.inr ⟨rfl, h, rfl, rfl⟩, ⟨rfl, rfl, rfl, rfl, rfl⟩⟩
    fun _ => ⟨.inr ⟨rfl, h, rfl, rfl⟩, ⟨rfl, rfl, rfl, rfl, rfl⟩⟩

theorem overtaken_instanceStatus (i : Instance) (key : ObjectKey) (h : 0 < s.statusConflicts) :
    s.Overtaken (.call (.patchInstanceStatus i)) (placeOf Instance key)
      (s.overtakenStatus Instance key) :=
  overtaken_bump (fun _ => rfl) rfl ⟨.inr ⟨rfl, h, rfl, rfl⟩, ⟨rfl, rfl, rfl, rfl, rfl⟩⟩
    fun _ => ⟨.inr ⟨rfl, h, rfl, rfl⟩, ⟨rfl, rfl, rfl, rfl, rfl⟩⟩

theorem overtaken_configMap {e : StoreEdit} (he : e.isConfigMapWrite = true) (key : ObjectKey)
    (h : 0 < s.configMapConflicts) :
    s.Overtaken e (placeOf ConfigMap key) (s.overtakenConfigMap key) :=
  overtaken_bump (fun _ => rfl) rfl ⟨.inl ⟨he, h, rfl, rfl⟩, ⟨rfl, rfl, rfl, rfl, rfl⟩⟩
    fun _ => ⟨.inl ⟨he, h, rfl, rfl⟩, ⟨rfl, rfl, rfl, rfl, rfl⟩⟩

theorem ends_addConfigMap (s : Store) (c : ConfigMap) :
    s.Ends (.addConfigMap c) (.create (.ofConfigMap c)) ((s.addConfigMap c).1.map fun _ => ())
      (s.addConfigMap c).2 := by
  unfold addConfigMap
  rcases s.insertNew_cases c with ⟨error, h⟩ | ⟨key, hkey, hfree, h⟩
  · rw [h]
    exact .refused error
  · rw [h]
    exact ends_put (x := s.asCreated c) (isAt_placeOf (x := c) hkey) (leaves_created hfree)
      (fun _ => rfl) rfl

theorem ends_createConfigMap (s : Store) (c : ConfigMap) :
    s.Ends (.call (.createConfigMap c)) (.create (.ofConfigMap c))
      ((s.createConfigMap c).1.map fun _ => ()) (s.createConfigMap c).2 := by
  rcases s.createConfigMap_cases c with ⟨error, h⟩ | ⟨key, message, hkey, hordered, h⟩ |
    ⟨key, hkey, hfree, h⟩
  · rw [h]
    exact .refused error
  · rw [h]
    have hat : Writing.IsAt (.create (.ofConfigMap c)) (placeOf ConfigMap key) :=
      isAt_placeOf (x := c) hkey
    exact .overtaken hat (overtaken_configMap rfl key hordered) message
  · rw [h]
    exact ends_put (x := s.asCreated c) (isAt_placeOf (x := c) hkey) (leaves_created hfree)
      (fun _ => rfl) rfl

theorem ends_replaceConfigMap (hs : s.Reachable) (c : ConfigMap) :
    s.Ends (.call (.replaceConfigMap c)) (.replace (.ofConfigMap c))
      ((s.replaceConfigMap c).1.map fun _ => ()) (s.replaceConfigMap c).2 := by
  rcases s.replaceConfigMap_cases c with ⟨error, h⟩ | ⟨key, message, hkey, hordered, h⟩ |
    ⟨key, stored, hkey, hstored, h⟩
  · rw [h]
    exact .refused error
  · rw [h]
    have hat : Writing.IsAt (.replace (.ofConfigMap c)) (placeOf ConfigMap key) :=
      isAt_placeOf (x := c) hkey
    exact .overtaken hat (overtaken_configMap rfl key hordered) message
  · rw [h]
    have hat : s.at? (placeOf ConfigMap key) = some (.ofConfigMap stored) :=
      at?_eq_some.mpr hstored
    obtain ⟨generation, hgeneration, -⟩ := hs.counted.object hat
    refine ends_put (x := s.replacedConfigMap c stored) (isAt_placeOf (x := c) hkey) ?_
      (fun _ => rfl) rfl
    have hgeneration' : stored.metadata.generation = some generation := hgeneration
    rw [hat, replacedConfigMap, stampReplaced, hgeneration']
    exact .replace _ hgeneration

theorem ends_deleteConfigMap (s : Store) (key : ObjectKey) (version : Option String) :
    s.Ends (.call (.deleteConfigMap key version)) (.delete ⟨.configMaps, key⟩)
      ((s.deleteConfigMap key version).1.map fun _ => ()) (s.deleteConfigMap key version).2 := by
  rcases s.deleteConfigMap_cases key version with ⟨error, h⟩ | ⟨message, hordered, h⟩ |
    ⟨stored, hstored, h⟩
  · rw [h]
    exact .refused error
  · rw [h]
    have hat : Writing.IsAt (.delete ⟨.configMaps, key⟩) (placeOf ConfigMap key) := rfl
    exact .overtaken hat (overtaken_configMap rfl key hordered) message
  · rw [h]
    exact ends_remove hstored (fun _ => rfl) rfl

/-- **A write is done, or refused, or overtaken.** -/
theorem ends_edit (hs : s.Reachable) {e : StoreEdit} {w : Writing} (h : e.writing? = some w) :
    s.Ends e w (s.outcome e) (s.edit e) := by
  cases e with
  | addPool p =>
    cases h
    exact s.ends_add p rfl
  | addConfigMap c =>
    cases h
    exact s.ends_addConfigMap c
  | addInstance i =>
    cases h
    exact s.ends_add i rfl
  | orderConfigMapConflicts | orderStatusConflicts | setPoolKind | setInstanceKind => cases h
  | call call =>
    cases call with
    | listPools | getPool | getConfigMap | listInstances | getInstance => cases h
    | createPool p =>
      cases h
      exact s.ends_create p rfl
    | replacePool p =>
      cases h
      exact ends_replace hs p rfl
    | deletePool key =>
      cases h
      exact s.ends_delete (α := AddressPool) key rfl
    | patchPoolStatus p =>
      cases h
      exact ends_patchStatus p rfl (overtaken_poolStatus p)
    | createConfigMap c =>
      cases h
      exact s.ends_createConfigMap c
    | replaceConfigMap c =>
      cases h
      exact ends_replaceConfigMap hs c
    | deleteConfigMap key version =>
      cases h
      exact s.ends_deleteConfigMap key version
    | createInstance i =>
      cases h
      exact s.ends_create i rfl
    | deleteInstance key =>
      cases h
      exact s.ends_delete (α := Instance) key rfl
    | patchInstanceStatus i =>
      cases h
      exact ends_patchStatus i rfl (overtaken_instanceStatus i)

/-- A change adds what it counts to the writes that are counted, if it succeeds. -/
theorem writes_edit (hs : s.Reachable) (e : StoreEdit) :
    (s.edit e).writes = s.writes + if (s.outcome e).isOk then e.counts else (0, 0) := by
  cases hwriting : e.writing? with
  | some w =>
    have hends := ends_edit hs hwriting
    generalize s.outcome e = result at hends ⊢
    generalize s.edit e = s' at hends ⊢
    cases hends with
    | refused error => exact (add_no_writes _).symm
    | overtaken hat h message => exact h.notedAlike.writes.trans (add_no_writes _).symm
    | done hat hleaves hothers hwrites => exact hwrites
  | none =>
    -- what is no write is not counted, whether it succeeds or not
    have hcounts : e.counts = (0, 0) ∧ (s.edit e).writes = s.writes := by
      cases e with
      | addPool | addConfigMap | addInstance => cases hwriting
      | orderConfigMapConflicts | orderStatusConflicts | setPoolKind | setInstanceKind =>
        exact ⟨rfl, rfl⟩
      | call call =>
        cases call with
        | listPools | getPool | getConfigMap | listInstances | getInstance => exact ⟨rfl, rfl⟩
        | _ => cases hwriting
    rw [hcounts.1, hcounts.2, ite_self, add_no_writes]

theorem writes_edits (es : List StoreEdit) : ∀ {s : Store}, s.Reachable → (s.edits es).writes =
    s.writes +
      (successes StoreEdit.isConfigMapWrite s es, successes StoreEdit.isStatusWrite s es) := by
  induction es with
  | nil =>
    intro s _
    exact (add_no_writes _).symm
  | cons e es ih =>
    intro s hs
    rw [edits_cons, ih (hs.edit e), writes_edit hs e, add_assoc]
    congr 1
    simp only [successes, StoreEdit.counts]
    cases e.isConfigMapWrite <;> cases e.isStatusWrite <;> cases (s.outcome e).isOk <;> rfl

/-- The version that is due has never been seen. -/
theorem not_hasVersion_next {es fs : List StoreEdit} (h : fs <+: es) {place : Place} {x : AnyObject}
    (hx : (({} : Store).edits fs).at? place = some x) :
    ¬x.HasVersion (({} : Store).edits es).nextVersion := by
  intro hversion
  have hless := (Reachable.distinct Mark.isGiven_version ⟨fs, rfl⟩).lt hx hversion
  have hnext := ((changes_edits_between keyed_empty h).since Mark.isGiven_version).next
  omega

end Edits

/-! ## Any run -/

/-- **Writes are atomic.** A write that fails leaves the store as it was, unless it uses up an
ordered conflict: then the object at its place gets a new version, and nothing else happens. A write
that succeeds changes no more than what is at its own place, and leaves there what it asks for, with
what it must keep of what it finds. New versions have never been seen. The writes that are counted
are those that have succeeded. -/
theorem writes_atomic (es : List StoreEdit) :
    let s := ({} : Store).edits es
    (∀ e w, e.writing? = some w →
      (∀ error, s.outcome e = .error error → s.edit e = s ∨ ∃ place message,
        error = .conflict message ∧ w.IsAt place ∧ s.Overtaken e place (s.edit e)) ∧
      (s.outcome e = .ok () → ∃ place, w.IsAt place ∧
        w.Leaves s.nextVersion (s.at? place) ((s.edit e).at? place) ∧
        ∀ place', place' ≠ place → (s.edit e).at? place' = s.at? place')) ∧
    (∀ fs, fs <+: es → ∀ place x, (({} : Store).edits fs).at? place = some x →
      ¬x.HasVersion s.nextVersion) ∧
    s.configMapWrites = successes StoreEdit.isConfigMapWrite {} es ∧
    s.statusWrites = successes StoreEdit.isStatusWrite {} es := by
  intro s
  have hs : s.Reachable := ⟨es, rfl⟩
  have hwrites : s.writes =
      (successes StoreEdit.isConfigMapWrite {} es, successes StoreEdit.isStatusWrite {} es) :=
    (writes_edits es ⟨[], rfl⟩).trans (zero_add _)
  refine ⟨fun e w hwriting => ?_, fun fs hfs place x hx => not_hasVersion_next hfs hx,
    congrArg Prod.fst hwrites, congrArg Prod.snd hwrites⟩
  have hends := ends_edit hs hwriting
  generalize s.outcome e = result at hends
  generalize s.edit e = s' at hends
  cases hends with
  | refused error => exact ⟨fun _ _ => .inl rfl, nofun⟩
  | overtaken hat h message =>
    refine ⟨fun error heq => .inr ⟨_, message, ?_, hat, h⟩, nofun⟩
    exact (Except.error.inj heq).symm
  | done hat hleaves hothers hwrites => exact ⟨nofun, fun _ => ⟨_, hat, hleaves, hothers⟩⟩

/-- A config map is replaced. At first a conflict is in the way, so that it gets another version
only. Then its own version is replaced, and counted as the first write. -/
theorem writes_atomic_remade :
    let es : List StoreEdit := [.addConfigMap remade, .orderConfigMapConflicts 1]
    let e := StoreEdit.call (.replaceConfigMap remade)
    let s := ({} : Store).edits es
    (∃ place, s.Overtaken e place (s.edit e)) ∧
      (∃ place, Writing.Leaves 3 (.replace (.ofConfigMap remade)) ((s.edit e).at? place)
        (((s.edit e).edit e).at? place)) ∧
      (({} : Store).edits (es ++ [e, e])).configMapWrites = 1 := by
  intro es e s
  obtain ⟨hfirst, -⟩ := writes_atomic es
  obtain ⟨hsecond, -⟩ := writes_atomic (es ++ [e])
  obtain ⟨-, -, hcount, -⟩ := writes_atomic (es ++ [e, e])
  refine ⟨?_, ?_, hcount.trans rfl⟩
  · rcases (hfirst e _ rfl).1 _ rfl with heq | ⟨place, -, -, -, h⟩
    · -- the conflict that has been ordered is used up
      have hconflicts := congrArg Store.configMapConflicts heq
      cases hconflicts
    · exact ⟨place, h⟩
  · obtain ⟨place, -, h, -⟩ := (hsecond e _ rfl).2 rfl
    exact ⟨place, h⟩

end Store

end PoolOperator
