import PoolOperator.Proofs.SortedMap
import PoolOperator.Store.Basic

/-!
# Places

A store has a place for every kind of object and every key. Objects are put at places and removed
from them, and nothing else happens to them. So what is to be said of objects of all kinds is said
of places.
-/

namespace PoolOperator

/-- The kinds of object that a store holds. -/
inductive ObjectKind where
  | pools
  | configMaps
  | instances
deriving DecidableEq, Repr

/-- Where an object is stored. -/
structure Place where
  kind : ObjectKind
  key : ObjectKey
deriving DecidableEq

/-- An object of some kind. -/
inductive AnyObject where
  | ofPool (p : AddressPool)
  | ofConfigMap (c : ConfigMap)
  | ofInstance (i : Instance)
deriving DecidableEq

/-- The metadata of an object of any kind. -/
def AnyObject.metadata : AnyObject → ObjectMeta
  | ofPool p => p.metadata
  | ofConfigMap c => c.metadata
  | ofInstance i => i.metadata

namespace Store

/-- The object at a place. -/
def at? (s : Store) (place : Place) : Option AnyObject :=
  match place.kind with
  | .pools => (s.pools.get? place.key).map .ofPool
  | .configMaps => (s.configMaps.get? place.key).map .ofConfigMap
  | .instances => (s.instances.get? place.key).map .ofInstance

/-- A kind of object that has its places. -/
class Placed (α : Type) [Stored α] where
  kind : ObjectKind
  ofStored : α → AnyObject
  ofStored_injective : Function.Injective ofStored
  metadata_ofStored (x : α) : (ofStored x).metadata = Stored.metadata x
  metadata_withMetadata (x : α) (md : ObjectMeta) : Stored.metadata (Stored.withMetadata x md) = md
  at?_kind (s : Store) (key : ObjectKey) :
    s.at? ⟨kind, key⟩ = ((Stored.objects s).get? key).map ofStored
  objects_withObjects (s : Store) (m : SortedMap ObjectKey α) :
    Stored.objects (Stored.withObjects s m) = m
  objects_withVersion (s : Store) (version : Nat) :
    Stored.objects (α := α) { s with nextVersion := version } = Stored.objects s
  at?_withObjects {place : Place} (h : place.kind ≠ kind) (s : Store) (m : SortedMap ObjectKey α) :
    (Stored.withObjects s m).at? place = s.at? place
  nextVersion_withObjects (s : Store) (m : SortedMap ObjectKey α) :
    (Stored.withObjects s m).nextVersion = s.nextVersion

/-- A watched kind of object of which neither events nor statuses matter to its place. -/
class WatchedPlaced (α : Type) [Watched α] extends Placed α where
  metadata_withStatus (x : α) (status : Option Status) :
    Stored.metadata (Watched.withStatus x status) = Stored.metadata x
  at?_record (s : Store) (e : WatchEvent α) (place : Place) : (s.record e).at? place = s.at? place
  nextVersion_record (s : Store) (e : WatchEvent α) : (s.record e).nextVersion = s.nextVersion

instance : WatchedPlaced AddressPool where
  kind := .pools
  ofStored := .ofPool
  ofStored_injective _ _ h := AnyObject.ofPool.inj h
  metadata_ofStored _ := rfl
  metadata_withMetadata _ _ := rfl
  at?_kind _ _ := rfl
  objects_withObjects _ _ := rfl
  objects_withVersion _ _ := rfl
  at?_withObjects {place} h _ _ := by
    obtain ⟨kind, key⟩ := place
    cases kind with
    | pools => exact absurd rfl h
    | configMaps | instances => rfl
  nextVersion_withObjects _ _ := rfl
  metadata_withStatus _ _ := rfl
  at?_record _ _ _ := rfl
  nextVersion_record _ _ := rfl

instance : WatchedPlaced Instance where
  kind := .instances
  ofStored := .ofInstance
  ofStored_injective _ _ h := AnyObject.ofInstance.inj h
  metadata_ofStored _ := rfl
  metadata_withMetadata _ _ := rfl
  at?_kind _ _ := rfl
  objects_withObjects _ _ := rfl
  objects_withVersion _ _ := rfl
  at?_withObjects {place} h _ _ := by
    obtain ⟨kind, key⟩ := place
    cases kind with
    | instances => exact absurd rfl h
    | pools | configMaps => rfl
  nextVersion_withObjects _ _ := rfl
  metadata_withStatus _ _ := rfl
  at?_record _ _ _ := rfl
  nextVersion_record _ _ := rfl

instance : Placed ConfigMap where
  kind := .configMaps
  ofStored := .ofConfigMap
  ofStored_injective _ _ h := AnyObject.ofConfigMap.inj h
  metadata_ofStored _ := rfl
  metadata_withMetadata _ _ := rfl
  at?_kind _ _ := rfl
  objects_withObjects _ _ := rfl
  objects_withVersion _ _ := rfl
  at?_withObjects {place} h _ _ := by
    obtain ⟨kind, key⟩ := place
    cases kind with
    | configMaps => exact absurd rfl h
    | pools | instances => rfl
  nextVersion_withObjects _ _ := rfl

section Placed

variable {α : Type} [Stored α] [Placed α]

/-- The place of a key for objects of a kind. -/
def placeOf (α : Type) [Stored α] [Placed α] (key : ObjectKey) : Place := ⟨Placed.kind α, key⟩

theorem at?_eq_some {s : Store} {key : ObjectKey} {x : α} :
    s.at? (placeOf α key) = some (Placed.ofStored x) ↔
      (Stored.objects s).get? key = some x := by
  rw [placeOf, Placed.at?_kind, Option.map_eq_some_iff]
  constructor
  · rintro ⟨y, hy, heq⟩
    rw [← Placed.ofStored_injective heq]
    exact hy
  · intro h
    exact ⟨x, h, rfl⟩

theorem at?_eq_none {s : Store} {key : ObjectKey} :
    s.at? (placeOf α key) = none ↔ (Stored.objects (α := α) s).get? key = none := by
  rw [placeOf, Placed.at?_kind, Option.map_eq_none_iff]

theorem at?_withObjects (s : Store) (m : SortedMap ObjectKey α) (place : Place) :
    (Stored.withObjects s m).at? place =
      if place.kind = Placed.kind α then (m.get? place.key).map Placed.ofStored
      else s.at? place := by
  split
  · rename_i h
    obtain ⟨kind, key⟩ := place
    subst h
    rw [Placed.at?_kind, Placed.objects_withObjects]
  · rename_i h
    exact Placed.at?_withObjects h s m

theorem objects_put (s : Store) (key : ObjectKey) (x : α) :
    Stored.objects (s.put key x) = (Stored.objects s).insert key x := by
  rw [put, Placed.objects_withVersion, Placed.objects_withObjects]

/-- An object that is put under a key is at its place, and all other places are as before. -/
theorem at?_put (s : Store) (key : ObjectKey) (x : α) (place : Place) :
    (s.put key x).at? place =
      if place = placeOf α key then some (Placed.ofStored x) else s.at? place := by
  show (Stored.withObjects s ((Stored.objects s).insert key x)).at? place = _
  obtain ⟨kind, key'⟩ := place
  rw [at?_withObjects, placeOf]
  by_cases hkind : kind = Placed.kind α
  · subst hkind
    rw [if_pos rfl, SortedMap.get?_insert]
    by_cases hkey : key' = key
    · rw [if_pos hkey, if_pos (by rw [hkey])]
      rfl
    · rw [if_neg hkey, if_neg (fun h => hkey (congrArg Place.key h)), Placed.at?_kind]
  · rw [if_neg hkind, if_neg (fun h => hkind (congrArg Place.kind h))]

/-- What is removed under a key is no longer at its place, and all other places are as before. -/
theorem at?_remove (s : Store) (key : ObjectKey) (place : Place) :
    (s.remove α key).at? place = if place = placeOf α key then none else s.at? place := by
  obtain ⟨kind, key'⟩ := place
  rw [remove, at?_withObjects, placeOf]
  by_cases hkind : kind = Placed.kind α
  · subst hkind
    rw [if_pos rfl, SortedMap.get?_erase]
    by_cases hkey : key' = key
    · rw [if_pos hkey, if_pos (by rw [hkey])]
      rfl
    · rw [if_neg hkey, if_neg (fun h => hkey (congrArg Place.key h)), Placed.at?_kind]
  · rw [if_neg hkind, if_neg (fun h => hkind (congrArg Place.kind h))]

theorem nextVersion_remove (s : Store) (key : ObjectKey) :
    (s.remove α key).nextVersion = s.nextVersion := Placed.nextVersion_withObjects _ _

end Placed

end Store

end PoolOperator
