import PoolOperator.Proofs.Identity
import PoolOperator.Proofs.Store.Kind
import PoolOperator.Proofs.Store.Status
import PoolOperator.Proofs.Store.Version

/-!
# Instances in a store

As long as nobody else sets their statuses, instances come without one and get it by writes of
statuses only. Such a write gives the instance a status that is suited to its name, or another
version and nothing else.
-/

namespace PoolOperator

/-! ## What sets no status -/

/-- Whether a change from outside leaves statuses of instances to others: what comes has none. -/
def StoreEdit.SetsNoStatus : StoreEdit → Prop
  | .addInstance x | .call (.createInstance x) => x.status = none
  | .call (.patchInstanceStatus _) => False
  | _ => True

namespace Store

variable {s s' : Store} {key : ObjectKey} {x i : Instance}

/-- Whether all instances of a store were there before, or have come without a status. -/
def BareComers (s s' : Store) : Prop :=
  ∀ key i, s'.instances.get? key = some i →
    s.instances.get? key = some i ∨ s.instances.get? key = none ∧ i.status = none

theorem BareComers.of_eq (h : s'.instances = s.instances) : s.BareComers s' := by
  intro key i hi
  rw [h] at hi
  exact .inl hi

theorem bareComers_add (s : Store) (hx : x.status = none) : s.BareComers (s.add x).2 := by
  refine add_snd (P := s.BareComers) ?_ fun _ _ h => h
  refine guarded_snd (P := s.BareComers) (.of_eq rfl) fun key _ => ?_
  split
  · exact .of_eq rfl
  · rename_i hfree
    intro key' i hi
    change (s.instances.insert key _).get? key' = some i at hi
    rw [SortedMap.get?_insert] at hi
    split at hi
    · rename_i heq
      cases hi
      have hfree' : ¬(s.instances.get? key).isSome = true := hfree
      refine .inr ⟨?_, hx⟩
      rw [heq]
      simpa using hfree'
    · exact .inl hi

theorem bareComers_delete (s : Store) (key : ObjectKey) :
    s.BareComers (s.delete Instance key).2 := by
  refine guarded_snd (P := s.BareComers) (.of_eq rfl) fun _ _ =>
    guarded_snd (P := s.BareComers) (.of_eq rfl) fun _ _ => ?_
  intro key' i hi
  change (s.instances.erase key).get? key' = some i at hi
  rw [SortedMap.get?_erase] at hi
  split at hi
  · cases hi
  · exact .inl hi

theorem bareComers_edit {e : StoreEdit} (h : e.SetsNoStatus) (s : Store) :
    s.BareComers (s.edit e) := by
  cases e with
  | call call =>
    cases call with
    | listPools | getPool | getConfigMap | listInstances | getInstance => exact .of_eq rfl
    | createPool p => exact .of_eq (s.poolsOnly_create p).instances
    | replacePool p => exact .of_eq (s.poolsOnly_replace p).instances
    | deletePool key => exact .of_eq (s.poolsOnly_delete key).instances
    | patchPoolStatus p => exact .of_eq (s.poolsOnly_patchStatus p).instances
    | createConfigMap c => exact .of_eq (s.configMapsOnly_createConfigMap c).instances
    | replaceConfigMap c => exact .of_eq (s.configMapsOnly_replaceConfigMap c).instances
    | deleteConfigMap key version =>
      exact .of_eq (s.configMapsOnly_deleteConfigMap key version).instances
    | createInstance x =>
      exact guarded_snd (P := s.BareComers) (.of_eq rfl) fun _ _ => s.bareComers_add h
    | deleteInstance key => exact s.bareComers_delete key
    | patchInstanceStatus x => exact h.elim
  | addPool p => exact .of_eq (s.poolsOnly_add p).instances
  | addConfigMap c => exact .of_eq (s.configMapsOnly_insertNew c).instances
  | addInstance x => exact s.bareComers_add h
  | orderConfigMapConflicts | orderStatusConflicts | setPoolKind | setInstanceKind =>
    exact .of_eq rfl

/-! ## What sets a status -/

/-- A conflict gives an instance another version. -/
theorem get?_bump (s : Store) (key key' : ObjectKey) :
    (s.bump Instance key).instances.get? key' =
      if key' = key then (s.instances.get? key).map fun i => withVersion i s.nextVersion
      else s.instances.get? key' := get?_objects_bump s key key'

end Store

/-- Whether two instances differ in nothing but their versions. -/
def Instance.SameButVersion (i j : Instance) : Prop :=
  j = { i with metadata := { i.metadata with resourceVersion := j.metadata.resourceVersion } }

namespace Instance.SameButVersion

variable {i j k : Instance}

theorem refl (i : Instance) : i.SameButVersion i := rfl

theorem trans (h : i.SameButVersion j) (h' : j.SameButVersion k) : i.SameButVersion k := by
  rw [SameButVersion, h] at h'
  exact h'

theorem status (h : i.SameButVersion j) : j.status = i.status := by
  rw [h]

end Instance.SameButVersion

namespace Store

variable {s s' : Store} {key key' : ObjectKey} {x i : Instance}
  {reply : Except StoreError Instance}

/-- A write of a status gives an instance the status, or leaves all but its version. -/
theorem StatusWrite.cases_instance (h : StatusWrite s key x reply s')
    (hi : s'.instances.get? key' = some i) :
    key' = key ∧ i.status = x.status ∨
      ∃ j, s.instances.get? key' = some j ∧ j.SameButVersion i := by
  cases h with
  | refused => exact .inr ⟨i, hi, .refl i⟩
  | overtaken =>
    rw [get?_bump] at hi
    split at hi
    · rename_i heq
      obtain ⟨j, hj, rfl⟩ := Option.map_eq_some_iff.mp hi
      rw [heq]
      exact .inr ⟨j, hj, rfl⟩
    · exact .inr ⟨i, hi, .refl i⟩
  | written =>
    change (s.instances.insert key _).get? key' = some i at hi
    rw [SortedMap.get?_insert] at hi
    split at hi
    · rename_i heq
      cases hi
      exact .inl ⟨heq, rfl⟩
    · exact .inr ⟨i, hi, .refl i⟩

/-- An instance is left alone, but for its version, by all writes but those that are for it and are
based on its version. -/
theorem StatusWrite.spares (h : StatusWrite s key x reply s') (hi : s.instances.get? key' = some i)
    (hother : key' = key → x.metadata.resourceVersion ≠ none ∧
      x.metadata.resourceVersion ≠ i.metadata.resourceVersion) :
    ∃ j, s'.instances.get? key' = some j ∧ i.SameButVersion j := by
  cases h with
  | refused => exact ⟨i, hi, .refl i⟩
  | overtaken =>
    rw [get?_bump]
    by_cases hkey : key' = key
    · rw [← hkey, if_pos rfl]
      exact ⟨_, Option.map_eq_some_iff.mpr ⟨i, hi, rfl⟩, rfl⟩
    · rw [if_neg hkey]
      exact ⟨i, hi, .refl i⟩
  | written hstored hversion =>
    change s.instances.get? key = some _ at hstored
    by_cases hkey : key' = key
    · -- the write would be based on the version of the instance
      obtain ⟨hsome, hne⟩ := hother hkey
      rw [hkey, hstored] at hi
      cases hi
      exact hversion.elim (absurd · hsome) (absurd · hne)
    · refine ⟨i, ?_, .refl i⟩
      change (s.instances.insert key _).get? key' = some i
      rw [SortedMap.get?_insert, if_neg hkey]
      exact hi

/-! ## Proper stores -/

/-- Whether a store has come about from an empty one, and all statuses of its instances are suited
to their names. -/
structure IsProper (s : Store) : Prop where
  reachable : s.Reachable
  instances {key : ObjectKey} {i : Instance} (h : s.instances.get? key = some i) :
    i.IsProper key.name

theorem isProper_of_isEmpty (hs : s.Reachable) (h : s.instances = ∅) : s.IsProper := by
  refine ⟨hs, ?_⟩
  intro key i hi
  rw [h, SortedMap.get?_empty] at hi
  cases hi

theorem IsProper.edit (hs : s.IsProper) {e : StoreEdit} (he : e.SetsNoStatus) :
    (s.edit e).IsProper := by
  refine ⟨hs.reachable.edit e, ?_⟩
  intro key i hi status hstatus
  rcases bareComers_edit he s key i hi with hold | ⟨-, hnone⟩
  · exact hs.instances hold status hstatus
  · rw [hnone] at hstatus
    cases hstatus

theorem IsProper.patchStatus (hs : s.IsProper) (hkey : x.metadata.HasKey key)
    (hx : x.IsProper key.name) : (s.patchStatus x).2.IsProper := by
  refine ⟨hs.reachable.answer (.patchInstanceStatus x), ?_⟩
  intro key' i hi status hstatus
  rcases (statusWrite_patchStatus hkey).cases_instance hi with ⟨heq, hwritten⟩ | ⟨j, hj, hsame⟩
  · rw [heq]
    exact hx status (hwritten.symm.trans hstatus)
  · exact hs.instances hj status (hsame.status.symm.trans hstatus)

end Store

end PoolOperator
