import PoolOperator.Proofs.Artifact.RoundTrip
import PoolOperator.Proofs.Reconcile.Serve
import PoolOperator.Proofs.Store.ConfigMap

/-!
# Writing the artifact

What becomes of the stored artifact when nobody else acts: there are five cases, by whether there is
a config map, whether there is anything to describe, and whether it is described already.
-/

namespace PoolOperator

open Store (serve)

variable {order : List AddressPool → List AddressPool}
  {readiness : Except OperatorError Readiness} {s : Store} {ns : String} {desired : Artifact}
  {current : ConfigMap}

/-! ## Single writes -/

namespace Task

theorem run_deleteArtifact (hconflicts : s.configMapConflicts = 0)
    (hstored : s.configMaps.get? (Artifact.keyIn ns) = some current) :
    (deleteArtifact ns current).run (serve order readiness) s =
      (.ok .deleted, (s.remove ConfigMap (Artifact.keyIn ns)).countConfigMapWrite) := by
  rw [deleteArtifact, run_call_bind (Store.deleteConfigMap_eq_ok hconflicts hstored)]
  rfl

theorem run_createArtifact (hconflicts : s.configMapConflicts = 0)
    (hfree : s.configMaps.get? (Artifact.keyIn ns) = none) (text : String) :
    (createArtifact ns text).run (serve order readiness) s =
      (.ok .created, (s.put (Artifact.keyIn ns)
        (s.createdConfigMap (Artifact.newConfigMap ns text))).countConfigMapWrite) := by
  have hkey : (Artifact.newConfigMap ns text).metadata.HasKey (Artifact.keyIn ns) := ⟨rfl, rfl⟩
  rw [createArtifact, run_call_bind (Store.createConfigMap_eq_ok hconflicts hkey hfree)]
  rfl

theorem run_replaceArtifact (hs : s.Keyed) (hconflicts : s.configMapConflicts = 0)
    (hstored : s.configMaps.get? (Artifact.keyIn ns) = some current) (text : String) :
    (replaceArtifact current text).run (serve order readiness) s =
      (.ok .updated, (s.put (Artifact.keyIn ns)
        (s.replacedConfigMap (Artifact.updateConfigMap current text)
          current)).countConfigMapWrite) := by
  have hcurrent := hs.configMaps hstored
  have hkey : (Artifact.updateConfigMap current text).metadata.HasKey (Artifact.keyIn ns) :=
    ⟨hcurrent.1, hcurrent.2⟩
  rw [replaceArtifact, run_call_bind (Store.replaceConfigMap_eq_ok hconflicts hkey hstored rfl)]
  rfl

end Task

/-! ## Bringing the artifact in line -/

/-- What is done to the config map of a namespace to have it describe an artifact, by what is stored
before. -/
inductive Written (s : Store) (ns : String) (desired : Artifact) :
    AggregateOutcome → Store → Prop where
  | absent (hempty : desired.isEmpty = true)
      (hfree : s.configMaps.get? (Artifact.keyIn ns) = none) : Written s ns desired .absent s
  | deleted {current : ConfigMap} (hempty : desired.isEmpty = true)
      (hstored : s.configMaps.get? (Artifact.keyIn ns) = some current) :
      Written s ns desired .deleted
        (s.remove ConfigMap (Artifact.keyIn ns)).countConfigMapWrite
  | created (hsome : desired.isEmpty = false)
      (hfree : s.configMaps.get? (Artifact.keyIn ns) = none) :
      Written s ns desired .created (s.put (Artifact.keyIn ns)
        (s.createdConfigMap (Artifact.newConfigMap ns desired.encode))).countConfigMapWrite
  | unchanged {current : ConfigMap} (hsome : desired.isEmpty = false)
      (hstored : s.configMaps.get? (Artifact.keyIn ns) = some current)
      (hdescribed : desired.isDescribedBy (Artifact.storedText current) = true) :
      Written s ns desired .unchanged s
  | updated {current : ConfigMap} (hsome : desired.isEmpty = false)
      (hstored : s.configMaps.get? (Artifact.keyIn ns) = some current)
      (hnot : desired.isDescribedBy (Artifact.storedText current) = false) :
      Written s ns desired .updated (s.put (Artifact.keyIn ns) (s.replacedConfigMap
        (Artifact.updateConfigMap current desired.encode) current)).countConfigMapWrite

namespace Task

theorem run_writeArtifact (order : List AddressPool → List AddressPool)
    (readiness : Except OperatorError Readiness) (hs : s.Keyed)
    (hconflicts : s.configMapConflicts = 0) (ns : String) (desired : Artifact) :
    ∃ outcome s', (writeArtifact ns desired).run (serve order readiness) s = (.ok outcome, s') ∧
      Written s ns desired outcome s' := by
  rw [writeArtifact, run_call_bind (s.serve_getConfigMap order readiness _)]
  cases hget : s.configMaps.get? (Artifact.keyIn ns) with
  | none =>
    cases hempty : desired.isEmpty with
    | true =>
      simp only [if_true]
      exact ⟨.absent, s, rfl, .absent hempty hget⟩
    | false =>
      simp only [Bool.false_eq_true, if_false]
      exact ⟨.created, _, run_createArtifact hconflicts hget _, .created hempty hget⟩
  | some current =>
    cases hempty : desired.isEmpty with
    | true =>
      simp only [if_true]
      exact ⟨.deleted, _, run_deleteArtifact hconflicts hget, .deleted hempty hget⟩
    | false =>
      cases hdescribed : desired.isDescribedBy (Artifact.storedText current) with
      | true =>
        simp only [Bool.false_eq_true, if_false, hdescribed, if_true]
        exact ⟨.unchanged, s, rfl, .unchanged hempty hget hdescribed⟩
      | false =>
        simp only [Bool.false_eq_true, if_false, hdescribed]
        exact ⟨.updated, _, run_replaceArtifact hs hconflicts hget _,
          .updated hempty hget hdescribed⟩

end Task

/-! ## What is stored afterwards -/

namespace Artifact

theorem storedText_newConfigMap (ns text : String) : storedText (newConfigMap ns text) = text := by
  simp [storedText, newConfigMap]

theorem storedText_updateConfigMap (c : ConfigMap) (text : String) :
    storedText (updateConfigMap c text) = text := by
  simp [storedText, updateConfigMap]

/-- Whether the config map of a namespace describes an artifact: it is absent if there is nothing to
describe, and else it holds a text that is read as the artifact. -/
def IsStored (a : Artifact) (s : Store) (ns : String) : Prop :=
  if a.isEmpty then s.configMaps.get? (keyIn ns) = none
  else ∃ c, s.configMaps.get? (keyIn ns) = some c ∧ decode (storedText c) = .ok a

theorem isStored_iff_of_isEmpty {a : Artifact} (h : a.isEmpty = true) :
    a.IsStored s ns ↔ s.configMaps.get? (keyIn ns) = none := by
  rw [IsStored, if_pos h]

theorem isStored_iff_of_ne {a : Artifact} (h : a.isEmpty = false) :
    a.IsStored s ns ↔
      ∃ c, s.configMaps.get? (keyIn ns) = some c ∧ decode (storedText c) = .ok a := by
  rw [IsStored, if_neg (by simp [h])]

/-- A text that was written for an artifact stores it. -/
theorem isStored_of_storedText {a : Artifact} {c : ConfigMap} (hsome : a.isEmpty = false)
    (hnormal : a.normal = a) (hget : s.configMaps.get? (keyIn ns) = some c)
    (htext : storedText c = a.encode) : a.IsStored s ns := by
  rw [isStored_iff_of_ne hsome]
  refine ⟨c, hget, ?_⟩
  rw [htext, decode_encode, hnormal]

theorem IsStored.of_configMaps_eq {a : Artifact} {s' : Store} (h : a.IsStored s ns)
    (hsame : s'.configMaps = s.configMaps) : a.IsStored s' ns := by
  unfold IsStored at h ⊢
  rw [hsame]
  exact h

theorem isDescribedBy_iff {a : Artifact} {text : String} :
    a.isDescribedBy text = true ↔ decode text = .ok a := by
  unfold isDescribedBy
  cases decode text with
  | error e => exact ⟨(fun h => nomatch h), (fun h => nomatch h)⟩
  | ok b => simp

/-- A config map describes one artifact at most. -/
theorem IsStored.unique {a b : Artifact} (ha : a.IsStored s ns) (hb : b.IsStored s ns) : a = b := by
  cases hempty : a.isEmpty with
  | true =>
    rw [isStored_iff_of_isEmpty hempty] at ha
    cases hempty' : b.isEmpty with
    | true =>
      have hpools : a.pools = [] := List.isEmpty_iff.mp hempty
      have hpools' : b.pools = [] := List.isEmpty_iff.mp hempty'
      exact congrArg Artifact.mk (hpools.trans hpools'.symm)
    | false =>
      obtain ⟨c, hc, -⟩ := (isStored_iff_of_ne hempty').mp hb
      rw [ha] at hc
      cases hc
  | false =>
    obtain ⟨c, hc, ha⟩ := (isStored_iff_of_ne hempty).mp ha
    cases hempty' : b.isEmpty with
    | true =>
      rw [isStored_iff_of_isEmpty hempty', hc] at hb
      cases hb
    | false =>
      obtain ⟨d, hd, hb⟩ := (isStored_iff_of_ne hempty').mp hb
      rw [hc] at hd
      cases hd
      rw [ha] at hb
      cases hb
      rfl

instance (a : Artifact) (s : Store) (ns : String) : Decidable (a.IsStored s ns) :=
  match hget : s.configMaps.get? (keyIn ns) with
  | none => decidable_of_iff (a.isEmpty = true) <| by
    unfold IsStored
    cases a.isEmpty <;> simp [hget]
  | some c => decidable_of_iff (a.isEmpty = false ∧ a.isDescribedBy (storedText c) = true) <| by
    unfold IsStored
    rw [isDescribedBy_iff]
    cases a.isEmpty <;> simp [hget]

end Artifact

/-- Whatever was stored before, the artifact is stored afterwards. -/
theorem Written.isStored {outcome : AggregateOutcome} {s' : Store}
    (h : Written s ns desired outcome s') (hnormal : desired.normal = desired) :
    desired.IsStored s' ns := by
  cases h with
  | absent hempty hfree => exact (Artifact.isStored_iff_of_isEmpty hempty).mpr hfree
  | deleted hempty _ =>
    exact (Artifact.isStored_iff_of_isEmpty hempty).mpr (SortedMap.get?_erase_self _ _)
  | created hsome _ =>
    exact Artifact.isStored_of_storedText hsome hnormal (SortedMap.get?_insert_self _ _ _)
      (Artifact.storedText_newConfigMap ns desired.encode)
  | unchanged hsome hstored hdescribed =>
    exact (Artifact.isStored_iff_of_ne hsome).mpr
      ⟨_, hstored, Artifact.isDescribedBy_iff.mp hdescribed⟩
  | @updated current hsome _ _ =>
    exact Artifact.isStored_of_storedText hsome hnormal (SortedMap.get?_insert_self _ _ _)
      (Artifact.storedText_updateConfigMap current desired.encode)

section Cases

variable {outcome : AggregateOutcome} {s' : Store}

/-- Where there is nothing to describe, nothing is left. -/
theorem Written.of_isEmpty (h : Written s ns desired outcome s') (hempty : desired.isEmpty = true) :
    s'.configMaps.get? (Artifact.keyIn ns) = none ∧
      outcome = if (s.configMaps.get? (Artifact.keyIn ns)).isSome then .deleted else .absent := by
  cases h with
  | absent _ hfree =>
    rw [hfree]
    exact ⟨rfl, rfl⟩
  | deleted _ hstored =>
    rw [hstored]
    exact ⟨SortedMap.get?_erase_self _ _, rfl⟩
  | created hsome _ | unchanged hsome _ _ | updated hsome _ _ =>
    rw [hempty] at hsome
    cases hsome

/-- Where nothing is stored, a new text is. -/
theorem Written.of_free (h : Written s ns desired outcome s') (hsome : desired.isEmpty = false)
    (hfree : s.configMaps.get? (Artifact.keyIn ns) = none) :
    outcome = .created ∧ ∃ c, s'.configMaps.get? (Artifact.keyIn ns) = some c ∧
      Artifact.storedText c = desired.encode := by
  cases h with
  | absent hempty _ | deleted hempty _ =>
    rw [hsome] at hempty
    cases hempty
  | created _ _ =>
    refine ⟨rfl, _, SortedMap.get?_insert_self _ _ _, ?_⟩
    exact Artifact.storedText_newConfigMap ns desired.encode
  | unchanged _ hstored _ | updated _ hstored _ =>
    rw [hfree] at hstored
    cases hstored

/-- A text that describes something else is replaced. -/
theorem Written.of_not_isDescribedBy (h : Written s ns desired outcome s')
    (hsome : desired.isEmpty = false)
    (hstored : s.configMaps.get? (Artifact.keyIn ns) = some current)
    (hnot : desired.isDescribedBy (Artifact.storedText current) = false) :
    outcome = .updated ∧ ∃ c, s'.configMaps.get? (Artifact.keyIn ns) = some c ∧
      Artifact.storedText c = desired.encode := by
  cases h with
  | absent hempty _ | deleted hempty _ =>
    rw [hsome] at hempty
    cases hempty
  | created _ hfree =>
    rw [hfree] at hstored
    cases hstored
  | unchanged _ hget hdescribed =>
    rw [hget] at hstored
    cases hstored
    rw [hnot] at hdescribed
    cases hdescribed
  | @updated previous _ _ _ =>
    refine ⟨rfl, _, SortedMap.get?_insert_self _ _ _, ?_⟩
    exact Artifact.storedText_updateConfigMap previous desired.encode

/-- An artifact that is stored already is not written. -/
theorem Written.of_isStored (h : Written s ns desired outcome s')
    (hstored : desired.IsStored s ns) :
    s' = s ∧ outcome = if desired.isEmpty then .absent else .unchanged := by
  cases h with
  | absent hempty _ =>
    rw [if_pos hempty]
    exact ⟨rfl, rfl⟩
  | deleted hempty hget =>
    rw [Artifact.isStored_iff_of_isEmpty hempty, hget] at hstored
    cases hstored
  | created hsome hfree =>
    obtain ⟨c, hc, -⟩ := (Artifact.isStored_iff_of_ne hsome).mp hstored
    rw [hfree] at hc
    cases hc
  | unchanged hsome _ _ =>
    rw [if_neg (by simp [hsome])]
    exact ⟨rfl, rfl⟩
  | updated hsome hget hnot =>
    obtain ⟨c, hc, hdecode⟩ := (Artifact.isStored_iff_of_ne hsome).mp hstored
    rw [hget] at hc
    cases hc
    rw [Artifact.isDescribedBy_iff.mpr hdecode] at hnot
    cases hnot

/-- No other config map is touched. -/
theorem Written.get?_of_ne (h : Written s ns desired outcome s') {key : ObjectKey}
    (hne : key ≠ Artifact.keyIn ns) : s'.configMaps.get? key = s.configMaps.get? key := by
  cases h with
  | absent _ _ | unchanged _ _ _ => rfl
  | deleted _ _ =>
    show (s.configMaps.erase (Artifact.keyIn ns)).get? key = _
    rw [SortedMap.get?_erase, if_neg hne]
  | created _ _ | updated _ _ _ =>
    show (s.configMaps.insert (Artifact.keyIn ns) _).get? key = _
    rw [SortedMap.get?_insert, if_neg hne]

/-- Bringing the artifact in line touches config maps only. -/
theorem Written.pools_eq (h : Written s ns desired outcome s') :
    s'.pools = s.pools ∧ s'.hasPoolKind = s.hasPoolKind ∧
      s'.configMapConflicts = s.configMapConflicts ∧ s'.statusConflicts = s.statusConflicts := by
  cases h <;> exact ⟨rfl, rfl, rfl, rfl⟩

end Cases

end PoolOperator
