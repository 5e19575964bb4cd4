import PoolOperator.Proofs.Reconcile.Validate
import PoolOperator.Proofs.Store.Kind

/-!
# What is seen of one instance

What becomes of the instance under a key depends on what is stored there, on whether instances can
be stored at all, and on the changes that are for this key. Two stores that look alike at a key go
on to look alike if one of them is spared all other changes. Versions and uids are left aside, and
times are told by a clock of choice.
-/

namespace PoolOperator

/-- Whether a write of an instance may take the place of a stored one: it is based on its version,
or on none. -/
def Instance.MayReplace (x stored : Instance) : Prop :=
  x.metadata.resourceVersion = none ∨
    x.metadata.resourceVersion = stored.metadata.resourceVersion

/-! ## Changes that concern a key -/

instance (md : ObjectMeta) (key : ObjectKey) : Decidable (md.HasKey key) :=
  inferInstanceAs (Decidable (_ ∧ _))

instance (key : ObjectKey) : DecidablePred (Request.IsWriteTo key)
  | .store (.createInstance x) | .store (.patchInstanceStatus x) =>
    inferInstanceAs (Decidable (x.metadata.HasKey key))
  | .store (.deleteInstance key') => inferInstanceAs (Decidable (key' = key))
  | .store (.listPools _) | .store (.getPool _) | .store (.createPool _) | .store (.replacePool _)
  | .store (.deletePool _) | .store (.patchPoolStatus _) | .store (.getConfigMap _)
  | .store (.createConfigMap _) | .store (.replaceConfigMap _) | .store (.deleteConfigMap ..)
  | .store (.listInstances _) | .store (.getInstance _) | .probe _ | .countWrite _ => isFalse id

namespace StoreEdit

/-- Whether a change from outside is for the instance under a key, or for all instances. -/
def Concerns (key : ObjectKey) : StoreEdit → Prop
  | .call c => (Request.store c).IsWriteTo key
  | .addInstance x => x.metadata.HasKey key
  | .setInstanceKind _ => True
  | _ => False

instance (key : ObjectKey) : DecidablePred (Concerns key)
  | .call c => inferInstanceAs (Decidable ((Request.store c).IsWriteTo key))
  | .addInstance x => inferInstanceAs (Decidable (x.metadata.HasKey key))
  | .setInstanceKind _ => isTrue trivial
  | .addPool _ | .addConfigMap _ | .orderConfigMapConflicts _ | .orderStatusConflicts _
  | .setPoolKind _ => isFalse id

/-- Whether a change from outside orders no conflict, and is not based on a version of the instance
under a key. -/
def IsFair (key : ObjectKey) : StoreEdit → Prop
  | .orderStatusConflicts count => count = 0
  | .call (.patchInstanceStatus x) =>
    x.metadata.HasKey key → x.metadata.resourceVersion = none
  | _ => True

end StoreEdit

namespace Store

variable {s s' s'' : Store} {key key' : ObjectKey} {x stored : Instance}

/-- Whether a store looks at a key as it did. -/
structure Overlooks (key : ObjectKey) (s s' : Store) : Prop where
  instances : s'.instances.get? key = s.instances.get? key
  hasInstanceKind : s'.hasInstanceKind = s.hasInstanceKind
  statusConflicts : s'.statusConflicts ≤ s.statusConflicts

theorem Overlooks.refl (key : ObjectKey) (s : Store) : Overlooks key s s :=
  ⟨rfl, rfl, Nat.le_refl _⟩

theorem Overlooks.trans (h : Overlooks key s s') (h' : Overlooks key s' s'') :
    Overlooks key s s'' :=
  ⟨h'.instances.trans h.instances, h'.hasInstanceKind.trans h.hasInstanceKind,
    Nat.le_trans h'.statusConflicts h.statusConflicts⟩

theorem PoolsOnly.overlooks (h : s.PoolsOnly s') (key : ObjectKey) : Overlooks key s s' :=
  ⟨by rw [h.instances], h.hasInstanceKind, h.statusConflicts⟩

theorem ConfigMapsOnly.overlooks (h : s.ConfigMapsOnly s') (key : ObjectKey) :
    Overlooks key s s' := by
  obtain ⟨_, _, _, _, rfl⟩ := h
  exact ⟨rfl, rfl, Nat.le_refl _⟩

theorem InstancesOnly.overlooks (h : s.InstancesOnly s')
    (hget : s'.instances.get? key = s.instances.get? key) : Overlooks key s s' :=
  ⟨hget, h.hasInstanceKind, h.statusConflicts⟩

/-! ## What becomes of one key -/

/-- An instance as it is stored when it is new. -/
def created (s : Store) (x : Instance) : Instance :=
  { x with metadata := stampCreated x.metadata s.nextVersion }

/-- An added instance is stored under its key if there is none, and nothing else changes. -/
theorem get?_add (s : Store) (x : Instance) (key : ObjectKey) :
    (s.add x).2.instances.get? key =
      if x.metadata.HasKey key then (s.instances.get? key).or (some (s.created x))
      else s.instances.get? key := by
  refine add_snd (P := fun s' => s'.instances.get? key = _) ?_ fun _ _ h => h
  by_cases hkey : x.metadata.HasKey key
  · rw [if_pos hkey, insertNew, keyOf_eq_ok.mpr hkey]
    dsimp only [guarded]
    have hcontains : (Stored.objects (α := Instance) s).contains key =
      (s.instances.get? key).isSome := rfl
    rw [hcontains]
    cases hget : s.instances.get? key with
    | some stored => exact hget
    | none => exact SortedMap.get?_insert_self _ _ _
  · rw [if_neg hkey]
    refine guarded_snd (P := fun s' => s'.instances.get? key = _) rfl fun key' hkey' => ?_
    split
    · rfl
    · show (s.instances.insert key' _).get? key = _
      rw [SortedMap.get?_insert, if_neg]
      rintro rfl
      exact hkey (keyOf_eq_ok.mp hkey')

theorem checkKind_instance (s : Store) : checkKind Instance s =
    if s.hasInstanceKind then .ok () else .error (.kindNotRegistered "MetalLB") := rfl

theorem get?_create (s : Store) (x : Instance) (key : ObjectKey) :
    (s.create x).2.instances.get? key =
      if s.hasInstanceKind then (s.add x).2.instances.get? key else s.instances.get? key := by
  rw [create, checkKind_instance]
  cases s.hasInstanceKind <;> rfl

theorem get?_delete (s : Store) (key' key : ObjectKey) :
    (s.delete Instance key').2.instances.get? key =
      if s.hasInstanceKind = true ∧ key' = key then none else s.instances.get? key := by
  rw [delete, checkKind_instance]
  cases s.hasInstanceKind with
  | false => rfl
  | true =>
    show (guarded s (s.find key') _).2.instances.get? key = _
    cases hget : s.instances.get? key' with
    | none =>
      rw [find_of_none (α := Instance) hget]
      show s.instances.get? key = _
      split
      · rename_i h
        rw [← h.2, hget]
      · rfl
    | some stored =>
      rw [find_eq_ok (α := Instance).mpr hget]
      show (s.instances.erase key').get? key = _
      rw [SortedMap.get?_erase]
      simp only [true_and, eq_comm]

/-! The four things that a write of a status can come to if no conflict has been ordered. -/

theorem patchStatus_unregistered (hkind : s.hasInstanceKind = false) (x : Instance) :
    s.patchStatus x = (.error (.kindNotRegistered "MetalLB"), s) := by
  rw [patchStatus, checkKind_instance, hkind]
  rfl

theorem patchStatus_registered (hkind : s.hasInstanceKind = true) (hkey : x.metadata.HasKey key) :
    s.patchStatus x = guarded s (s.find key) fun stored =>
      if 0 < s.statusConflicts then
        (.error (.conflict s!"MetalLB {key.display} status was modified concurrently"),
          { s with statusConflicts := s.statusConflicts - 1 }.bump Instance key)
      else guarded s (checkVersion key stored x.metadata.resourceVersion) fun _ =>
        (.ok (s.patched stored x), ((s.put key (s.patched stored x)).record
          (.modified (s.patched stored x))).countStatusWrite) := by
  rw [patchStatus, checkKind_instance, hkind, keyOf_eq_ok.mpr hkey]
  rfl

theorem patchStatus_absent (hkind : s.hasInstanceKind = true) (hkey : x.metadata.HasKey key)
    (hnone : s.instances.get? key = none) :
    s.patchStatus x = (.error (.notFound s!"MetalLB {key.display} not found"), s) := by
  rw [patchStatus_registered hkind hkey, find_of_none (α := Instance) hnone]
  rfl

theorem patchStatus_outdated (hkind : s.hasInstanceKind = true) (hcalm : s.statusConflicts = 0)
    (hkey : x.metadata.HasKey key) (hstored : s.instances.get? key = some stored)
    (hnot : ¬x.MayReplace stored) :
    ∃ message, s.patchStatus x = (.error (.conflict message), s) := by
  rw [patchStatus_registered hkind hkey, find_eq_ok (α := Instance).mpr hstored, hcalm]
  rcases checkVersion_cases key stored x.metadata.resourceVersion with hcheck | ⟨message, hcheck⟩
  · exact absurd (checkVersion_eq_ok.mp hcheck) hnot
  · refine ⟨message, ?_⟩
    simp only [guarded, Nat.lt_irrefl, if_false, hcheck]

theorem patchStatus_written (hkind : s.hasInstanceKind = true) (hcalm : s.statusConflicts = 0)
    (hkey : x.metadata.HasKey key) (hstored : s.instances.get? key = some stored)
    (hmay : x.MayReplace stored) :
    s.patchStatus x = (.ok (s.patched stored x), ((s.put key (s.patched stored x)).record
      (.modified (s.patched stored x))).countStatusWrite) := by
  have hcheck : checkVersion key stored x.metadata.resourceVersion = .ok () :=
    checkVersion_eq_ok.mpr hmay
  rw [patchStatus_registered hkind hkey, find_eq_ok (α := Instance).mpr hstored, hcalm]
  simp only [guarded, Nat.lt_irrefl, if_false, hcheck]

theorem get?_patchStatus_of_ne (s : Store) (hkey : ¬x.metadata.HasKey key) :
    (s.patchStatus x).2.instances.get? key = s.instances.get? key := by
  refine guarded_snd (P := fun s' => s'.instances.get? key = _) rfl fun _ _ =>
    guarded_snd (P := fun s' => s'.instances.get? key = _) rfl fun key' hkey' =>
      guarded_snd (P := fun s' => s'.instances.get? key = _) rfl fun stored _ => ?_
  have hne : key ≠ key' := by
    rintro rfl
    exact hkey (keyOf_eq_ok.mp hkey')
  split
  · rw [get?_bump, if_neg hne]
  · refine guarded_snd (P := fun s' => s'.instances.get? key = _) rfl fun _ _ => ?_
    show (s.instances.insert key' _).get? key = _
    rw [SortedMap.get?_insert, if_neg hne]

/-- A change that does not concern a key is overlooked there. -/
theorem overlooks_edit {e : StoreEdit} (h : ¬e.Concerns key) (hfair : e.IsFair key) (s : Store) :
    Overlooks key s (s.edit e) := by
  have hbeside := s.keptBeside_instancesOnly
  cases e with
  | call call =>
    cases call with
    | listPools | getPool | getConfigMap | listInstances | getInstance => exact .refl key s
    | createPool p => exact (s.poolsOnly_create p).overlooks key
    | replacePool p => exact (s.poolsOnly_replace p).overlooks key
    | deletePool key' => exact (s.poolsOnly_delete key').overlooks key
    | patchPoolStatus p => exact (s.poolsOnly_patchStatus p).overlooks key
    | createConfigMap c => exact (s.configMapsOnly_createConfigMap c).overlooks key
    | replaceConfigMap c => exact (s.configMapsOnly_replaceConfigMap c).overlooks key
    | deleteConfigMap key' version =>
      exact (s.configMapsOnly_deleteConfigMap key' version).overlooks key
    | createInstance x =>
      have hkey : ¬x.metadata.HasKey key := h
      refine (hbeside.create (.refl s) x).overlooks ?_
      rw [get?_create, get?_add, if_neg hkey, ite_self]
    | deleteInstance key' =>
      refine (hbeside.delete (.refl s) key').overlooks ?_
      rw [get?_delete, if_neg fun hkey => h hkey.2]
    | patchInstanceStatus x =>
      exact (hbeside.patchStatus (.refl s) x).overlooks (s.get?_patchStatus_of_ne h)
  | addPool p => exact (s.poolsOnly_add p).overlooks key
  | addConfigMap c => exact (s.configMapsOnly_insertNew c).overlooks key
  | addInstance x =>
    have hkey : ¬x.metadata.HasKey key := h
    refine (hbeside.add (.refl s) x).overlooks ?_
    rw [get?_add, if_neg hkey]
  | orderStatusConflicts count =>
    have hzero : count = 0 := hfair
    rw [hzero]
    exact ⟨rfl, rfl, Nat.zero_le _⟩
  | setInstanceKind isRegistered => exact absurd trivial h
  | orderConfigMapConflicts | setPoolKind => exact ⟨rfl, rfl, Nat.le_refl _⟩

end Store

/-! ## Looking alike -/

/-- An instance without its version, with its times as a clock shows them. -/
def Instance.shown (clock : Option String → Option String) (i : Instance) : Instance :=
  { i with
    metadata := { i.metadata with resourceVersion := none }
    status := i.status.map fun status =>
      { status with conditions := status.conditions.map (Condition.retime clock) } }

/-- The same without the uid, which counts what has been created anywhere. -/
def Instance.gist (clock : Option String → Option String) (i : Instance) : Instance :=
  { i.shown clock with metadata := { (i.shown clock).metadata with uid := none } }

namespace Store

variable {clock : Option String → Option String} {s s' t t' : Store} {key : ObjectKey}
  {i i' x x' stored : Instance} {e : StoreEdit} {es es' : List StoreEdit}

/-- Whether two stores in which no conflict has been ordered look the same at a key. -/
structure Alike (clock : Option String → Option String) (key : ObjectKey) (s s' : Store) : Prop where
  reachable : s.Reachable
  reachable' : s'.Reachable
  calm : s.statusConflicts = 0
  calm' : s'.statusConflicts = 0
  hasInstanceKind : s.hasInstanceKind = s'.hasInstanceKind
  gist : (s.instances.get? key).map (Instance.gist clock) =
    (s'.instances.get? key).map (Instance.gist clock)

theorem Alike.symm (h : Alike clock key s s') : Alike clock key s' s :=
  ⟨h.reachable', h.reachable, h.calm', h.calm, h.hasInstanceKind.symm, h.gist.symm⟩

theorem Alike.trans (h : Alike clock key s s') (h' : Alike clock key s' t) : Alike clock key s t :=
  ⟨h.reachable, h'.reachable', h.calm, h'.calm', h.hasInstanceKind.trans h'.hasInstanceKind,
    h.gist.trans h'.gist⟩

theorem Alike.of_overlooks (h : Alike clock key s s') (ht : t.Reachable)
    (hoverlooks : Overlooks key s t) : Alike clock key t s' where
  reachable := ht
  reachable' := h.reachable'
  calm := Nat.le_zero.mp (h.calm ▸ hoverlooks.statusConflicts)
  calm' := h.calm'
  hasInstanceKind := hoverlooks.hasInstanceKind.trans h.hasInstanceKind
  gist := by rw [hoverlooks.instances, h.gist]

/-- Under the key there is nothing on either side, or an instance on both. -/
theorem Alike.cases (h : Alike clock key s s') :
    (s.instances.get? key = none ∧ s'.instances.get? key = none) ∨
      ∃ i i', s.instances.get? key = some i ∧ s'.instances.get? key = some i' ∧
        i.gist clock = i'.gist clock := by
  have hgist := h.gist
  cases hi : s.instances.get? key with
  | none =>
    rw [hi] at hgist
    exact .inl ⟨rfl, Option.map_eq_none_iff.mp hgist.symm⟩
  | some i =>
    rw [hi] at hgist
    obtain ⟨i', hi', heq⟩ := Option.map_eq_some_iff.mp hgist.symm
    exact .inr ⟨i, i', rfl, hi', heq.symm⟩

theorem gist_patched (s : Store) (stored x : Instance) : (s.patched stored x).gist clock =
    { stored.gist clock with status := (x.gist clock).status } := rfl

/-- Whether a write has the same fate on both sides, whatever is said about the versions. -/
inductive SameFate : Except StoreError Instance → Except StoreError Instance → Prop where
  | written (y y' : Instance) : SameFate (.ok y) (.ok y')
  | outdated (message message' : String) :
      SameFate (.error (.conflict message)) (.error (.conflict message'))
  | refused (e : StoreError) : SameFate (.error e) (.error e)

/-- What is left of a proof that two stores go on to look alike after operations on instances. -/
theorem Alike.of_instancesOnly (h : Alike clock key s s') (ht : t.Reachable) (ht' : t'.Reachable)
    (honly : s.InstancesOnly t) (honly' : s'.InstancesOnly t')
    (hgist : (t.instances.get? key).map (Instance.gist clock) =
      (t'.instances.get? key).map (Instance.gist clock)) : Alike clock key t t' where
  reachable := ht
  reachable' := ht'
  calm := Nat.le_zero.mp (h.calm ▸ honly.statusConflicts)
  calm' := Nat.le_zero.mp (h.calm' ▸ honly'.statusConflicts)
  hasInstanceKind := by rw [honly.hasInstanceKind, honly'.hasInstanceKind, h.hasInstanceKind]
  gist := hgist

/-- A write that has the same status, and may take the place of what is stored on both sides or on
none, has the same fate on both. -/
theorem Alike.patchStatus (h : Alike clock key s s') (hkey : x.metadata.HasKey key)
    (hkey' : x'.metadata.HasKey key) (hstatus : (x.gist clock).status = (x'.gist clock).status)
    (hmay : ∀ stored stored', s.instances.get? key = some stored →
      s'.instances.get? key = some stored' → (x.MayReplace stored ↔ x'.MayReplace stored')) :
    SameFate (s.patchStatus x).1 (s'.patchStatus x').1 ∧
      Alike clock key (s.patchStatus x).2 (s'.patchStatus x').2 := by
  cases hkind : s.hasInstanceKind with
  | false =>
    rw [patchStatus_unregistered hkind,
      patchStatus_unregistered (h.hasInstanceKind.symm.trans hkind)]
    exact ⟨.refused _, h⟩
  | true =>
    have hkind' := h.hasInstanceKind.symm.trans hkind
    rcases h.cases with ⟨hnone, hnone'⟩ | ⟨i, i', hi, hi', hgist⟩
    · rw [patchStatus_absent hkind hkey hnone, patchStatus_absent hkind' hkey' hnone']
      exact ⟨.refused _, h⟩
    · by_cases hmay₁ : x.MayReplace i
      · have hmay₂ := (hmay i i' hi hi').mp hmay₁
        have ht := h.reachable.answer (.patchInstanceStatus x)
        have ht' := h.reachable'.answer (.patchInstanceStatus x')
        have honly := s.keptBeside_instancesOnly.patchStatus (.refl s) x
        have honly' := s'.keptBeside_instancesOnly.patchStatus (.refl s') x'
        change Reachable (s.patchStatus x).2 at ht
        change Reachable (s'.patchStatus x').2 at ht'
        rw [patchStatus_written hkind h.calm hkey hi hmay₁] at ht honly ⊢
        rw [patchStatus_written hkind' h.calm' hkey' hi' hmay₂] at ht' honly' ⊢
        refine ⟨.written _ _, h.of_instancesOnly ht ht' honly honly' ?_⟩
        show ((s.instances.insert key (s.patched i x)).get? key).map _ =
          ((s'.instances.insert key (s'.patched i' x')).get? key).map _
        rw [SortedMap.get?_insert_self, SortedMap.get?_insert_self, Option.map_some,
          Option.map_some, gist_patched, gist_patched, hgist, hstatus]
      · have hmay₂ := (not_congr (hmay i i' hi hi')).mp hmay₁
        obtain ⟨message, heq⟩ := patchStatus_outdated hkind h.calm hkey hi hmay₁
        obtain ⟨message', heq'⟩ := patchStatus_outdated hkind' h.calm' hkey' hi' hmay₂
        rw [heq, heq']
        exact ⟨.outdated _ _, h⟩

/-- Whether a key is left alone on both sides or on none. -/
def InStep (key : ObjectKey) (s t s' t' : Store) : Prop :=
  t.instances.get? key = s.instances.get? key ↔ t'.instances.get? key = s'.instances.get? key

/-- An instance is added on both sides or on none. -/
theorem Alike.or_created (h : Alike clock key s s') (x : Instance) :
    ((s.instances.get? key).or (some (s.created x))).map (Instance.gist clock) =
        ((s'.instances.get? key).or (some (s'.created x))).map (Instance.gist clock) ∧
      ((s.instances.get? key).or (some (s.created x)) = s.instances.get? key ↔
        (s'.instances.get? key).or (some (s'.created x)) = s'.instances.get? key) := by
  rcases h.cases with ⟨hnone, hnone'⟩ | ⟨i, i', hi, hi', hgist⟩
  · rw [hnone, hnone', Option.none_or, Option.none_or]
    exact ⟨rfl, iff_of_false nofun nofun⟩
  · rw [hi, hi', Option.some_or, Option.some_or, Option.map_some, Option.map_some, hgist]
    exact ⟨rfl, iff_of_true rfl rfl⟩

theorem Alike.add (h : Alike clock key s s') (hkey : x.metadata.HasKey key) :
    Alike clock key (s.add x).2 (s'.add x).2 ∧ InStep key s (s.add x).2 s' (s'.add x).2 := by
  obtain ⟨hgist, hstep⟩ := h.or_created x
  refine ⟨h.of_instancesOnly (h.reachable.edit (.addInstance x))
    (h.reachable'.edit (.addInstance x)) (s.keptBeside_instancesOnly.add (.refl s) x)
    (s'.keptBeside_instancesOnly.add (.refl s') x) ?_, ?_⟩
  · rw [get?_add, get?_add, if_pos hkey, if_pos hkey, hgist]
  · rw [InStep, get?_add, get?_add, if_pos hkey, if_pos hkey, hstep]

theorem Alike.create (h : Alike clock key s s') (hkey : x.metadata.HasKey key) :
    Alike clock key (s.create x).2 (s'.create x).2 ∧
      InStep key s (s.create x).2 s' (s'.create x).2 := by
  obtain ⟨hadded, hstep⟩ := h.add hkey
  rw [Store.create, Store.create, checkKind_instance, checkKind_instance, ← h.hasInstanceKind]
  cases s.hasInstanceKind with
  | false => exact ⟨h, iff_of_true rfl rfl⟩
  | true => exact ⟨hadded, hstep⟩

theorem Alike.delete (h : Alike clock key s s') :
    Alike clock key (s.delete Instance key).2 (s'.delete Instance key).2 ∧
      InStep key s (s.delete Instance key).2 s' (s'.delete Instance key).2 := by
  refine ⟨h.of_instancesOnly (h.reachable.answer (.deleteInstance key))
    (h.reachable'.answer (.deleteInstance key)) (s.keptBeside_instancesOnly.delete (.refl s) key)
    (s'.keptBeside_instancesOnly.delete (.refl s') key) ?_, ?_⟩
  · rw [get?_delete, get?_delete, h.hasInstanceKind]
    split
    · rfl
    · exact h.gist
  · rw [InStep, get?_delete, get?_delete, h.hasInstanceKind]
    split
    · rcases h.cases with ⟨hnone, hnone'⟩ | ⟨i, i', hi, hi', -⟩
      · rw [hnone, hnone']
      · rw [hi, hi']
        exact iff_of_false nofun nofun
    · exact iff_of_true rfl rfl

/-- An instance whose status has been written has another version. -/
theorem Reachable.patched_ne (hs : s.Reachable) (hstored : s.instances.get? key = some stored)
    (x : Instance) : s.patched stored x ≠ stored := by
  obtain ⟨v, hless, hv⟩ := hs.version (α := Instance) hstored
  intro heq
  have hversion : (s.patched stored x).metadata.resourceVersion = some (toString s.nextVersion) :=
    rfl
  rw [heq] at hversion
  have := toString_injective (Option.some.inj (hversion.symm.trans hv))
  omega

/-- A write that is based on no version is made wherever there is something to write to. -/
theorem Alike.inStep_patchStatus (h : Alike clock key s s') (hkey : x.metadata.HasKey key)
    (hversion : x.metadata.resourceVersion = none) :
    InStep key s (s.patchStatus x).2 s' (s'.patchStatus x).2 := by
  cases hkind : s.hasInstanceKind with
  | false =>
    rw [patchStatus_unregistered hkind,
      patchStatus_unregistered (h.hasInstanceKind.symm.trans hkind)]
    exact iff_of_true rfl rfl
  | true =>
    have hkind' := h.hasInstanceKind.symm.trans hkind
    rcases h.cases with ⟨hnone, hnone'⟩ | ⟨i, i', hi, hi', -⟩
    · rw [patchStatus_absent hkind hkey hnone, patchStatus_absent hkind' hkey hnone']
      exact iff_of_true rfl rfl
    · have hput {s : Store} (hs : s.Reachable) (hkind : s.hasInstanceKind = true)
          (hcalm : s.statusConflicts = 0) {i : Instance} (hi : s.instances.get? key = some i) :
          (s.patchStatus x).2.instances.get? key ≠ s.instances.get? key := by
        rw [patchStatus_written hkind hcalm hkey hi (.inl hversion), hi]
        show (s.instances.insert key (s.patched i x)).get? key ≠ some i
        rw [SortedMap.get?_insert_self]
        exact fun heq => hs.patched_ne hi x (Option.some.inj heq)
      exact iff_of_false (hput h.reachable hkind h.calm hi) (hput h.reachable' hkind' h.calm' hi')

/-- A change that concerns a key does the same on both sides. -/
theorem Alike.edit (h : Alike clock key s s') (he : e.Concerns key) (hfair : e.IsFair key) :
    Alike clock key (s.edit e) (s'.edit e) ∧ InStep key s (s.edit e) s' (s'.edit e) := by
  cases e with
  | call call =>
    cases call with
    | createInstance x => exact h.create he
    | deleteInstance key' =>
      have hkey : key' = key := he
      rw [hkey]
      exact h.delete
    | patchInstanceStatus x =>
      have hversion : x.metadata.resourceVersion = none := hfair he
      exact ⟨(h.patchStatus he he rfl fun _ _ _ _ => iff_of_true (.inl hversion) (.inl hversion)).2,
        h.inStep_patchStatus he hversion⟩
    | _ => exact he.elim
  | addInstance x => exact h.add he
  | setInstanceKind isRegistered =>
    have ht := h.reachable.edit (.setInstanceKind isRegistered)
    have ht' := h.reachable'.edit (.setInstanceKind isRegistered)
    exact ⟨⟨ht, ht', h.calm, h.calm', rfl, h.gist⟩, iff_of_true rfl rfl⟩
  | _ => exact he.elim

/-- Of any changes, only those count that concern the key. -/
theorem Alike.edits_own (hfair : ∀ e ∈ es, e.IsFair key) : ∀ {s s' : Store}, Alike clock key s s' →
    Alike clock key (s.edits es) (s'.edits (es.filter (·.Concerns key))) := by
  induction es with
  | nil =>
    intro s s' h
    exact h
  | cons e es ih =>
    intro s s' h
    obtain ⟨he, hes⟩ := List.forall_mem_cons.mp hfair
    rw [edits_cons, List.filter_cons]
    by_cases hconcerns : e.Concerns key
    · rw [if_pos (decide_eq_true hconcerns), edits_cons]
      exact ih hes (h.edit hconcerns he).1
    · rw [if_neg (by simpa using hconcerns)]
      exact ih hes (h.of_overlooks (h.reachable.edit e) (overlooks_edit hconcerns he s))

/-- What was found before some changes is still there behind them on both sides or on none. -/
theorem Alike.found_own (hfair : ∀ e ∈ es, e.IsFair key) : ∀ {s s' : Store},
    Alike clock key s s' → s.instances.get? key = some i → s'.instances.get? key = some i' →
      ((s.edits es).instances.get? key = some i ↔
        (s'.edits (es.filter (·.Concerns key))).instances.get? key = some i') := by
  induction es with
  | nil =>
    intro s s' _ hi hi'
    exact iff_of_true hi hi'
  | cons e es ih =>
    intro s s' h hi hi'
    obtain ⟨he, hes⟩ := List.forall_mem_cons.mp hfair
    rw [edits_cons, List.filter_cons]
    by_cases hconcerns : e.Concerns key
    · rw [if_pos (decide_eq_true hconcerns), edits_cons]
      obtain ⟨halike, hstep⟩ := h.edit hconcerns he
      by_cases hstays : (s.edit e).instances.get? key = s.instances.get? key
      · exact ih hes halike (hstays.trans hi) ((hstep.mp hstays).trans hi')
      · -- what has been replaced does not come back
        have hgone {s : Store} (hs : s.Reachable) {j : Instance} {fs : List StoreEdit}
            (hj : s.instances.get? key = some j)
            (hstays : (s.edit e).instances.get? key ≠ s.instances.get? key) :
            ((s.edit e).edits fs).instances.get? key ≠ some j := by
          intro hend
          rw [hj] at hstays
          exact hstays (hs.eq_between (changes_edit hs.keyed e)
            (changes_edits fs (hs.edit e).keyed) hj hend)
        exact iff_of_false (hgone h.reachable hi hstays)
          (hgone h.reachable' hi' (fun heq => hstays (hstep.mpr heq)))
    · rw [if_neg (by simpa using hconcerns)]
      have hoverlooks := overlooks_edit hconcerns he s
      exact ih hes (h.of_overlooks (h.reachable.edit e) hoverlooks)
        (hoverlooks.instances.trans hi) hi'

/-- The same changes, as far as they concern the key, keep stores alike. -/
theorem Alike.edits (h : Alike clock key s s') (hfair : ∀ e ∈ es, e.IsFair key)
    (hfair' : ∀ e ∈ es', e.IsFair key)
    (hsame : es.filter (·.Concerns key) = es'.filter (·.Concerns key)) :
    Alike clock key (s.edits es) (s'.edits es') := by
  have hleft := Alike.edits_own hfair h
  have hright := Alike.edits_own hfair' (h.symm.trans h)
  rw [hsame] at hleft
  exact hleft.trans hright.symm

theorem Alike.found_iff (h : Alike clock key s s') (hfair : ∀ e ∈ es, e.IsFair key)
    (hfair' : ∀ e ∈ es', e.IsFair key)
    (hsame : es.filter (·.Concerns key) = es'.filter (·.Concerns key))
    (hi : s.instances.get? key = some i) (hi' : s'.instances.get? key = some i') :
    (s.edits es).instances.get? key = some i ↔ (s'.edits es').instances.get? key = some i' := by
  have hleft := Alike.found_own hfair h hi hi'
  have hright := Alike.found_own hfair' (h.symm.trans h) hi' hi'
  rw [hsame] at hleft
  exact hleft.trans hright.symm

/-- A write that is based on what was read may take the place of this and of nothing else. -/
theorem Reachable.mayReplace_iff (hs : s.Reachable) (hchanges : Changes s t)
    (hi : s.instances.get? key = some i) (hstored : t.instances.get? key = some stored)
    (hversion : x.metadata.resourceVersion = i.metadata.resourceVersion) :
    x.MayReplace stored ↔ stored = i := by
  obtain ⟨v, -, hv⟩ := hs.version (α := Instance) hi
  have hv : i.metadata.resourceVersion = some (toString v) := hv
  constructor
  · rintro (hnone | hsame)
    · cases hnone.symm.trans (hversion.trans hv)
    · exact hs.eq_of_version_eq hchanges hi hstored (hsame.symm.trans hversion)
  · rintro rfl
    exact .inr hversion

end Store
end PoolOperator
