import PoolOperator.Proofs.Store.Change

/-!
# Writing config maps

When no conflict has been ordered, a config map is created where there is none, and replaced or
deleted in the version in which it is stored. Whatever has been ordered, a write that succeeds
leaves what it was to leave, and no write touches pools or instances.
-/

namespace PoolOperator

/-- A config map without its version. -/
def ConfigMap.undated (c : ConfigMap) : ConfigMap :=
  { c with metadata := { c.metadata with resourceVersion := none } }

namespace Store

variable {s : Store} {key : ObjectKey} {c stored : ConfigMap}

theorem meetConflict_zero {α : Type} (h : s.configMapConflicts = 0) (key : ObjectKey)
    (next : StoreResult α) : s.meetConflict key next = next := by
  rw [meetConflict, h, if_neg (Nat.lt_irrefl 0)]

/-! ## Writes that succeed -/

/-- A config map as it is stored when it is new. -/
def createdConfigMap (s : Store) (c : ConfigMap) : ConfigMap :=
  { c with metadata := stampCreated c.metadata s.nextVersion }

/-- A config map as it is stored in the place of another one. -/
def replacedConfigMap (s : Store) (c stored : ConfigMap) : ConfigMap :=
  { c with metadata := stampReplaced c.metadata stored.metadata s.nextVersion }

theorem createConfigMap_eq_ok (hconflicts : s.configMapConflicts = 0)
    (hkey : c.metadata.HasKey key) (hfree : s.configMaps.get? key = none) :
    s.createConfigMap c =
      (.ok (s.createdConfigMap c), (s.put key (s.createdConfigMap c)).countConfigMapWrite) := by
  have hkey' : keyOf c = .ok key := keyOf_eq_ok.mpr hkey
  have hnot : s.configMaps.contains key = false := by rw [SortedMap.contains, hfree]; rfl
  have hnew : s.insertNew c = (.ok (s.createdConfigMap c), s.put key (s.createdConfigMap c)) := by
    rw [insertNew, hkey']
    show (if s.configMaps.contains key = true then _ else _) = _
    rw [hnot, if_neg Bool.false_ne_true]
    rfl
  rw [createConfigMap, hkey']
  show s.meetConflict key _ = _
  rw [meetConflict_zero hconflicts, hnew]

theorem replaceConfigMap_eq_ok (hconflicts : s.configMapConflicts = 0)
    (hkey : c.metadata.HasKey key) (hstored : s.configMaps.get? key = some stored)
    (hversion : c.metadata.resourceVersion = stored.metadata.resourceVersion) :
    s.replaceConfigMap c = (.ok (s.replacedConfigMap c stored),
      (s.put key (s.replacedConfigMap c stored)).countConfigMapWrite) := by
  have hkey' : keyOf c = .ok key := keyOf_eq_ok.mpr hkey
  have hfind : s.find (α := ConfigMap) key = .ok stored := find_eq_ok.mpr hstored
  rw [replaceConfigMap, hkey']
  show guarded s (s.find key) _ = _
  rw [hfind]
  show s.meetConflict key _ = _
  have hcheck : checkVersion key stored stored.metadata.resourceVersion = .ok () :=
    checkVersion_self key stored
  rw [meetConflict_zero hconflicts, hversion, hcheck]
  rfl

theorem deleteConfigMap_eq_ok (hconflicts : s.configMapConflicts = 0)
    (hstored : s.configMaps.get? key = some stored) :
    s.deleteConfigMap key stored.metadata.resourceVersion =
      (.ok (), (s.remove ConfigMap key).countConfigMapWrite) := by
  have hfind : s.find (α := ConfigMap) key = .ok stored := find_eq_ok.mpr hstored
  rw [deleteConfigMap, hfind]
  show s.meetConflict key _ = _
  have hcheck : checkVersion key stored stored.metadata.resourceVersion = .ok () :=
    checkVersion_self key stored
  rw [meetConflict_zero hconflicts, hcheck]
  rfl

/-! ## What writes leave -/

section Results

variable {s' : Store}

theorem of_guarded_eq_ok {α β : Type} {check : Except StoreError β} {next : β → StoreResult α}
    {a : α} (h : guarded s check next = (.ok a, s')) :
    ∃ b, check = .ok b ∧ next b = (.ok a, s') := by
  cases check with
  | ok b => exact ⟨b, rfl, h⟩
  | error e => cases h

theorem of_meetConflict_eq_ok {α : Type} {key : ObjectKey} {next : StoreResult α} {a : α}
    (h : s.meetConflict key next = (.ok a, s')) : next = (.ok a, s') := by
  unfold meetConflict at h
  split at h
  · cases h
  · exact h

theorem of_insertNew_eq_ok (hkey : c.metadata.HasKey key) {created : ConfigMap}
    (h : s.insertNew c = (.ok created, s')) :
    created = s.createdConfigMap c ∧ s' = s.put key created := by
  have hkey' : keyOf c = .ok key := keyOf_eq_ok.mpr hkey
  rw [insertNew, hkey'] at h
  change (if s.configMaps.contains key = true then _ else _) = _ at h
  split at h
  · cases h
  · cases h
    exact ⟨rfl, rfl⟩

/-- What has been created was not there. -/
theorem free_of_createConfigMap (hkey : c.metadata.HasKey key) {created : ConfigMap}
    (h : s.createConfigMap c = (.ok created, s')) : s.configMaps.get? key = none := by
  have hkey' : keyOf c = .ok key := keyOf_eq_ok.mpr hkey
  rw [createConfigMap, hkey'] at h
  have hnext := of_meetConflict_eq_ok h
  split at hnext
  · rename_i x s₁ hinsert
    rw [insertNew, hkey'] at hinsert
    change (if s.configMaps.contains key = true then _ else _) = _ at hinsert
    split at hinsert
    · cases hinsert
    · rename_i hnot
      simpa [SortedMap.contains] using hnot
  · cases hnext

/-- What has been replaced was there, in the version that was given if one was. -/
theorem stored_of_replaceConfigMap (hkey : c.metadata.HasKey key) {replaced : ConfigMap}
    (h : s.replaceConfigMap c = (.ok replaced, s')) :
    ∃ stored, s.configMaps.get? key = some stored ∧ (c.metadata.resourceVersion = none ∨
      c.metadata.resourceVersion = stored.metadata.resourceVersion) := by
  have hkey' : keyOf c = .ok key := keyOf_eq_ok.mpr hkey
  rw [replaceConfigMap, hkey'] at h
  change guarded s (s.find key) _ = _ at h
  obtain ⟨stored, hfind, h⟩ := of_guarded_eq_ok h
  obtain ⟨_, hcheck, _⟩ := of_guarded_eq_ok (of_meetConflict_eq_ok h)
  exact ⟨stored, find_eq_ok.mp hfind, checkVersion_eq_ok.mp hcheck⟩

/-- The same of what has been deleted. -/
theorem stored_of_deleteConfigMap {version : Option String}
    (h : s.deleteConfigMap key version = (.ok (), s')) :
    ∃ stored, s.configMaps.get? key = some stored ∧
      (version = none ∨ version = stored.metadata.resourceVersion) := by
  rw [deleteConfigMap] at h
  obtain ⟨stored, hfind, h⟩ := of_guarded_eq_ok h
  obtain ⟨_, hcheck, _⟩ := of_guarded_eq_ok (of_meetConflict_eq_ok h)
  exact ⟨stored, find_eq_ok.mp hfind, checkVersion_eq_ok.mp hcheck⟩

/-- What has been created is there. -/
theorem get?_of_createConfigMap (hkey : c.metadata.HasKey key) {created : ConfigMap}
    (h : s.createConfigMap c = (.ok created, s')) :
    ∃ x, s'.configMaps.get? key = some x ∧ x.data = c.data := by
  have hkey' : keyOf c = .ok key := keyOf_eq_ok.mpr hkey
  rw [createConfigMap, hkey'] at h
  have hnext := of_meetConflict_eq_ok h
  split at hnext
  · rename_i x s₁ hinsert
    obtain ⟨rfl, rfl⟩ := of_insertNew_eq_ok hkey hinsert
    cases hnext
    exact ⟨_, SortedMap.get?_insert_self _ _ _, rfl⟩
  · cases hnext

/-- What has been replaced has its new content, and the marks that follow those of the old one. -/
theorem replaced_of_replaceConfigMap (hkey : c.metadata.HasKey key) {replaced : ConfigMap}
    (h : s.replaceConfigMap c = (.ok replaced, s')) :
    ∃ stored, s.configMaps.get? key = some stored ∧
      s'.configMaps.get? key = some (s.replacedConfigMap c stored) := by
  have hkey' : keyOf c = .ok key := keyOf_eq_ok.mpr hkey
  rw [replaceConfigMap, hkey'] at h
  change guarded s (s.find key) _ = _ at h
  obtain ⟨stored, hfind, h⟩ := of_guarded_eq_ok h
  obtain ⟨-, -, h⟩ := of_guarded_eq_ok (of_meetConflict_eq_ok h)
  cases h
  exact ⟨stored, find_eq_ok.mp hfind, SortedMap.get?_insert_self _ _ _⟩

/-- What has been replaced has its new content. -/
theorem get?_of_replaceConfigMap (hkey : c.metadata.HasKey key) {replaced : ConfigMap}
    (h : s.replaceConfigMap c = (.ok replaced, s')) :
    ∃ x, s'.configMaps.get? key = some x ∧ x.data = c.data := by
  obtain ⟨stored, -, hreplaced⟩ := replaced_of_replaceConfigMap hkey h
  exact ⟨_, hreplaced, rfl⟩

/-- What has been deleted is gone. -/
theorem get?_of_deleteConfigMap {version : Option String}
    (h : s.deleteConfigMap key version = (.ok (), s')) : s'.configMaps.get? key = none := by
  rw [deleteConfigMap] at h
  obtain ⟨stored, -, h⟩ := of_guarded_eq_ok h
  obtain ⟨-, -, h⟩ := of_guarded_eq_ok (of_meetConflict_eq_ok h)
  cases h
  exact SortedMap.get?_erase_self _ _

/-- What was not found is not there. -/
theorem get?_of_deleteConfigMap_notFound {version : Option String} {message : String}
    (h : s.deleteConfigMap key version = (.error (.notFound message), s')) :
    s'.configMaps.get? key = none := by
  rw [deleteConfigMap] at h
  cases hget : s.configMaps.get? key with
  | none =>
    have hget' : (Stored.objects (α := ConfigMap) s).get? key = none := hget
    rw [find, hget'] at h
    cases h
    exact hget
  | some stored =>
    have hfind : s.find (α := ConfigMap) key = .ok stored := find_eq_ok.mpr hget
    rw [hfind] at h
    -- all that can still go wrong is a conflict
    change s.meetConflict key (guarded s (checkVersion key stored version) _) = _ at h
    unfold meetConflict at h
    split at h
    · cases h
    · rcases checkVersion_cases key stored version with hcheck | ⟨message, hcheck⟩
      · rw [hcheck] at h
        cases h
      · rw [hcheck] at h
        cases h

/-! ## What writes leave alone -/

/-- Whether two stores differ in config maps only, and in what is counted and ordered for them. -/
def ConfigMapsOnly (s s' : Store) : Prop :=
  ∃ configMaps nextVersion conflicts writes, s' = { s with
    configMaps := configMaps, nextVersion := nextVersion, configMapConflicts := conflicts,
    configMapWrites := writes }

theorem ConfigMapsOnly.refl (s : Store) : s.ConfigMapsOnly s := ⟨_, _, _, _, rfl⟩

theorem ConfigMapsOnly.trans {s s' s'' : Store} (h : s.ConfigMapsOnly s')
    (h' : s'.ConfigMapsOnly s'') : s.ConfigMapsOnly s'' := by
  obtain ⟨_, _, _, _, rfl⟩ := h
  obtain ⟨_, _, _, _, rfl⟩ := h'
  exact ⟨_, _, _, _, rfl⟩

theorem configMapsOnly_meetConflict {α : Type} {key : ObjectKey} {next : StoreResult α}
    (h : s.ConfigMapsOnly next.2) : s.ConfigMapsOnly (s.meetConflict key next).2 := by
  unfold meetConflict
  split
  · unfold bump
    split <;> exact ⟨_, _, _, _, rfl⟩
  · exact h

theorem configMapsOnly_insertNew (s : Store) (c : ConfigMap) :
    s.ConfigMapsOnly (s.insertNew c).2 := by
  refine guarded_snd (.refl s) fun key _ => ?_
  split
  · exact .refl s
  · exact ⟨_, _, _, _, rfl⟩

theorem configMapsOnly_createConfigMap (s : Store) (c : ConfigMap) :
    s.ConfigMapsOnly (s.createConfigMap c).2 := by
  refine guarded_snd (.refl s) fun key _ => configMapsOnly_meetConflict ?_
  have hinsert := s.configMapsOnly_insertNew c
  split
  · rename_i heq
    rw [heq] at hinsert
    exact hinsert.trans ⟨_, _, _, _, rfl⟩
  · rename_i heq
    rw [heq] at hinsert
    exact hinsert

theorem configMapsOnly_replaceConfigMap (s : Store) (c : ConfigMap) :
    s.ConfigMapsOnly (s.replaceConfigMap c).2 :=
  guarded_snd (.refl s) fun _ _ => guarded_snd (.refl s) fun _ _ => configMapsOnly_meetConflict <|
    guarded_snd (.refl s) fun _ _ => ⟨_, _, _, _, rfl⟩

theorem configMapsOnly_deleteConfigMap (s : Store) (key : ObjectKey) (version : Option String) :
    s.ConfigMapsOnly (s.deleteConfigMap key version).2 :=
  guarded_snd (.refl s) fun _ _ => configMapsOnly_meetConflict <|
    guarded_snd (.refl s) fun _ _ => ⟨_, _, _, _, rfl⟩

theorem ConfigMapsOnly.pools {s s' : Store} (h : s.ConfigMapsOnly s') : s'.pools = s.pools := by
  obtain ⟨_, _, _, _, rfl⟩ := h
  rfl

theorem ConfigMapsOnly.instances {s s' : Store} (h : s.ConfigMapsOnly s') :
    s'.instances = s.instances := by
  obtain ⟨_, _, _, _, rfl⟩ := h
  rfl

end Results

/-! ## Whatever becomes of a write -/

section Outcomes

variable {α : Type} {s' : Store}

/-- What a write of a config map can come to. -/
inductive ConfigMapWrite (s : Store) (key : ObjectKey) : Except StoreError α → Store → Prop where
  | refused (e : StoreError) : ConfigMapWrite s key (.error e) s
  | overtaken (message : String) (hordered : 0 < s.configMapConflicts) :
      ConfigMapWrite s key (.error (.conflict message))
        ({ s with configMapConflicts := s.configMapConflicts - 1 }.bump ConfigMap key)
  | written (a : α) (c : ConfigMap) :
      ConfigMapWrite s key (.ok a) (s.put key c).countConfigMapWrite
  | removed (a : α) : ConfigMapWrite s key (.ok a) (s.remove ConfigMap key).countConfigMapWrite

theorem configMapWrite_meetConflict {next : StoreResult α}
    (h : ConfigMapWrite s key next.1 next.2) :
    ConfigMapWrite s key (s.meetConflict key next).1 (s.meetConflict key next).2 := by
  unfold meetConflict
  split
  · rename_i hordered
    exact .overtaken _ hordered
  · exact h

theorem configMapWrite_guarded {β : Type} {check : Except StoreError β} {next : β → StoreResult α}
    (h : ∀ b, check = .ok b → ConfigMapWrite s key (next b).1 (next b).2) :
    ConfigMapWrite s key (guarded s check next).1 (guarded s check next).2 := by
  cases check with
  | error e => exact .refused e
  | ok b => exact h b rfl

theorem configMapWrite_createConfigMap (hkey : c.metadata.HasKey key) :
    ConfigMapWrite s key (s.createConfigMap c).1 (s.createConfigMap c).2 := by
  refine configMapWrite_guarded fun key' hkey' => ?_
  rw [keyOf_eq_ok.mpr hkey] at hkey'
  cases hkey'
  refine configMapWrite_meetConflict ?_
  have hnew : s.insertNew c = if s.configMaps.contains key = true then
      (.error (.conflict s!"{Stored.kind ConfigMap} {key.display} already exists"), s)
    else (.ok (s.createdConfigMap c), s.put key (s.createdConfigMap c)) := by
    rw [insertNew, keyOf_eq_ok.mpr hkey]
    rfl
  rw [hnew]
  by_cases hcontains : s.configMaps.contains key = true
  · rw [if_pos hcontains]
    exact .refused _
  · rw [if_neg hcontains]
    exact .written _ _

theorem configMapWrite_replaceConfigMap (hkey : c.metadata.HasKey key) :
    ConfigMapWrite s key (s.replaceConfigMap c).1 (s.replaceConfigMap c).2 := by
  refine configMapWrite_guarded fun key' hkey' => ?_
  rw [keyOf_eq_ok.mpr hkey] at hkey'
  cases hkey'
  exact configMapWrite_guarded fun _ _ => configMapWrite_meetConflict <|
    configMapWrite_guarded fun _ _ => .written _ _

theorem configMapWrite_deleteConfigMap (key : ObjectKey) (version : Option String) :
    ConfigMapWrite s key (s.deleteConfigMap key version).1 (s.deleteConfigMap key version).2 :=
  configMapWrite_guarded fun _ _ => configMapWrite_meetConflict <|
    configMapWrite_guarded fun _ _ => .removed _

/-- A write concerns the config map under its key only. -/
theorem ConfigMapWrite.others {reply : Except StoreError α} (h : ConfigMapWrite s key reply s')
    {key' : ObjectKey} (hne : key' ≠ key) : s'.configMaps.get? key' = s.configMaps.get? key' := by
  cases h with
  | refused => rfl
  | overtaken => exact (get?_objects_bump _ key key').trans (if_neg hne)
  | written _ c => exact (SortedMap.get?_insert _ key key' c).trans (if_neg hne)
  | removed => exact (SortedMap.get?_erase _ key key').trans (if_neg hne)

/-- A write that fails leaves all of the config map but its version. -/
theorem ConfigMapWrite.undated_of_error {e : StoreError}
    (h : ConfigMapWrite (α := α) s key (.error e) s') :
    (s'.configMaps.get? key).map ConfigMap.undated =
      (s.configMaps.get? key).map ConfigMap.undated := by
  cases h with
  | refused => rfl
  | overtaken =>
    have hbump := get?_objects_bump (α := ConfigMap)
      { s with configMapConflicts := s.configMapConflicts - 1 } key key
    rw [if_pos rfl] at hbump
    change SortedMap.get? (configMaps _) key = (s.configMaps.get? key).map _ at hbump
    rw [hbump]
    cases s.configMaps.get? key <;> rfl

end Outcomes

/-! ## Conflicts ordered for statuses -/

section Expecting

variable {α : Type}

/-- A store with a number of conflicts ordered for writes of a status. -/
def expecting (s : Store) (count : Nat) : Store := { s with statusConflicts := count }

theorem guarded_expecting {β : Type} {check : Except StoreError β} {next next' : β → StoreResult α}
    {count : Nat} (h : ∀ b, next' b = ((next b).1, (next b).2.expecting count)) :
    guarded (s.expecting count) check next' =
      ((guarded s check next).1, (guarded s check next).2.expecting count) := by
  cases check with
  | error e => rfl
  | ok b => exact h b

theorem bump_expecting (s : Store) (key : ObjectKey) (count : Nat) :
    (s.expecting count).bump ConfigMap key = (s.bump ConfigMap key).expecting count := by
  have hobjects : (Stored.objects (α := ConfigMap) (s.expecting count)).get? key =
    s.configMaps.get? key := rfl
  have hobjects' : (Stored.objects (α := ConfigMap) s).get? key = s.configMaps.get? key := rfl
  rw [bump, bump, hobjects, hobjects']
  cases s.configMaps.get? key <;> rfl

theorem meetConflict_expecting {next next' : StoreResult α} {count : Nat}
    (h : next' = (next.1, next.2.expecting count)) (key : ObjectKey) :
    (s.expecting count).meetConflict key next' =
      ((s.meetConflict key next).1, (s.meetConflict key next).2.expecting count) := by
  unfold meetConflict
  show (if 0 < s.configMapConflicts then _ else _) = _
  split
  · exact Prod.ext rfl (bump_expecting { s with configMapConflicts := s.configMapConflicts - 1 } key
      count)
  · exact h

theorem insertNew_expecting (s : Store) (c : ConfigMap) (count : Nat) :
    (s.expecting count).insertNew c = ((s.insertNew c).1, (s.insertNew c).2.expecting count) := by
  refine guarded_expecting fun key => ?_
  have hobjects : (Stored.objects (α := ConfigMap) (s.expecting count)).contains key =
    s.configMaps.contains key := rfl
  have hobjects' : (Stored.objects (α := ConfigMap) s).contains key = s.configMaps.contains key :=
    rfl
  rw [hobjects, hobjects']
  split <;> rfl

theorem createConfigMap_expecting (s : Store) (c : ConfigMap) (count : Nat) :
    (s.expecting count).createConfigMap c =
      ((s.createConfigMap c).1, (s.createConfigMap c).2.expecting count) := by
  refine guarded_expecting fun key => meetConflict_expecting ?_ key
  rw [insertNew_expecting]
  rcases s.insertNew c with ⟨e | created, s'⟩ <;> rfl

theorem replaceConfigMap_expecting (s : Store) (c : ConfigMap) (count : Nat) :
    (s.expecting count).replaceConfigMap c =
      ((s.replaceConfigMap c).1, (s.replaceConfigMap c).2.expecting count) := by
  refine guarded_expecting fun key => guarded_expecting fun _ => meetConflict_expecting ?_ key
  exact guarded_expecting fun _ => rfl

theorem deleteConfigMap_expecting (s : Store) (key : ObjectKey) (version : Option String)
    (count : Nat) : (s.expecting count).deleteConfigMap key version =
      ((s.deleteConfigMap key version).1, (s.deleteConfigMap key version).2.expecting count) := by
  refine guarded_expecting fun _ => meetConflict_expecting ?_ key
  exact guarded_expecting fun _ => rfl

end Expecting

end Store

end PoolOperator
