import PoolOperator.Proofs.Store.Status

/-!
# What writes come to

Everything a write can do, one equation for each way in which it may end. It is refused and leaves
the store as it was; or it meets a conflict that has been ordered; or it puts one object under its
key, or removes one, and this is logged and counted.
-/

namespace PoolOperator.Store

/-! ## Additions -/

section Stored

variable {α : Type} [Stored α] {s : Store} {x : α}

/-- An object as it is stored when it is new. -/
def asCreated (s : Store) (x : α) : α :=
  Stored.withMetadata x (stampCreated (Stored.metadata x) s.nextVersion)

theorem insertNew_cases (s : Store) (x : α) :
    (∃ e, s.insertNew x = (.error e, s)) ∨
      ∃ key, (Stored.metadata x).HasKey key ∧ (Stored.objects (α := α) s).get? key = none ∧
        s.insertNew x = (.ok (s.asCreated x), s.put key (s.asCreated x)) := by
  unfold insertNew
  cases hkey : keyOf x with
  | error e => exact .inl ⟨e, rfl⟩
  | ok key =>
    by_cases hcontains : (Stored.objects (α := α) s).contains key = true
    · refine .inl ⟨.conflict s!"{Stored.kind α} {key.display} already exists", ?_⟩
      rw [guarded, if_pos hcontains]
    · refine .inr ⟨key, keyOf_eq_ok.mp hkey, by simpa [SortedMap.contains] using hcontains, ?_⟩
      rw [guarded, if_neg hcontains]
      rfl

end Stored

/-! ## Watched kinds -/

section Watched

variable {α : Type} [Watched α]

theorem add_cases (s : Store) (x : α) :
    (∃ e, s.add x = (.error e, s)) ∨
      ∃ key, (Stored.metadata x).HasKey key ∧ (Stored.objects (α := α) s).get? key = none ∧
        s.add x =
          (.ok (s.asCreated x), (s.put key (s.asCreated x)).record (.added (s.asCreated x))) := by
  unfold add
  rcases s.insertNew_cases x with ⟨e, h⟩ | ⟨key, hkey, hfree, h⟩
  · rw [h]
    exact .inl ⟨e, rfl⟩
  · rw [h]
    exact .inr ⟨key, hkey, hfree, rfl⟩

/-- An object is created just as it is added, unless its kind is not registered. -/
theorem create_cases (s : Store) (x : α) :
    (∃ e, s.create x = (.error e, s)) ∨ s.create x = s.add x := by
  unfold create
  cases checkKind α s with
  | error e => exact .inl ⟨e, rfl⟩
  | ok _ => exact .inr rfl

/-- An object as it is stored in the place of another one, whose status it keeps. -/
def asReplaced (s : Store) (x stored : α) : α :=
  Stored.withMetadata (Watched.withStatus x (Watched.status stored))
    (stampReplaced (Stored.metadata x) (Stored.metadata stored) s.nextVersion)

theorem replace_cases (s : Store) (x : α) :
    (∃ e, s.replace x = (.error e, s)) ∨
      ∃ key stored, (Stored.metadata x).HasKey key ∧
        (Stored.objects s).get? key = some stored ∧
        s.replace x = (.ok (s.asReplaced x stored),
          (s.put key (s.asReplaced x stored)).record (.modified (s.asReplaced x stored))) := by
  unfold replace
  cases checkKind α s with
  | error e => exact .inl ⟨e, rfl⟩
  | ok _ =>
    cases hkey : keyOf x with
    | error e => exact .inl ⟨e, rfl⟩
    | ok key =>
      cases hfind : s.find (α := α) key with
      | error e => exact .inl ⟨e, by simp only [guarded, hfind]⟩
      | ok stored =>
        cases hcheck : checkVersion key stored (Stored.metadata x).resourceVersion with
        | error e => exact .inl ⟨e, by simp only [guarded, hfind, hcheck]⟩
        | ok _ =>
          refine .inr ⟨key, stored, keyOf_eq_ok.mp hkey, find_eq_ok.mp hfind, ?_⟩
          simp only [guarded, hfind, hcheck]
          rfl

theorem delete_cases (s : Store) (key : ObjectKey) :
    (∃ e, s.delete α key = (.error e, s)) ∨
      ∃ stored : α, (Stored.objects s).get? key = some stored ∧
        s.delete α key = (.ok (), (s.remove α key).record (.deleted stored)) := by
  unfold delete
  cases checkKind α s with
  | error e => exact .inl ⟨e, rfl⟩
  | ok _ =>
    cases hfind : s.find (α := α) key with
    | error e => exact .inl ⟨e, rfl⟩
    | ok stored => exact .inr ⟨stored, find_eq_ok.mp hfind, rfl⟩

/-- The store after a write of a status that has met an ordered conflict. -/
def overtakenStatus (α : Type) [Watched α] (s : Store) (key : ObjectKey) : Store :=
  { s with statusConflicts := s.statusConflicts - 1 }.bump α key

/-- A conflict that has been ordered is in the way of every write to an object that is stored. -/
theorem patchStatus_of_ordered {s : Store} {key : ObjectKey} {x stored : α}
    (hregistered : Watched.isRegistered α s = true) (hordered : 0 < s.statusConflicts)
    (hkey : (Stored.metadata x).HasKey key) (hstored : (Stored.objects s).get? key = some stored) :
    ∃ message, s.patchStatus x = (.error (.conflict message), s.overtakenStatus α key) := by
  have hkind : checkKind α s = .ok () := if_pos hregistered
  have hkey' : keyOf x = .ok key := keyOf_eq_ok.mpr hkey
  have hfind : s.find (α := α) key = .ok stored := find_eq_ok.mpr hstored
  refine ⟨s!"{Stored.kind α} {key.display} status was modified concurrently", ?_⟩
  simp only [patchStatus, guarded, hkind, hkey', hfind, if_pos hordered]
  rfl

theorem patchStatus_cases (s : Store) (x : α) :
    (∃ e, s.patchStatus x = (.error e, s)) ∨
      (∃ key message, (Stored.metadata x).HasKey key ∧ 0 < s.statusConflicts ∧
        s.patchStatus x = (.error (.conflict message), s.overtakenStatus α key)) ∨
      ∃ key stored, (Stored.metadata x).HasKey key ∧
        (Stored.objects s).get? key = some stored ∧
        s.patchStatus x = (.ok (s.patched stored x),
          ((s.put key (s.patched stored x)).record
            (.modified (s.patched stored x))).countStatusWrite) := by
  cases hkey : keyOf x with
  | error e =>
    refine .inl ?_
    unfold patchStatus
    rw [hkey]
    cases checkKind α s with
    | error e' => exact ⟨e', rfl⟩
    | ok _ => exact ⟨e, rfl⟩
  | ok key =>
    have hkey' := keyOf_eq_ok.mp hkey
    have hwrite := statusWrite_patchStatus (s := s) hkey'
    generalize s.patchStatus x = result at hwrite
    obtain ⟨reply, s'⟩ := result
    cases hwrite with
    | refused e => exact .inl ⟨e, rfl⟩
    | overtaken message hordered => exact .inr (.inl ⟨key, message, hkey', hordered, rfl⟩)
    | written hstored _ => exact .inr (.inr ⟨key, _, hkey', hstored, rfl⟩)

end Watched

/-! ## Config maps -/

/-- The store after a write of a config map that has met an ordered conflict. -/
def overtakenConfigMap (s : Store) (key : ObjectKey) : Store :=
  { s with configMapConflicts := s.configMapConflicts - 1 }.bump ConfigMap key

theorem meetConflict_cases {β : Type} (s : Store) (key : ObjectKey) (next : StoreResult β) :
    (∃ message, 0 < s.configMapConflicts ∧
      s.meetConflict key next = (.error (.conflict message), s.overtakenConfigMap key)) ∨
      s.meetConflict key next = next := by
  unfold meetConflict
  split
  · rename_i hordered
    exact .inl ⟨_, hordered, rfl⟩
  · exact .inr rfl

theorem createConfigMap_cases (s : Store) (c : ConfigMap) :
    (∃ e, s.createConfigMap c = (.error e, s)) ∨
      (∃ key message, c.metadata.HasKey key ∧ 0 < s.configMapConflicts ∧
        s.createConfigMap c = (.error (.conflict message), s.overtakenConfigMap key)) ∨
      ∃ key, c.metadata.HasKey key ∧ s.configMaps.get? key = none ∧
        s.createConfigMap c =
          (.ok (s.asCreated c), (s.put key (s.asCreated c)).countConfigMapWrite) := by
  unfold createConfigMap
  cases hkey : keyOf c with
  | error e => exact .inl ⟨e, rfl⟩
  | ok key =>
    dsimp only [guarded]
    rcases s.meetConflict_cases key _ with ⟨message, hordered, hmeet⟩ | hmeet
    · rw [hmeet]
      exact .inr (.inl ⟨key, message, keyOf_eq_ok.mp hkey, hordered, rfl⟩)
    · rw [hmeet]
      rcases s.insertNew_cases c with ⟨e, h⟩ | ⟨key', hkey', hfree, h⟩
      · rw [h]
        exact .inl ⟨e, rfl⟩
      · rw [h]
        exact .inr (.inr ⟨key', hkey', hfree, rfl⟩)

theorem replaceConfigMap_cases (s : Store) (c : ConfigMap) :
    (∃ e, s.replaceConfigMap c = (.error e, s)) ∨
      (∃ key message, c.metadata.HasKey key ∧ 0 < s.configMapConflicts ∧
        s.replaceConfigMap c = (.error (.conflict message), s.overtakenConfigMap key)) ∨
      ∃ key stored, c.metadata.HasKey key ∧ s.configMaps.get? key = some stored ∧
        s.replaceConfigMap c = (.ok (s.replacedConfigMap c stored),
          (s.put key (s.replacedConfigMap c stored)).countConfigMapWrite) := by
  unfold replaceConfigMap
  cases hkey : keyOf c with
  | error e => exact .inl ⟨e, rfl⟩
  | ok key =>
    cases hfind : s.find (α := ConfigMap) key with
    | error e => exact .inl ⟨e, by simp only [guarded, hfind]⟩
    | ok stored =>
      simp only [guarded, hfind]
      rcases s.meetConflict_cases key _ with ⟨message, hordered, hmeet⟩ | hmeet
      · rw [hmeet]
        exact .inr (.inl ⟨key, message, keyOf_eq_ok.mp hkey, hordered, rfl⟩)
      · rw [hmeet]
        cases hcheck : checkVersion key stored c.metadata.resourceVersion with
        | error e => exact .inl ⟨e, rfl⟩
        | ok _ => exact .inr (.inr ⟨key, stored, keyOf_eq_ok.mp hkey, find_eq_ok.mp hfind, rfl⟩)

theorem deleteConfigMap_cases (s : Store) (key : ObjectKey) (version : Option String) :
    (∃ e, s.deleteConfigMap key version = (.error e, s)) ∨
      (∃ message, 0 < s.configMapConflicts ∧
        s.deleteConfigMap key version =
          (.error (.conflict message), s.overtakenConfigMap key)) ∨
      ∃ stored, s.configMaps.get? key = some stored ∧
        s.deleteConfigMap key version =
          (.ok (), (s.remove ConfigMap key).countConfigMapWrite) := by
  unfold deleteConfigMap
  cases hfind : s.find (α := ConfigMap) key with
  | error e => exact .inl ⟨e, rfl⟩
  | ok stored =>
    dsimp only [guarded]
    rcases s.meetConflict_cases key _ with ⟨message, hordered, hmeet⟩ | hmeet
    · rw [hmeet]
      exact .inr (.inl ⟨message, hordered, rfl⟩)
    · rw [hmeet]
      cases hcheck : checkVersion key stored version with
      | error e => exact .inl ⟨e, rfl⟩
      | ok _ => exact .inr (.inr ⟨stored, find_eq_ok.mp hfind, rfl⟩)

end PoolOperator.Store
