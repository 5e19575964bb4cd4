import PoolOperator.Proofs.Store.Change

/-!
# Calls about one kind

Calls about pools leave config maps and instances alone, and calls about instances leave pools and
config maps alone, whatever comes of them.
-/

namespace PoolOperator.Store

/-! ## What a call keeps -/

/-- Whether a condition on stores is kept whatever objects of a kind are stored and whatever is
logged and counted, and when an ordered conflict is used up. -/
structure KeptBeside (α : Type) [Watched α] (P : Store → Prop) : Prop where
  withObjects {s : Store} (h : P s) (objects : SortedMap ObjectKey α) :
    P (Stored.withObjects s objects)
  withEvents {s : Store} (h : P s) (events : List (WatchEvent α)) : P (Watched.withEvents s events)
  nextVersion {s : Store} (h : P s) (version : Nat) : P { s with nextVersion := version }
  statusWrites {s : Store} (h : P s) (count : Nat) : P { s with statusWrites := count }
  statusConflicts {s : Store} (h : P s) (count : Nat) (hless : count ≤ s.statusConflicts) :
    P { s with statusConflicts := count }

namespace KeptBeside

variable {α : Type} [Watched α] {P : Store → Prop} {s : Store}

theorem put (hP : KeptBeside α P) (h : P s) (key : ObjectKey) (x : α) : P (s.put key x) :=
  hP.nextVersion (hP.withObjects h _) _

theorem bump (hP : KeptBeside α P) (h : P s) (key : ObjectKey) : P (s.bump α key) := by
  unfold Store.bump
  split
  · exact hP.put h key _
  · exact h

theorem add (hP : KeptBeside α P) (h : P s) (x : α) : P (s.add x).2 := by
  refine add_snd (guarded_snd h fun key _ => ?_) fun s' e h' => hP.withEvents h' _
  split
  · exact h
  · exact hP.put h key _

theorem create (hP : KeptBeside α P) (h : P s) (x : α) : P (s.create x).2 :=
  guarded_snd h fun _ _ => hP.add h x

theorem replace (hP : KeptBeside α P) (h : P s) (x : α) : P (s.replace x).2 :=
  guarded_snd h fun _ _ => guarded_snd h fun _ _ => guarded_snd h fun _ _ =>
    guarded_snd h fun _ _ => hP.withEvents (hP.put h _ _) _

theorem delete (hP : KeptBeside α P) (h : P s) (key : ObjectKey) : P (s.delete α key).2 :=
  guarded_snd h fun _ _ => guarded_snd h fun _ _ => hP.withEvents (hP.withObjects h _) _

theorem patchStatus (hP : KeptBeside α P) (h : P s) (x : α) : P (s.patchStatus x).2 := by
  refine guarded_snd h fun _ _ => guarded_snd h fun _ _ => guarded_snd h fun _ _ => ?_
  split
  · exact hP.bump (hP.statusConflicts h _ (Nat.sub_le _ _)) _
  · exact guarded_snd h fun _ _ => hP.statusWrites (hP.withEvents (hP.put h _ _) _) _

end KeptBeside

variable {s s' : Store}

/-! ## Pools -/

/-- Whether two stores differ in pools only, and in what is counted and logged for them. -/
structure PoolsOnly (s s' : Store) : Prop where
  configMaps : s'.configMaps = s.configMaps
  instances : s'.instances = s.instances
  instanceEvents : s'.instanceEvents = s.instanceEvents
  hasPoolKind : s'.hasPoolKind = s.hasPoolKind
  hasInstanceKind : s'.hasInstanceKind = s.hasInstanceKind
  configMapConflicts : s'.configMapConflicts = s.configMapConflicts
  configMapWrites : s'.configMapWrites = s.configMapWrites
  statusConflicts : s'.statusConflicts ≤ s.statusConflicts

theorem PoolsOnly.refl (s : Store) : s.PoolsOnly s :=
  ⟨rfl, rfl, rfl, rfl, rfl, rfl, rfl, Nat.le_refl _⟩

theorem keptBeside_poolsOnly (s : Store) : KeptBeside AddressPool s.PoolsOnly where
  withObjects h _ := { h with }
  withEvents h _ := { h with }
  nextVersion h _ := { h with }
  statusWrites h _ := { h with }
  statusConflicts h _ hless := { h with statusConflicts := Nat.le_trans hless h.statusConflicts }

theorem poolsOnly_add (s : Store) (p : AddressPool) : s.PoolsOnly (s.add p).2 :=
  s.keptBeside_poolsOnly.add (.refl s) p

theorem poolsOnly_create (s : Store) (p : AddressPool) : s.PoolsOnly (s.create p).2 :=
  s.keptBeside_poolsOnly.create (.refl s) p

theorem poolsOnly_replace (s : Store) (p : AddressPool) : s.PoolsOnly (s.replace p).2 :=
  s.keptBeside_poolsOnly.replace (.refl s) p

theorem poolsOnly_delete (s : Store) (key : ObjectKey) :
    s.PoolsOnly (s.delete AddressPool key).2 :=
  s.keptBeside_poolsOnly.delete (.refl s) key

theorem poolsOnly_patchStatus (s : Store) (p : AddressPool) : s.PoolsOnly (s.patchStatus p).2 :=
  s.keptBeside_poolsOnly.patchStatus (.refl s) p

/-! ## Instances -/

/-- Whether two stores differ in instances only, and in what is counted and logged for them. -/
structure InstancesOnly (s s' : Store) : Prop where
  pools : s'.pools = s.pools
  configMaps : s'.configMaps = s.configMaps
  poolEvents : s'.poolEvents = s.poolEvents
  hasPoolKind : s'.hasPoolKind = s.hasPoolKind
  hasInstanceKind : s'.hasInstanceKind = s.hasInstanceKind
  configMapConflicts : s'.configMapConflicts = s.configMapConflicts
  configMapWrites : s'.configMapWrites = s.configMapWrites
  statusConflicts : s'.statusConflicts ≤ s.statusConflicts

theorem InstancesOnly.refl (s : Store) : s.InstancesOnly s :=
  ⟨rfl, rfl, rfl, rfl, rfl, rfl, rfl, Nat.le_refl _⟩

theorem keptBeside_instancesOnly (s : Store) : KeptBeside Instance s.InstancesOnly where
  withObjects h _ := { h with }
  withEvents h _ := { h with }
  nextVersion h _ := { h with }
  statusWrites h _ := { h with }
  statusConflicts h _ hless := { h with statusConflicts := Nat.le_trans hless h.statusConflicts }

end PoolOperator.Store
