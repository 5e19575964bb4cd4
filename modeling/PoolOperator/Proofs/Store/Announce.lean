import Mathlib.Data.List.Perm.Basic
import PoolOperator.Proofs.Store.Atomic
import PoolOperator.Proofs.Store.Kind

/-!
# What changes announce

A change of a watched object is logged if it succeeds, so that whoever hears of it can follow it with
his own collection of objects. A status write that meets an ordered conflict is the one change that
nobody is told of: it is seen in a version only.
-/

namespace PoolOperator

/-! ## What is told -/

/-- The objects that are known of once an event has been heard. -/
def WatchEvent.apply {α : Type} [Stored α] (view : SortedMap ObjectKey α) :
    WatchEvent α → SortedMap ObjectKey α
  | added x | modified x =>
    match Store.keyOf x with
    | .ok key => view.insert key x
    | .error _ => view
  | deleted x =>
    match Store.keyOf x with
    | .ok key => view.erase key
    | .error _ => view

section View

variable {α : Type} [Stored α] {key : ObjectKey} {x : α}

theorem apply_added (h : (Stored.metadata x).HasKey key) (view : SortedMap ObjectKey α) :
    WatchEvent.apply view (.added x) = view.insert key x := by
  rw [WatchEvent.apply, Store.keyOf_eq_ok.mpr h]

theorem apply_modified (h : (Stored.metadata x).HasKey key) (view : SortedMap ObjectKey α) :
    WatchEvent.apply view (.modified x) = view.insert key x := by
  rw [WatchEvent.apply, Store.keyOf_eq_ok.mpr h]

theorem apply_deleted (h : (Stored.metadata x).HasKey key) (view : SortedMap ObjectKey α) :
    WatchEvent.apply view (.deleted x) = view.erase key := by
  rw [WatchEvent.apply, Store.keyOf_eq_ok.mpr h]

/-- Two collections that are seen alike are seen alike after an event. -/
theorem map_get?_apply {β : Type} {f : α → β} {view view' : SortedMap ObjectKey α}
    (h : ∀ key, (view.get? key).map f = (view'.get? key).map f) (e : WatchEvent α)
    (key : ObjectKey) :
    ((WatchEvent.apply view e).get? key).map f = ((WatchEvent.apply view' e).get? key).map f := by
  have hinsert (key' : ObjectKey) (x : α) :
      ((view.insert key' x).get? key).map f = ((view'.insert key' x).get? key).map f := by
    rw [SortedMap.get?_insert, SortedMap.get?_insert]
    split
    · rfl
    · exact h key
  cases e with
  | added x | modified x =>
    simp only [WatchEvent.apply]
    split
    · exact hinsert _ x
    · exact h key
  | deleted x =>
    simp only [WatchEvent.apply]
    split
    · rw [SortedMap.get?_erase, SortedMap.get?_erase]
      split
      · rfl
      · exact h key
    · exact h key

/-- A replay of all objects of a collection in the order of their keys gives the collection. -/
theorem foldl_apply_values {m : SortedMap ObjectKey α}
    (hkeys : ∀ key x, m.get? key = some x → (Stored.metadata x).HasKey key) :
    (m.values.map WatchEvent.added).foldl WatchEvent.apply ∅ = m := by
  have hentries : ∀ entries : List (ObjectKey × α),
      (∀ entry ∈ entries, (Stored.metadata entry.2).HasKey entry.1) →
        ∀ view : SortedMap ObjectKey α,
          ((entries.map (·.2)).map WatchEvent.added).foldl WatchEvent.apply view =
            entries.foldl (fun view entry => view.insert entry.1 entry.2) view := by
    intro entries
    induction entries with
    | nil => exact fun _ _ => rfl
    | cons entry entries ih =>
      intro h view
      obtain ⟨hentry, hrest⟩ := List.forall_mem_cons.mp h
      simp only [List.map_cons, List.foldl_cons, apply_added hentry]
      exact ih hrest _
  rw [SortedMap.values, hentries m.entries ?_ ∅]
  · exact m.ofList_entries
  · intro entry hentry
    exact hkeys entry.1 entry.2 (SortedMap.get?_eq_some_iff.mpr hentry)

/-- A replay in any other order gives it as well. -/
theorem foldl_apply_perm {m : SortedMap ObjectKey α} {xs : List α} (hperm : xs.Perm m.values)
    (hkeys : ∀ key x, m.get? key = some x → (Stored.metadata x).HasKey key) :
    (xs.map WatchEvent.added).foldl WatchEvent.apply ∅ = m := by
  refine ((hperm.map WatchEvent.added).foldl_eq' ?_ ∅).trans (foldl_apply_values hkeys)
  intro e he e' he' view
  obtain ⟨x, hx, rfl⟩ := List.mem_map.mp he
  obtain ⟨y, hy, rfl⟩ := List.mem_map.mp he'
  obtain ⟨key, hfound⟩ := SortedMap.mem_values_iff.mp (hperm.subset hx)
  obtain ⟨key', hfound'⟩ := SortedMap.mem_values_iff.mp (hperm.subset hy)
  simp only [apply_added (hkeys key x hfound), apply_added (hkeys key' y hfound')]
  by_cases hsame : key = key'
  · -- under one key there is one object
    subst hsame
    rw [hfound] at hfound'
    cases hfound'
    rfl
  · exact view.insert_comm hsame x y

end View

/-! ## Changes of one kind -/

/-- A change of the objects of one kind. -/
inductive KindEdit (α : Type) where
  | add (x : α)
  | create (x : α)
  | replace (x : α)
  | patchStatus (x : α)
  | delete (key : ObjectKey)

namespace Store

/-- What comes of a change of the objects of a kind. Success is told as an event. -/
def change {α : Type} [Watched α] (s : Store) : KindEdit α → StoreResult (WatchEvent α)
  | .add x => Prod.map (·.map .added) id (s.add x)
  | .create x => Prod.map (·.map .added) id (s.create x)
  | .replace x => Prod.map (·.map .modified) id (s.replace x)
  | .patchStatus x => Prod.map (·.map .modified) id (s.patchStatus x)
  | .delete key =>
    Prod.map (fun reply => reply.bind fun _ => (s.find key).map .deleted) id (s.delete α key)

/-- Whether a change of the objects of a kind uses up an ordered conflict. -/
def meetsConflict {α : Type} [Watched α] (s : Store) : KindEdit α → Bool
  | .patchStatus x => (s.patchStatus x).2.statusConflicts < s.statusConflicts
  | _ => false

/-- Whether two stores do not differ in what a watch of a kind tells. -/
structure Unheard (α : Type) [Watched α] (s s' : Store) : Prop where
  objects : Stored.objects (α := α) s' = Stored.objects s
  events : Watched.events (α := α) s' = Watched.events s

section Unheard

variable {s s' : Store}

theorem Unheard.refl (α : Type) [Watched α] (s : Store) : Unheard α s s := ⟨rfl, rfl⟩

theorem ConfigMapsOnly.unheard_pools (h : s.ConfigMapsOnly s') : Unheard AddressPool s s' := by
  obtain ⟨_, _, _, _, rfl⟩ := h
  exact ⟨rfl, rfl⟩

theorem ConfigMapsOnly.unheard_instances (h : s.ConfigMapsOnly s') : Unheard Instance s s' := by
  obtain ⟨_, _, _, _, rfl⟩ := h
  exact ⟨rfl, rfl⟩

theorem PoolsOnly.unheard (h : s.PoolsOnly s') : Unheard Instance s s' :=
  ⟨h.instances, h.instanceEvents⟩

theorem InstancesOnly.unheard (h : s.InstancesOnly s') : Unheard AddressPool s s' :=
  ⟨h.pools, h.poolEvents⟩

end Unheard

/-- A kind of objects that a watch can follow. -/
class Followed (α : Type) [Watched α] [WatchedPlaced α] where
  /-- The change of objects of the kind that is made from outside, if one is made. -/
  kindEdit? : StoreEdit → Option (KindEdit α)
  edit_eq (s : Store) {e : StoreEdit} {k : KindEdit α} (h : kindEdit? e = some k) :
    s.edit e = (s.change k).2 ∧ s.outcome e = (s.change k).1.map fun _ => ()
  unheard (s : Store) {e : StoreEdit} (h : kindEdit? e = none) : Unheard α s (s.edit e)
  unheard_noted (s : Store) (conflicts count : Nat) :
    Unheard α s { s with statusConflicts := conflicts, statusWrites := count }
  objects_record (s : Store) (e : WatchEvent α) :
    Stored.objects (α := α) (s.record e) = Stored.objects s
  events_record (s : Store) (e : WatchEvent α) : Watched.events (s.record e) = e :: Watched.events s
  events_put (s : Store) (key : ObjectKey) (x : α) :
    Watched.events (α := α) (s.put key x) = Watched.events s
  events_remove (s : Store) (key : ObjectKey) :
    Watched.events (α := α) (s.remove α key) = Watched.events s
  statusConflicts_put (s : Store) (key : ObjectKey) (x : α) :
    (s.put key x).statusConflicts = s.statusConflicts
  withMetadata_withMetadata (x : α) (md md' : ObjectMeta) :
    Stored.withMetadata (Stored.withMetadata x md) md' = Stored.withMetadata x md'

/-- The event of a reply says whether the reply is a success. -/
theorem map_map_unit {ε β γ : Type} {f : β → γ} (reply : Except ε β) :
    reply.map (fun _ => ()) = (reply.map f).map fun _ => () := by
  cases reply with
  | error => rfl
  | ok => rfl

theorem outcome_delete {α : Type} [Watched α] (s : Store) (key : ObjectKey) :
    (s.delete α key).1.map (fun _ => ()) =
      (s.change (.delete key : KindEdit α)).1.map fun _ => () := by
  simp only [change]
  rcases s.delete_cases (α := α) key with ⟨e, h⟩ | ⟨stored, hstored, h⟩
  · rw [h]
    rfl
  · rw [h, find_eq_ok.mpr hstored]
    rfl

instance : Followed AddressPool where
  kindEdit?
    | .addPool p => some (.add p)
    | .call (.createPool p) => some (.create p)
    | .call (.replacePool p) => some (.replace p)
    | .call (.patchPoolStatus p) => some (.patchStatus p)
    | .call (.deletePool key) => some (.delete key)
    | _ => none
  edit_eq s e k h := by
    split at h <;> cases h
    · exact ⟨rfl, map_map_unit _⟩
    · exact ⟨rfl, map_map_unit _⟩
    · exact ⟨rfl, map_map_unit _⟩
    · exact ⟨rfl, map_map_unit _⟩
    · exact ⟨rfl, s.outcome_delete _⟩
  unheard s e h := by
    have hinstances := s.keptBeside_instancesOnly
    cases e with
    | addPool => cases h
    | addConfigMap c => exact (s.configMapsOnly_insertNew c).unheard_pools
    | addInstance i => exact (hinstances.add (.refl s) i).unheard
    | orderConfigMapConflicts | orderStatusConflicts | setPoolKind | setInstanceKind =>
      exact ⟨rfl, rfl⟩
    | call call =>
      cases call with
      | listPools | getPool | getConfigMap | listInstances | getInstance => exact .refl _ s
      | createPool | replacePool | patchPoolStatus | deletePool => cases h
      | createConfigMap c => exact (s.configMapsOnly_createConfigMap c).unheard_pools
      | replaceConfigMap c => exact (s.configMapsOnly_replaceConfigMap c).unheard_pools
      | deleteConfigMap key version =>
        exact (s.configMapsOnly_deleteConfigMap key version).unheard_pools
      | createInstance i => exact (hinstances.create (.refl s) i).unheard
      | deleteInstance key => exact (hinstances.delete (.refl s) key).unheard
      | patchInstanceStatus i => exact (hinstances.patchStatus (.refl s) i).unheard
  unheard_noted _ _ _ := ⟨rfl, rfl⟩
  objects_record _ _ := rfl
  events_record _ _ := rfl
  events_put _ _ _ := rfl
  events_remove _ _ := rfl
  statusConflicts_put _ _ _ := rfl
  withMetadata_withMetadata _ _ _ := rfl

instance : Followed Instance where
  kindEdit?
    | .addInstance i => some (.add i)
    | .call (.createInstance i) => some (.create i)
    | .call (.patchInstanceStatus i) => some (.patchStatus i)
    | .call (.deleteInstance key) => some (.delete key)
    | _ => none
  edit_eq s e k h := by
    split at h <;> cases h
    · exact ⟨rfl, map_map_unit _⟩
    · exact ⟨rfl, map_map_unit _⟩
    · exact ⟨rfl, map_map_unit _⟩
    · exact ⟨rfl, s.outcome_delete _⟩
  unheard s e h := by
    cases e with
    | addInstance => cases h
    | addConfigMap c => exact (s.configMapsOnly_insertNew c).unheard_instances
    | addPool p => exact (s.poolsOnly_add p).unheard
    | orderConfigMapConflicts | orderStatusConflicts | setPoolKind | setInstanceKind =>
      exact ⟨rfl, rfl⟩
    | call call =>
      cases call with
      | listPools | getPool | getConfigMap | listInstances | getInstance => exact .refl _ s
      | createInstance | patchInstanceStatus | deleteInstance => cases h
      | createConfigMap c => exact (s.configMapsOnly_createConfigMap c).unheard_instances
      | replaceConfigMap c => exact (s.configMapsOnly_replaceConfigMap c).unheard_instances
      | deleteConfigMap key version =>
        exact (s.configMapsOnly_deleteConfigMap key version).unheard_instances
      | createPool p => exact (s.poolsOnly_create p).unheard
      | replacePool p => exact (s.poolsOnly_replace p).unheard
      | deletePool key => exact (s.poolsOnly_delete key).unheard
      | patchPoolStatus p => exact (s.poolsOnly_patchStatus p).unheard
  unheard_noted _ _ _ := ⟨rfl, rfl⟩
  objects_record _ _ := rfl
  events_record _ _ := rfl
  events_put _ _ _ := rfl
  events_remove _ _ := rfl
  statusConflicts_put _ _ _ := rfl
  withMetadata_withMetadata _ _ _ := rfl

/-! ## What a change tells -/

/-- What a change from outside tells a watch of a kind. -/
def announced? (α : Type) [Watched α] [WatchedPlaced α] [Followed α] (s : Store) (e : StoreEdit) :
    Option (WatchEvent α) :=
  (Followed.kindEdit? (α := α) e).bind fun k => (s.change k).1.toOption

/-- What changes that are made one after another tell a watch of a kind. -/
def announcements (α : Type) [Watched α] [WatchedPlaced α] [Followed α] :
    Store → List StoreEdit → List (WatchEvent α)
  | _, [] => []
  | s, e :: es => (s.announced? α e).toList ++ announcements α (s.edit e) es

/-- Whether a change of objects of a kind uses up an ordered conflict. -/
def isOvertaken (α : Type) [Watched α] [WatchedPlaced α] [Followed α] (s : Store) (e : StoreEdit) :
    Bool :=
  (Followed.kindEdit? (α := α) e).any s.meetsConflict

/-- How many changes of objects of a kind use up an ordered conflict. -/
def conflictsMet (α : Type) [Watched α] [WatchedPlaced α] [Followed α] :
    Store → List StoreEdit → Nat
  | _, [] => 0
  | s, e :: es => (s.isOvertaken α e).toNat + conflictsMet α (s.edit e) es

/-- What a change does to the objects of a kind, and what it tells of it. A conflict is all that
nothing is told of. -/
inductive Effect {α : Type} [Watched α] (s s' : Store) (isOvertaken : Bool) :
    Option (WatchEvent α) → Prop where
  | unheard (h : Unheard α s s') : Effect s s' isOvertaken none
  | overtaken (hmet : isOvertaken = true) (key : ObjectKey)
      (hobjects : ∀ key', (Stored.objects (α := α) s').get? key' =
        if key' = key then ((Stored.objects s).get? key).map fun x => withVersion x s.nextVersion
        else (Stored.objects s).get? key')
      (hevents : Watched.events (α := α) s' = Watched.events s) : Effect s s' isOvertaken none
  | told (e : WatchEvent α) (hobjects : Stored.objects s' = WatchEvent.apply (Stored.objects s) e)
      (hevents : Watched.events s' = e :: Watched.events s) : Effect s s' isOvertaken (some e)

section Effect

variable {α : Type} [Watched α] [WatchedPlaced α] [Followed α] {s : Store} {key : ObjectKey}
  {x stored : α} {isOvertaken : Bool}

omit [Followed α] in
theorem hasKey_asCreated (h : (Stored.metadata x).HasKey key) :
    (Stored.metadata (s.asCreated x)).HasKey key := by
  rw [asCreated, Placed.metadata_withMetadata]
  exact h

omit [Followed α] in
theorem hasKey_asReplaced (h : (Stored.metadata x).HasKey key) :
    (Stored.metadata (s.asReplaced x stored)).HasKey key := by
  rw [asReplaced, Placed.metadata_withMetadata]
  exact h

omit [Followed α] in
theorem hasKey_patched (h : (Stored.metadata stored).HasKey key) :
    (Stored.metadata (s.patched stored x)).HasKey key := by
  rw [patched, withVersion, Placed.metadata_withMetadata, WatchedPlaced.metadata_withStatus]
  exact h

omit [WatchedPlaced α] [Followed α] in
theorem Effect.trans {s' s'' : Store} {e : WatchEvent α} (h : Effect s s' isOvertaken (some e))
    (h' : Unheard α s' s'') : Effect s s'' isOvertaken (some e) := by
  cases h with
  | told _ hobjects hevents => exact .told e (h'.objects.trans hobjects) (h'.events.trans hevents)

/-- An object is put under its key, and an event is logged that says so. -/
theorem effect_put {e : WatchEvent α} (h : ∀ view, WatchEvent.apply view e = view.insert key x) :
    Effect s ((s.put key x).record e) isOvertaken (some e) := by
  refine .told e ?_ ?_
  · rw [Followed.objects_record, objects_put, h]
  · rw [Followed.events_record, Followed.events_put]

theorem effect_remove (h : (Stored.metadata stored).HasKey key) :
    Effect s ((s.remove α key).record (.deleted stored)) isOvertaken (some (.deleted stored)) := by
  refine .told _ ?_ ?_
  · rw [Followed.objects_record, remove, Placed.objects_withObjects, apply_deleted h]
  · rw [Followed.events_record, Followed.events_remove]

/-- A status write that meets an ordered conflict leaves another version, and one conflict less. -/
theorem effect_overtakenStatus (key : ObjectKey) (hordered : 0 < s.statusConflicts) :
    Effect (α := α) s (s.overtakenStatus α key)
      (decide ((s.overtakenStatus α key).statusConflicts < s.statusConflicts)) none := by
  have hnoted : Unheard α s { s with statusConflicts := s.statusConflicts - 1 } :=
    Followed.unheard_noted s (s.statusConflicts - 1) s.statusWrites
  have hconflicts : (s.overtakenStatus α key).statusConflicts = s.statusConflicts - 1 :=
    of_bump (P := fun s' => s'.statusConflicts = s.statusConflicts - 1) rfl
      fun y => Followed.statusConflicts_put _ key y
  have hevents : Watched.events (α := α) (s.overtakenStatus α key) = Watched.events s :=
    of_bump (P := fun s' => Watched.events (α := α) s' = Watched.events s) hnoted.events
      fun y => (Followed.events_put _ key y).trans hnoted.events
  refine .overtaken (decide_eq_true ?_) key (fun key' => ?_) hevents
  · omega
  · rw [overtakenStatus, get?_objects_bump, hnoted.objects]

theorem effect_add (s : Store) (x : α) :
    Effect s (s.change (.add x)).2 isOvertaken (s.change (.add x)).1.toOption := by
  simp only [change]
  rcases s.add_cases x with ⟨e, h⟩ | ⟨key, hkey, -, h⟩
  · rw [h]
    exact .unheard (.refl α s)
  · rw [h]
    exact effect_put (apply_added (hasKey_asCreated hkey))

theorem effect_change (hs : s.Keyed) (k : KindEdit α) :
    Effect s (s.change k).2 (s.meetsConflict k) (s.change k).1.toOption := by
  cases k with
  | add x => exact s.effect_add x
  | create x =>
    simp only [change]
    rcases s.create_cases x with ⟨e, h⟩ | h
    · rw [h]
      exact .unheard (.refl α s)
    · rw [h]
      exact s.effect_add x
  | replace x =>
    simp only [change]
    rcases s.replace_cases x with ⟨e, h⟩ | ⟨key, stored, hkey, -, h⟩
    · rw [h]
      exact .unheard (.refl α s)
    · rw [h]
      exact effect_put (apply_modified (hasKey_asReplaced hkey))
  | patchStatus x =>
    simp only [change, meetsConflict]
    rcases s.patchStatus_cases x with ⟨e, h⟩ | ⟨key, message, hkey, hordered, h⟩ |
      ⟨key, stored, hkey, hstored, h⟩
    · rw [h]
      exact .unheard (.refl α s)
    · rw [h]
      exact s.effect_overtakenStatus key hordered
    · rw [h]
      have hput : Effect s _ (s.meetsConflict (.patchStatus x)) _ := effect_put
        (apply_modified (hasKey_patched (s := s) (x := x) (hs.hasKey hstored)))
      rw [meetsConflict, h] at hput
      exact hput.trans (Followed.unheard_noted _ _ _)
  | delete key =>
    simp only [change]
    rcases s.delete_cases (α := α) key with ⟨e, h⟩ | ⟨stored, hstored, h⟩
    · rw [h]
      exact .unheard (.refl α s)
    · rw [h, find_eq_ok.mpr hstored]
      exact effect_remove (hs.hasKey hstored)

theorem effect_edit (hs : s.Keyed) (e : StoreEdit) :
    Effect s (s.edit e) (s.isOvertaken α e) (s.announced? α e) := by
  unfold Store.isOvertaken announced?
  cases hkind : Followed.kindEdit? (α := α) e with
  | none => exact .unheard (Followed.unheard s hkind)
  | some k =>
    rw [(Followed.edit_eq s hkind).1]
    exact effect_change hs k

/-- A change that fails is not told of. -/
theorem announced?_of_error {e : StoreEdit} {error : StoreError} (h : s.outcome e = .error error) :
    s.announced? α e = none := by
  unfold announced?
  cases hkind : Followed.kindEdit? (α := α) e with
  | none => rfl
  | some k =>
    rw [(Followed.edit_eq s hkind).2] at h
    rw [Option.bind_some]
    cases hreply : (s.change k).1 with
    | error => rfl
    | ok event =>
      rw [hreply] at h
      cases h

/-- Just what is announced is logged. -/
theorem events_edit (hs : s.Keyed) (e : StoreEdit) : Watched.events (s.edit e) =
    (s.announced? α e).toList.reverse ++ Watched.events s := by
  have heffect := effect_edit (α := α) hs e
  generalize s.announced? α e = announced at heffect ⊢
  cases heffect with
  | unheard h => exact h.events
  | overtaken _ _ _ hevents => exact hevents
  | told event _ hevents => exact hevents

theorem announcements_append (es : List StoreEdit) (e : StoreEdit) : ∀ s : Store,
    announcements α s (es ++ [e]) =
      announcements α s es ++ ((s.edits es).announced? α e).toList := by
  induction es with
  | nil => exact fun _ => List.append_nil _
  | cons e' es ih =>
    intro s
    rw [List.cons_append, announcements, announcements, ih, edits_cons, List.append_assoc]

theorem events_edits (es : List StoreEdit) : ∀ {s : Store}, s.Keyed →
    Watched.events (s.edits es) = (announcements α s es).reverse ++ Watched.events s := by
  induction es with
  | nil => exact fun _ => rfl
  | cons e es ih =>
    intro s hs
    rw [edits_cons, ih (hs.changes (changes_edit hs e)), events_edit hs e, announcements,
      List.reverse_append, List.append_assoc]

/-- Whoever sees the objects of a store, as far as he looks at them, sees them after a change that he
hears of. -/
theorem shows_edit {β : Type} {f : α → β} {view : SortedMap ObjectKey α} (hs : s.Keyed)
    (h : ∀ key, (view.get? key).map f = ((Stored.objects s).get? key).map f) (e : StoreEdit)
    (hmet : s.isOvertaken α e = true → ∀ x v, f (withVersion x v) = f x) (key : ObjectKey) :
    (((s.announced? α e).toList.foldl WatchEvent.apply view).get? key).map f =
      ((Stored.objects (s.edit e)).get? key).map f := by
  have heffect := effect_edit (α := α) hs e
  generalize s.announced? α e = announced at heffect ⊢
  cases heffect with
  | unheard heq =>
    rw [heq.objects]
    exact h key
  | overtaken hovertaken key' hobjects _ =>
    rw [hobjects]
    split
    · rename_i heq
      rw [heq, Option.map_map]
      refine (h key').trans ?_
      congr 1
      funext x
      exact (hmet hovertaken x s.nextVersion).symm
    · exact h key
  | told event hobjects _ =>
    rw [hobjects]
    exact map_get?_apply h event key

theorem shows_edits {β : Type} {f : α → β} (es : List StoreEdit) :
    ∀ {s : Store} {view : SortedMap ObjectKey α}, s.Keyed →
      (∀ key, (view.get? key).map f = ((Stored.objects s).get? key).map f) →
      (conflictsMet α s es ≠ 0 → ∀ x v, f (withVersion x v) = f x) → ∀ key,
        (((announcements α s es).foldl WatchEvent.apply view).get? key).map f =
          ((Stored.objects (s.edits es)).get? key).map f := by
  induction es with
  | nil => exact fun _ h _ => h
  | cons e es ih =>
    intro s view hs h hmet
    rw [announcements, List.foldl_append, edits_cons]
    refine ih (hs.changes (changes_edit hs e)) (shows_edit hs h e fun hovertaken => hmet ?_)
      fun hlater => hmet ?_
    · rw [conflictsMet, hovertaken]
      exact Nat.ne_of_gt (Nat.add_pos_left Nat.one_pos _)
    · rw [conflictsMet]
      omega

end Effect

end Store

end PoolOperator
