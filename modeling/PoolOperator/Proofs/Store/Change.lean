import Mathlib.Logic.Relation
import PoolOperator.Proofs.Store.Place
import PoolOperator.Store.Answer

/-!
# What a store can do

Whatever is asked of a store, its objects change in few ways: one object is put under its own key,
in a version that is used up by this, or one is removed. So what these changes keep holds in every
store that is reached from an empty one.
-/

namespace PoolOperator

/-! ## Keys and versions -/

/-- Whether metadata names a key. -/
def ObjectMeta.HasKey (md : ObjectMeta) (key : ObjectKey) : Prop :=
  md.ns = some key.ns ∧ md.name = some key.name

theorem ObjectMeta.HasKey.eq {md : ObjectMeta} {key key' : ObjectKey} (h : md.HasKey key)
    (h' : md.HasKey key') : key = key' := by
  have hns : key.ns = key'.ns := Option.some.inj (h.1.symm.trans h'.1)
  have hname : key.name = key'.name := Option.some.inj (h.2.symm.trans h'.2)
  cases key
  cases key'
  cases hns
  cases hname
  rfl

/-- Whether a call may remove an object. -/
def StoreCall.IsDelete : StoreCall → Prop
  | deletePool _ | deleteConfigMap .. | deleteInstance _ => True
  | _ => False

namespace Store

theorem keyOf_eq_ok {α : Type} [Stored α] {x : α} {key : ObjectKey} :
    keyOf x = .ok key ↔ (Stored.metadata x).HasKey key := by
  unfold keyOf ObjectMeta.HasKey
  constructor
  · intro h
    split at h
    · rename_i ns name hns hname
      cases h
      exact ⟨hns, hname⟩
    · cases h
  · rintro ⟨hns, hname⟩
    rw [hns, hname]

theorem checkVersion_eq_ok {α : Type} [Stored α] {key : ObjectKey} {stored : α}
    {version : Option String} : checkVersion key stored version = .ok () ↔
      version = none ∨ version = (Stored.metadata stored).resourceVersion := by
  unfold checkVersion
  cases version with
  | none => exact iff_of_true rfl (.inl rfl)
  | some version =>
    dsimp only
    split
    · rename_i heq
      exact iff_of_true rfl (.inr heq.symm)
    · rename_i hne
      refine iff_of_false nofun ?_
      rintro (h | h)
      · cases h
      · exact hne h.symm

theorem checkVersion_self {α : Type} [Stored α] (key : ObjectKey) (x : α) :
    checkVersion key x (Stored.metadata x).resourceVersion = .ok () :=
  checkVersion_eq_ok.mpr (.inr rfl)

/-- A write based on another version than the stored one is a conflict. -/
theorem checkVersion_cases {α : Type} [Stored α] (key : ObjectKey) (stored : α)
    (expected : Option String) :
    checkVersion key stored expected = .ok () ∨
      ∃ message, checkVersion key stored expected = .error (.conflict message) := by
  unfold checkVersion
  cases expected with
  | none => exact .inl rfl
  | some version =>
    dsimp only
    split
    · exact .inl rfl
    · exact .inr ⟨_, rfl⟩

/-! ## Changes -/

/-- Whether a store differs from an earlier one in an object that has been put at a place, under its
own key and in the version that was due. -/
structure Puts (s : Store) (place : Place) (x : AnyObject) (s' : Store) : Prop where
  hasKey : x.metadata.HasKey place.key
  version : x.metadata.resourceVersion = some (toString s.nextVersion)
  at? (place' : Place) : s'.at? place' = if place' = place then some x else s.at? place'
  next : s'.nextVersion = s.nextVersion + 1

/-- What an object that is put at a place comes from: from nowhere, so that it gets a uid of its own,
or from the object that was there. -/
inductive Origin (s : Store) (place : Place) (x : AnyObject) : Prop where
  | new (hfree : s.at? place = none) (huid : x.metadata.uid = some s!"uid-{s.nextVersion}")
      (hgeneration : x.metadata.generation = some 1)
  | stored {y : AnyObject} (hstored : s.at? place = some y)
      (huid : x.metadata.uid = y.metadata.uid)
      (hgeneration : x.metadata.generation = y.metadata.generation ∨
        x.metadata.generation = some (y.metadata.generation.getD 0 + 1))

/-- One write of an object, or a change of what is noted beside the objects. -/
inductive Write (s s' : Store) : Prop where
  | put {place : Place} {x : AnyObject} (hput : s.Puts place x s') (horigin : s.Origin place x)
  | noted (hat : ∀ place, s'.at? place = s.at? place) (hnext : s'.nextVersion = s.nextVersion)

/-- One change of the objects of a store, or of what is noted beside them. -/
inductive Change (s s' : Store) : Prop where
  | write (h : Write s s')
  | remove (place : Place)
      (hat : ∀ place', s'.at? place' = if place' = place then none else s.at? place')
      (hnext : s'.nextVersion = s.nextVersion)

/-- After a change an object is at its place that has been put there, or there are no others than
before. -/
theorem Change.cases {s s' : Store} (h : Change s s') :
    (∃ place x, s.Puts place x s' ∧ s.Origin place x) ∨
      (∀ place x, s'.at? place = some x → s.at? place = some x) ∧
        s'.nextVersion = s.nextVersion := by
  cases h with
  | write h =>
    cases h with
    | put hput horigin => exact .inl ⟨_, _, hput, horigin⟩
    | noted hat hnext => exact .inr ⟨fun place x hx => by rwa [hat] at hx, hnext⟩
  | remove place hat hnext =>
    refine .inr ⟨fun place' x hx => ?_, hnext⟩
    rw [hat] at hx
    split at hx
    · cases hx
    · exact hx

/-- Any number of writes. -/
abbrev Writes : Store → Store → Prop := Relation.ReflTransGen Write

/-- Any number of changes. -/
abbrev Changes : Store → Store → Prop := Relation.ReflTransGen Change

theorem Writes.changes {s s' : Store} (h : Writes s s') : Changes s s' :=
  Relation.ReflTransGen.mono (fun _ _ => Change.write) s s' h

/-- Every object is stored under the key that its metadata names. -/
structure Keyed (s : Store) : Prop where
  pools : ∀ {key : ObjectKey} {p : AddressPool}, s.pools.get? key = some p → p.metadata.HasKey key
  configMaps : ∀ {key : ObjectKey} {c : ConfigMap}, s.configMaps.get? key = some c →
    c.metadata.HasKey key
  instances : ∀ {key : ObjectKey} {i : Instance}, s.instances.get? key = some i →
    i.metadata.HasKey key

theorem keyed_empty : ({} : Store).Keyed := ⟨nofun, nofun, nofun⟩

/-- The same of all places at once. -/
theorem keyed_iff {s : Store} : s.Keyed ↔
    ∀ place x, s.at? place = some x → x.metadata.HasKey place.key := by
  constructor
  · rintro hs ⟨kind, key⟩ x hx
    cases kind with
    | pools =>
      obtain ⟨p, hp, rfl⟩ := Option.map_eq_some_iff.mp hx
      exact hs.pools hp
    | configMaps =>
      obtain ⟨c, hc, rfl⟩ := Option.map_eq_some_iff.mp hx
      exact hs.configMaps hc
    | instances =>
      obtain ⟨i, hi, rfl⟩ := Option.map_eq_some_iff.mp hx
      exact hs.instances hi
  · intro h
    refine ⟨?_, ?_, ?_⟩
    · intro key p hp
      exact h (placeOf AddressPool key) _ (at?_eq_some.mpr hp)
    · intro key c hc
      exact h (placeOf ConfigMap key) _ (at?_eq_some.mpr hc)
    · intro key i hi
      exact h (placeOf Instance key) _ (at?_eq_some.mpr hi)

theorem Keyed.hasKey {α : Type} [Stored α] [Placed α] {s : Store} (hs : s.Keyed) {key : ObjectKey}
    {x : α} (h : (Stored.objects s).get? key = some x) : (Stored.metadata x).HasKey key := by
  rw [← Placed.metadata_ofStored]
  exact keyed_iff.mp hs _ _ (at?_eq_some.mpr h)

/-- Changes keep objects under their keys. -/
theorem Keyed.change {s s' : Store} (hs : s.Keyed) (h : Change s s') : s'.Keyed := by
  have hold := keyed_iff.mp hs
  refine keyed_iff.mpr fun place' y hy => ?_
  rcases h.cases with ⟨place, x, hput, -⟩ | ⟨hkept, -⟩
  · rw [hput.at?] at hy
    split at hy
    · rename_i heq
      cases hy
      rw [heq]
      exact hput.hasKey
    · exact hold place' y hy
  · exact hold place' y (hkept place' y hy)

theorem Keyed.changes {s s' : Store} (hs : s.Keyed) (h : Changes s s') : s'.Keyed := by
  induction h with
  | refl => exact hs
  | tail _ hchange ih => exact ih.change hchange

/-! ## Operations -/

theorem find_eq_ok {α : Type} [Stored α] {s : Store} {key : ObjectKey} {x : α} :
    s.find (α := α) key = .ok x ↔ (Stored.objects s).get? key = some x := by
  unfold find
  cases (Stored.objects (α := α) s).get? key with
  | none => exact ⟨(fun h => nomatch h), (fun h => nomatch h)⟩
  | some y => simp

theorem find_of_none {α : Type} [Stored α] {s : Store} {key : ObjectKey}
    (h : (Stored.objects (α := α) s).get? key = none) : s.find (α := α) key =
      .error (.notFound s!"{Stored.kind α} {key.display} not found") := by
  rw [find, h]

/-- What holds of a store holds behind a check, if it holds behind what a check that is passed leads
to. -/
theorem guarded_snd {α β : Type} {s : Store} {check : Except StoreError β}
    {next : β → StoreResult α} {P : Store → Prop} (hs : P s)
    (h : ∀ b, check = .ok b → P (next b).2) : P (guarded s check next).2 := by
  cases check with
  | ok b => exact h b rfl
  | error e => exact hs

/-- What holds of a store with a new object holds behind its addition, if logging does not matter. -/
theorem add_snd {α : Type} [Watched α] {s : Store} {x : α} {P : Store → Prop}
    (h : P (s.insertNew x).2) (hrecord : ∀ s' (e : WatchEvent α), P s' → P (s'.record e)) :
    P (s.add x).2 := by
  unfold add
  split
  · rename_i created s' heq
    rw [heq] at h
    exact hrecord s' _ h
  · rename_i e s' heq
    rw [heq] at h
    exact h

section Stored

variable {α : Type} [Stored α] [Placed α] {s : Store} {key : ObjectKey} {x stored : α}

theorem puts_put (hkey : (Stored.metadata x).HasKey key)
    (hversion : (Stored.metadata x).resourceVersion = some (toString s.nextVersion)) :
    s.Puts (placeOf α key) (Placed.ofStored x) (s.put key x) := by
  rw [← Placed.metadata_ofStored x] at hkey hversion
  exact ⟨hkey, hversion, at?_put s key x, rfl⟩

/-- An object is put in the place of a stored one, whose uid it has. -/
theorem write_put (hstored : (Stored.objects s).get? key = some stored)
    (hkey : (Stored.metadata x).HasKey key)
    (hversion : (Stored.metadata x).resourceVersion = some (toString s.nextVersion))
    (huid : (Stored.metadata x).uid = (Stored.metadata stored).uid)
    (hgeneration : (Stored.metadata x).generation = (Stored.metadata stored).generation ∨
      (Stored.metadata x).generation = some ((Stored.metadata stored).generation.getD 0 + 1)) :
    Write s (s.put key x) := by
  refine .put (puts_put hkey hversion) (.stored (at?_eq_some.mpr hstored) ?_ ?_)
  · rw [Placed.metadata_ofStored, Placed.metadata_ofStored]
    exact huid
  · rw [Placed.metadata_ofStored, Placed.metadata_ofStored]
    exact hgeneration

/-- An object is put in its own place, with another version only. -/
theorem write_withVersion (hstored : (Stored.objects s).get? key = some stored)
    (hkey : (Stored.metadata stored).HasKey key)
    (hmetadata : Stored.metadata x = Stored.metadata stored) :
    Write s (s.put key (withVersion x s.nextVersion)) := by
  have hx : Stored.metadata (withVersion x s.nextVersion) =
      { Stored.metadata stored with resourceVersion := some (toString s.nextVersion) } := by
    rw [withVersion, Placed.metadata_withMetadata, hmetadata]
  refine write_put hstored ?_ ?_ ?_ ?_
  · rw [hx]
    exact hkey
  · rw [hx]
  · rw [hx]
  · rw [hx]
    exact .inl rfl

theorem writes_insertNew (s : Store) (x : α) : Writes s (s.insertNew x).2 := by
  refine guarded_snd .refl fun key hkey => ?_
  split
  · exact .refl
  · rename_i hfree
    have hfree' : (Stored.objects (α := α) s).get? key = none := by
      simpa [SortedMap.contains] using hfree
    have hmetadata := Placed.metadata_withMetadata x (stampCreated (Stored.metadata x) s.nextVersion)
    have hobject := Placed.metadata_ofStored
      (Stored.withMetadata x (stampCreated (Stored.metadata x) s.nextVersion))
    rw [hmetadata] at hobject
    refine .single (.put (puts_put ?_ ?_) (.new (at?_eq_none.mpr hfree') ?_ ?_))
    · rw [hmetadata]
      exact keyOf_eq_ok.mp hkey
    · rw [hmetadata]
      rfl
    · rw [hobject]
      rfl
    · rw [hobject]
      rfl

/-- An object that is overtaken differs in its version only, and the others do not differ. -/
theorem get?_objects_bump (s : Store) (key key' : ObjectKey) :
    (Stored.objects (α := α) (s.bump α key)).get? key' =
      if key' = key then ((Stored.objects s).get? key).map fun x => withVersion x s.nextVersion
      else (Stored.objects s).get? key' := by
  unfold bump
  split
  · rename_i x hx
    rw [objects_put, SortedMap.get?_insert, hx]
    rfl
  · rename_i hnone
    split
    · rename_i heq
      rw [heq, hnone]
      rfl
    · rfl

theorem writes_bump (hs : s.Keyed) (key : ObjectKey) : Writes s (s.bump α key) := by
  unfold bump
  split
  · rename_i x hx
    exact .single (write_withVersion hx (hs.hasKey hx) rfl)
  · exact .refl

end Stored

section Watched

variable {α : Type} [Watched α] [WatchedPlaced α]

theorem write_record (s : Store) (e : WatchEvent α) : Write s (s.record e) :=
  .noted (WatchedPlaced.at?_record s e) (WatchedPlaced.nextVersion_record s e)

theorem writes_add (s : Store) (x : α) : Writes s (s.add x).2 :=
  add_snd (writes_insertNew s x) fun s' e h => h.tail (write_record s' e)

theorem writes_create (s : Store) (x : α) : Writes s (s.create x).2 :=
  guarded_snd .refl fun _ _ => writes_add s x

theorem writes_replace (s : Store) (x : α) : Writes s (s.replace x).2 := by
  refine guarded_snd .refl fun _ _ => guarded_snd .refl fun key hkey =>
    guarded_snd .refl fun stored hstored => guarded_snd .refl fun _ _ => ?_
  refine .tail (.single (write_put (find_eq_ok.mp hstored) ?_ ?_ ?_ ?_)) (write_record _ _)
  · rw [Placed.metadata_withMetadata]
    exact keyOf_eq_ok.mp hkey
  · rw [Placed.metadata_withMetadata]
    rfl
  · rw [Placed.metadata_withMetadata]
    rfl
  · rw [Placed.metadata_withMetadata]
    exact .inr rfl

theorem changes_delete (s : Store) (key : ObjectKey) : Changes s (s.delete α key).2 :=
  guarded_snd .refl fun _ _ => guarded_snd .refl fun _ _ =>
    .tail (.single (.remove _ (at?_remove s key) (nextVersion_remove s key)))
      (.write (write_record _ _))

theorem writes_patchStatus {s : Store} (hs : s.Keyed) (x : α) : Writes s (s.patchStatus x).2 := by
  refine guarded_snd .refl fun _ _ => guarded_snd .refl fun key _ =>
    guarded_snd .refl fun stored hstored => ?_
  split
  · -- an ordered conflict is used up, and the object gets a new version nevertheless
    have hnote : Write s { s with statusConflicts := s.statusConflicts - 1 } :=
      .noted (fun _ => rfl) rfl
    exact .head hnote (writes_bump (α := α) (hs.change (.write hnote)) key)
  · refine guarded_snd .refl fun _ _ => ?_
    have hstored' := find_eq_ok.mp hstored
    have hwrite := write_withVersion (x := Watched.withStatus stored (Watched.status x)) hstored'
      (hs.hasKey hstored') (WatchedPlaced.metadata_withStatus _ _)
    exact .tail (.tail (.single hwrite) (write_record _ _)) (.noted (fun _ => rfl) rfl)

end Watched

/-! ## Config maps -/

/-- What holds of what writes lead to, and of what comes next, holds of what comes next unless a
conflict has been ordered. -/
theorem meetConflict_snd {α : Type} {s : Store} {next : StoreResult α} {P : Store → Prop}
    (hs : s.Keyed) (key : ObjectKey) (hwrites : ∀ s', Writes s s' → P s') (hnext : P next.2) :
    P (s.meetConflict key next).2 := by
  unfold meetConflict
  split
  · have hnote : Write s { s with configMapConflicts := s.configMapConflicts - 1 } :=
      .noted (fun _ => rfl) rfl
    exact hwrites _ (.head hnote (writes_bump (α := ConfigMap) (hs.change (.write hnote)) key))
  · exact hnext

theorem write_countConfigMapWrite (s : Store) : Write s s.countConfigMapWrite :=
  .noted (fun _ => rfl) rfl

theorem writes_createConfigMap {s : Store} (hs : s.Keyed) (c : ConfigMap) :
    Writes s (s.createConfigMap c).2 := by
  refine guarded_snd .refl fun key _ => meetConflict_snd hs key (fun _ => id) ?_
  have h := writes_insertNew s c
  split
  · rename_i created s' heq
    rw [heq] at h
    exact h.tail (write_countConfigMapWrite s')
  · rename_i e s' heq
    rw [heq] at h
    exact h

theorem writes_replaceConfigMap {s : Store} (hs : s.Keyed) (c : ConfigMap) :
    Writes s (s.replaceConfigMap c).2 := by
  refine guarded_snd .refl fun key hkey => guarded_snd .refl fun stored hstored =>
    meetConflict_snd hs key (fun _ => id) <| guarded_snd .refl fun _ _ => ?_
  have hwrite : Write s (s.put key { c with
      metadata := stampReplaced c.metadata stored.metadata s.nextVersion }) :=
    write_put (find_eq_ok.mp hstored) (keyOf_eq_ok.mp hkey) rfl rfl (.inr rfl)
  exact .tail (.single hwrite) (write_countConfigMapWrite _)

theorem changes_deleteConfigMap {s : Store} (hs : s.Keyed) (key : ObjectKey)
    (version : Option String) : Changes s (s.deleteConfigMap key version).2 :=
  guarded_snd .refl fun _ _ => meetConflict_snd hs _ (fun _ => Writes.changes) <|
    guarded_snd .refl fun _ _ =>
      .tail (.single (.remove _ (at?_remove s key) (nextVersion_remove s key)))
        (.write (write_countConfigMapWrite _))

/-! ## Reachable stores -/

/-- Whatever a store is asked for but to delete something, it makes known writes only. -/
theorem writes_answer {s : Store} (hs : s.Keyed) {call : StoreCall} (hcall : ¬call.IsDelete) :
    Writes s (s.answer call).2 := by
  cases call with
  | listPools | getPool | getConfigMap | listInstances | getInstance => exact .refl
  | createPool pool => exact writes_create s pool
  | replacePool pool => exact writes_replace s pool
  | patchPoolStatus pool => exact writes_patchStatus hs pool
  | createConfigMap configMap => exact writes_createConfigMap hs configMap
  | replaceConfigMap configMap => exact writes_replaceConfigMap hs configMap
  | createInstance object => exact writes_create s object
  | patchInstanceStatus object => exact writes_patchStatus hs object
  | deletePool | deleteConfigMap | deleteInstance => exact absurd trivial hcall

/-- The same of all calls, and of changes. -/
theorem changes_answer {s : Store} (hs : s.Keyed) (call : StoreCall) :
    Changes s (s.answer call).2 := by
  cases call with
  | deletePool key => exact changes_delete s key
  | deleteConfigMap key version => exact changes_deleteConfigMap hs key version
  | deleteInstance key => exact changes_delete s key
  | _ => exact (writes_answer hs id).changes

/-- The same for changes from outside. -/
theorem changes_edit {s : Store} (hs : s.Keyed) (e : StoreEdit) : Changes s (s.edit e) := by
  cases e with
  | call call => exact changes_answer hs call
  | addPool pool => exact (writes_add s pool).changes
  | addConfigMap configMap => exact (writes_insertNew s configMap).changes
  | addInstance object => exact (writes_add s object).changes
  | orderConfigMapConflicts | orderStatusConflicts | setPoolKind | setInstanceKind =>
    exact .single (.write (.noted (fun _ => rfl) rfl))

theorem changes_edits (es : List StoreEdit) : ∀ {s : Store}, s.Keyed → Changes s (s.edits es) := by
  induction es with
  | nil =>
    intro s _
    exact .refl
  | cons e es ih =>
    intro s hs
    have h := changes_edit hs e
    exact h.trans (ih (hs.changes h))

/-- A store that comes about from an empty one. -/
def Reachable (s : Store) : Prop := ∃ es : List StoreEdit, s = ({} : Store).edits es

theorem Reachable.keyed {s : Store} (h : s.Reachable) : s.Keyed := by
  obtain ⟨es, rfl⟩ := h
  exact keyed_empty.changes (changes_edits es keyed_empty)

/-- What is reached from a reachable store is reachable. -/
theorem Reachable.edits {s : Store} (h : s.Reachable) (es : List StoreEdit) :
    (s.edits es).Reachable := by
  obtain ⟨fs, rfl⟩ := h
  exact ⟨fs ++ es, (edits_append _ fs es).symm⟩

end Store

end PoolOperator
