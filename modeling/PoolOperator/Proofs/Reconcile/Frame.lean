import PoolOperator.Proofs.Reconcile.Aggregate
import PoolOperator.Proofs.Reconcile.Alone
import PoolOperator.Proofs.Store.Kind
import PoolOperator.Proofs.Store.Version

/-!
# What a merge leaves alone

Whatever becomes of a merge, and in whatever order pools are listed, it writes to one config map and
to the statuses of the pools of its namespace that are not on their way out. Conflicts change
nothing but versions. What others keep in the config map stays.
-/

namespace PoolOperator

/-! ## Frames -/

namespace Store

variable {s s' s'' : Store} {ns : String} {key : ObjectKey}

/-- Whether there is a pool of a namespace under a key that is not on its way out. -/
def IsLive (s : Store) (ns : String) (key : ObjectKey) : Prop :=
  key.ns = ns ∧ ∃ p, s.pools.get? key = some p ∧ p.isBeingDeleted = false

/-- Whether two stores differ in what a merge of a namespace may write to only. -/
structure Spared (ns : String) (s s' : Store) : Prop where
  instances : s'.instances = s.instances
  pools (key : ObjectKey) (h : ¬s.IsLive ns key) : s'.pools.get? key = s.pools.get? key
  bare (key : ObjectKey) : (s'.pools.get? key).map AddressPool.bare =
    (s.pools.get? key).map AddressPool.bare
  configMaps (key : ObjectKey) (h : key ≠ Artifact.keyIn ns) :
    s'.configMaps.get? key = s.configMaps.get? key

theorem Spared.refl (ns : String) (s : Store) : Spared ns s s :=
  ⟨rfl, fun _ _ => rfl, fun _ => rfl, fun _ _ => rfl⟩

/-- A merge does not change which pools it may write to. -/
theorem Spared.isLive_iff (h : Spared ns s s') : s'.IsLive ns key ↔ s.IsLive ns key := by
  have hbare (t : Store) : t.IsLive ns key ↔ key.ns = ns ∧
      ∃ p, (t.pools.get? key).map AddressPool.bare = some p ∧ p.isBeingDeleted = false := by
    refine and_congr_right fun _ => ⟨?_, ?_⟩
    · rintro ⟨p, hp, hlive⟩
      exact ⟨p.bare, by rw [hp]; rfl, hlive⟩
    · rintro ⟨q, hq, hlive⟩
      obtain ⟨p, hp, rfl⟩ := Option.map_eq_some_iff.mp hq
      exact ⟨p, hp, hlive⟩
  rw [hbare, hbare, h.bare]

theorem Spared.trans (h : Spared ns s s') (h' : Spared ns s' s'') : Spared ns s s'' := by
  refine ⟨h'.instances.trans h.instances, ?_, fun key => (h'.bare key).trans (h.bare key),
    fun key hkey => (h'.configMaps key hkey).trans (h.configMaps key hkey)⟩
  intro key hkey
  rw [h'.pools key fun hlive => hkey (h.isLive_iff.mp hlive), h.pools key hkey]

/-- What a write of the config map of a namespace comes to is spared all else. -/
theorem ConfigMapWrite.spared {α : Type} {reply : Except StoreError α}
    (h : ConfigMapWrite s (Artifact.keyIn ns) reply s') (honly : s.ConfigMapsOnly s') :
    Spared ns s s' := by
  refine ⟨honly.instances, fun _ _ => ?_, fun _ => ?_, fun _ => h.others⟩
  · rw [honly.pools]
  · rw [honly.pools]

/-- Whether a merge has written to no config map either. -/
structure OnlyTold (ns : String) (s s' : Store) : Prop extends Spared ns s s' where
  artifact : s'.configMaps = s.configMaps

theorem OnlyTold.refl (ns : String) (s : Store) : OnlyTold ns s s := ⟨.refl ns s, rfl⟩

theorem OnlyTold.trans (h : OnlyTold ns s s') (h' : OnlyTold ns s' s'') : OnlyTold ns s s'' :=
  ⟨h.toSpared.trans h'.toSpared, h'.artifact.trans h.artifact⟩

theorem onlyTold_patchStatus {p : AddressPool} (hkey : p.metadata.HasKey key)
    (hlive : s.IsLive ns key) : OnlyTold ns s (s.patchStatus p).2 := by
  obtain ⟨hconfigMaps, -, hothers⟩ := (statusWrite_patchStatus (s := s) hkey).touches
  refine ⟨⟨(poolsOnly_patchStatus s p).instances, ?_, (s.statusOnly_patchStatus p).pools, ?_⟩,
    hconfigMaps⟩
  · intro key' hkey'
    exact hothers key' fun heq => hkey' (heq ▸ hlive)
  · intro key' _
    rw [hconfigMaps]

theorem get?_of_get_eq_ok {p : AddressPool} (h : s.get AddressPool key = .ok (some p)) :
    s.pools.get? key = some p := by
  unfold get at h
  cases hkind : checkKind AddressPool s with
  | error e =>
    rw [hkind] at h
    cases h
  | ok _ =>
    rw [hkind] at h
    exact Except.ok.inj h

end Store

/-! ## Reports -/

namespace Task

open Store (Spared OnlyTold)

variable {order : List AddressPool → List AddressPool} {s s' : Store} {ns : String}
  {key : ObjectKey}

/-- A report on a pool writes to nothing but its status. -/
theorem ends_reportWithin (desired : List Condition) (total left : Nat) :
    ∀ {s : Store}, s.Keyed → s.IsLive ns key →
      (reportWithin AddressPool key desired total left).Ends order
        (fun _ s' => s'.Keyed ∧ OnlyTold ns s s') s := by
  have hfetch : Reported.fetch (α := AddressPool) key = call (.getPool key) := rfl
  have hwriteStatus (p : AddressPool) : Reported.writeStatus p = call (.patchPoolStatus p) := rfl
  induction left with
  | zero =>
    intro s hs _
    exact ⟨hs, .refl ns s⟩
  | succ left ih =>
    intro s hs hlive
    have hread : s.answer (.getPool key) = (s.get AddressPool key, s) := rfl
    rw [reportWithin, hfetch, ends_call_bind hread]
    refine ⟨fun e => ⟨hs, .refl ns s⟩, ?_⟩
    rcases hget : s.get AddressPool key with e | _ | current
    · exact ⟨hs, .refl ns s⟩
    · exact ⟨hs, .refl ns s⟩
    dsimp only [StoreCall.ordered]
    cases Condition.merge? (conditionsOf current) desired with
    | none => exact ⟨hs, .refl ns s⟩
    | some merged =>
      have hkey : current.metadata.HasKey key := hs.pools (Store.get?_of_get_eq_ok hget)
      have htold := Store.onlyTold_patchStatus (p := withConditions current merged) hkey hlive
      have hkeyed := hs.changes (Store.changes_answer hs
        (.patchPoolStatus (withConditions current merged)))
      change OnlyTold ns s (s.answer (.patchPoolStatus (withConditions current merged))).2 at htold
      rcases hwrite : s.answer (.patchPoolStatus (withConditions current merged)) with ⟨reply, t⟩
      rw [hwrite] at htold hkeyed
      dsimp only
      rw [hwriteStatus, ends_call_bind hwrite]
      -- a refusal is followed by another attempt or by nothing
      constructor
      · intro e
        cases e with
        | conflict message => exact ih hs hlive
        | _ => exact ⟨hs, .refl ns s⟩
      · rcases reply with e | updated
        · cases e with
          | conflict message =>
            exact (ih hkeyed (htold.isLive_iff.mpr hlive)).mono
              fun _ _ h => ⟨h.1, htold.trans h.2⟩
          | _ => exact ⟨hkeyed, htold⟩
        · exact ⟨hkeyed, htold⟩

theorem ends_reportVerdicts (attempts : Nat) (vs : List PoolVerdict) :
    ∀ {s : Store}, s.Keyed → (∀ v ∈ vs, s.IsLive ns ⟨ns, v.name⟩) →
      (reportVerdicts attempts ns vs).Ends order (fun _ s' => s'.Keyed ∧ OnlyTold ns s s') s := by
  induction vs with
  | nil =>
    intro s hs _
    exact ⟨hs, .refl ns s⟩
  | cons v vs ih =>
    intro s hs hlive
    rw [reportVerdicts, ends_bind]
    refine (ends_reportWithin v.conditions attempts attempts hs
      (hlive v List.mem_cons_self)).mono ?_
    rintro _ t ⟨ht, htold⟩
    refine (ih ht fun v' hv' => ?_).mono fun _ _ h => ⟨h.1, htold.trans h.2⟩
    exact htold.isLive_iff.mpr (hlive v' (List.mem_cons_of_mem v hv'))

end Task

/-! ## The artifact -/

/-- Whether a config map is what has become of another one in which the artifact was replaced. -/
structure Artifact.IsUpdate (c c' : ConfigMap) : Prop where
  metadata : c'.metadata = { c.metadata with
    labels := c'.metadata.labels
    resourceVersion := c'.metadata.resourceVersion
    generation := c'.metadata.generation }
  generation : c'.metadata.generation = some (c.metadata.generation.getD 0 + 1)
  managed : (c'.metadata.labels.getD ∅).get? managedByLabel = some managedByValue
  labels (label : String) (h : label ≠ managedByLabel) :
    (c'.metadata.labels.getD ∅).get? label = (c.metadata.labels.getD ∅).get? label
  data (key : String) (h : key ≠ dataKey) :
    (c'.data.getD ∅).get? key = (c.data.getD ∅).get? key
  binaryData : c'.binaryData = c.binaryData
  immutable : c'.immutable = c.immutable

namespace Artifact

theorem isUpdate_replacedConfigMap (s : Store) (c : ConfigMap) (text : String) :
    IsUpdate c (s.replacedConfigMap (updateConfigMap c text) c) := by
  refine ⟨rfl, rfl, ?_, ?_, ?_, rfl, rfl⟩
  · exact SortedMap.get?_insert_self _ _ _
  · intro label hlabel
    exact (SortedMap.get?_insert _ _ _ _).trans (if_neg hlabel)
  · intro key hkey
    exact (SortedMap.get?_insert _ _ _ _).trans (if_neg hkey)

/-- The version of what has been replaced does not matter. -/
theorem IsUpdate.of_undated_eq {c₀ c c' : ConfigMap} (h : IsUpdate c c')
    (heq : c₀.undated = c.undated) : IsUpdate c₀ c' := by
  have hundated (d : ConfigMap) (hd : IsUpdate d.undated c') : IsUpdate d c' :=
    ⟨hd.metadata, hd.generation, hd.managed, hd.labels, hd.data, hd.binaryData, hd.immutable⟩
  refine hundated c₀ ?_
  rw [heq]
  exact ⟨h.metadata, h.generation, h.managed, h.labels, h.data, h.binaryData, h.immutable⟩

end Artifact

/-- What a merge leaves, by its result: a conflict leaves all of the config map but its version, and
an update leaves what others keep in it. -/
structure Store.AfterMerge (ns : String) (s : Store)
    (result : Except OperatorError AggregateOutcome) (s' : Store) : Prop where
  keyed : s'.Keyed
  spared : Spared ns s s'
  conflict (message : String) (h : result = .error (.store (.conflict message))) :
    (s'.configMaps.get? (Artifact.keyIn ns)).map ConfigMap.undated =
      (s.configMaps.get? (Artifact.keyIn ns)).map ConfigMap.undated
  updated (h : result = .ok .updated) :
    ∃ c c', s.configMaps.get? (Artifact.keyIn ns) = some c ∧
      s'.configMaps.get? (Artifact.keyIn ns) = some c' ∧ Artifact.IsUpdate c c'

namespace Store

variable {s s' s'' : Store} {ns : String} {result : Except OperatorError AggregateOutcome}

theorem AfterMerge.refl (hs : s.Keyed) (hresult : result ≠ .ok .updated) :
    AfterMerge ns s result s :=
  ⟨hs, .refl ns s, fun _ _ => rfl, fun h => absurd h hresult⟩

/-- A write of the config map leaves what it is to leave, unless it is an update. -/
theorem AfterMerge.of_write {α : Type} {reply : Except StoreError α}
    (hs' : s'.Keyed) (honly : s.ConfigMapsOnly s')
    (hwrite : ConfigMapWrite s (Artifact.keyIn ns) reply s')
    (hresult : ∀ message, result = .error (.store (.conflict message)) → ∃ e, reply = .error e)
    (hnot : result ≠ .ok .updated) : AfterMerge ns s result s' := by
  refine ⟨hs', hwrite.spared honly, fun message h => ?_, fun h => absurd h hnot⟩
  obtain ⟨e, rfl⟩ := hresult message h
  exact hwrite.undated_of_error

/-- A merge that starts again after a conflict leaves what the second one leaves. -/
theorem AfterMerge.again {message : String}
    (h : AfterMerge ns s (.error (.store (.conflict message))) s')
    (h' : AfterMerge ns s' result s'') : AfterMerge ns s result s'' := by
  have hundated := h.conflict message rfl
  refine ⟨h'.keyed, h.spared.trans h'.spared,
    fun message' hresult => (h'.conflict message' hresult).trans hundated, fun hresult => ?_⟩
  obtain ⟨c, c', hc, hc', hupdate⟩ := h'.updated hresult
  rw [hc] at hundated
  obtain ⟨c₀, hc₀, heq⟩ := Option.map_eq_some_iff.mp hundated.symm
  exact ⟨c₀, c', hc₀, hc', hupdate.of_undated_eq heq⟩

/-- Reports do not matter. -/
theorem AfterMerge.told (h : AfterMerge ns s result s') (hs'' : s''.Keyed)
    (htold : OnlyTold ns s' s'') : AfterMerge ns s result s'' := by
  refine ⟨hs'', h.spared.trans htold.toSpared, ?_, ?_⟩
  · rw [htold.artifact]
    exact h.conflict
  · rw [htold.artifact]
    exact h.updated

end Store

/-! ## A merge -/

namespace Task

open Store (AfterMerge)

variable {order : List AddressPool → List AddressPool} {s : Store} {ns : String}

theorem ends_deleteArtifact (hs : s.Keyed) (current : ConfigMap) :
    (deleteArtifact ns current).Ends order (AfterMerge ns s) s := by
  let c := StoreCall.deleteConfigMap (Artifact.keyIn ns) current.metadata.resourceVersion
  have hkeyed := hs.changes (Store.changes_answer hs c)
  have honly : s.ConfigMapsOnly (s.answer c).2 := s.configMapsOnly_deleteConfigMap _ _
  have hwrite : Store.ConfigMapWrite s (Artifact.keyIn ns) (s.answer c).1 (s.answer c).2 :=
    Store.configMapWrite_deleteConfigMap _ _
  rcases hanswer : s.answer c with ⟨reply, t⟩
  rw [hanswer] at hkeyed honly hwrite
  rw [deleteArtifact, ends_call_bind hanswer]
  constructor
  · intro e
    cases e <;> exact AfterMerge.refl hs (by simp)
  · rcases reply with e | _
    · cases e <;> exact AfterMerge.of_write hkeyed honly hwrite (fun _ _ => ⟨_, rfl⟩) (by simp)
    · exact AfterMerge.of_write hkeyed honly hwrite (by simp) (by simp)

theorem ends_createArtifact (hs : s.Keyed) (text : String) :
    (createArtifact ns text).Ends order (AfterMerge ns s) s := by
  let c := StoreCall.createConfigMap (Artifact.newConfigMap ns text)
  have hkeyed := hs.changes (Store.changes_answer hs c)
  have honly : s.ConfigMapsOnly (s.answer c).2 := s.configMapsOnly_createConfigMap _
  have hwrite : Store.ConfigMapWrite s (Artifact.keyIn ns) (s.answer c).1 (s.answer c).2 :=
    Store.configMapWrite_createConfigMap ⟨rfl, rfl⟩
  rcases hanswer : s.answer c with ⟨reply, t⟩
  rw [hanswer] at hkeyed honly hwrite
  rw [createArtifact, ends_call_bind hanswer]
  refine ⟨fun e => AfterMerge.refl hs (by simp), ?_⟩
  rcases reply with e | _
  · exact AfterMerge.of_write hkeyed honly hwrite (fun _ _ => ⟨_, rfl⟩) (by simp)
  · exact AfterMerge.of_write hkeyed honly hwrite (by simp) (by simp)

theorem ends_replaceArtifact (hs : s.Keyed) {current : ConfigMap}
    (hcurrent : s.configMaps.get? (Artifact.keyIn ns) = some current) (text : String) :
    (replaceArtifact current text).Ends order (AfterMerge ns s) s := by
  let c := StoreCall.replaceConfigMap (Artifact.updateConfigMap current text)
  have hkey : (Artifact.updateConfigMap current text).metadata.HasKey (Artifact.keyIn ns) :=
    ⟨(hs.configMaps hcurrent).1, (hs.configMaps hcurrent).2⟩
  have hkeyed := hs.changes (Store.changes_answer hs c)
  have honly : s.ConfigMapsOnly (s.answer c).2 := s.configMapsOnly_replaceConfigMap _
  have hwrite : Store.ConfigMapWrite s (Artifact.keyIn ns) (s.answer c).1 (s.answer c).2 :=
    Store.configMapWrite_replaceConfigMap hkey
  rcases hanswer : s.answer c with ⟨reply, t⟩
  rw [hanswer] at hkeyed honly hwrite
  rw [replaceArtifact, ends_call_bind hanswer]
  refine ⟨fun e => AfterMerge.refl hs (by simp), ?_⟩
  rcases reply with e | replaced
  · exact AfterMerge.of_write hkeyed honly hwrite (fun _ _ => ⟨_, rfl⟩) (by simp)
  · have hupdated : ∃ c c', s.configMaps.get? (Artifact.keyIn ns) = some c ∧
        t.configMaps.get? (Artifact.keyIn ns) = some c' ∧ Artifact.IsUpdate c c' := by
      obtain ⟨stored, hstored, hreplaced⟩ := Store.replaced_of_replaceConfigMap hkey hanswer
      rw [hcurrent] at hstored
      cases hstored
      exact ⟨current, _, hcurrent, hreplaced, Artifact.isUpdate_replacedConfigMap s current text⟩
    exact AfterMerge.mk hkeyed (hwrite.spared honly) (by simp) fun _ => hupdated

theorem ends_writeArtifact (hs : s.Keyed) (desired : Artifact) :
    (writeArtifact ns desired).Ends order (AfterMerge ns s) s := by
  have hread : s.answer (.getConfigMap (Artifact.keyIn ns)) =
    (.ok (s.configMaps.get? (Artifact.keyIn ns)), s) := rfl
  rw [writeArtifact, ends_call_bind hread]
  refine ⟨fun e => AfterMerge.refl hs (by simp), ?_⟩
  cases hget : s.configMaps.get? (Artifact.keyIn ns) with
  | none =>
    dsimp only [StoreCall.ordered]
    split
    · exact AfterMerge.refl hs (by simp)
    · exact ends_createArtifact hs _
  | some current =>
    dsimp only [StoreCall.ordered]
    split
    · exact ends_deleteArtifact hs current
    · split
      · exact AfterMerge.refl hs (by simp)
      · exact ends_replaceArtifact hs hget _

/-- Verdicts are on pools that are not on their way out, in whatever order these are listed. -/
theorem isLive_of_mem_ofPools (hs : s.Keyed) {pools : List AddressPool}
    (hperm : pools.Perm (s.poolsIn ns)) {now : String} {v : PoolVerdict}
    (hv : v ∈ PoolVerdict.ofPools now pools) : s.IsLive ns ⟨ns, v.name⟩ := by
  obtain ⟨p, hp, hlive, hverdict⟩ := PoolVerdict.mem_ofPools.mp hv
  obtain ⟨name, hget⟩ := Store.mem_poolsIn.mp (hperm.subset hp)
  have hname : v.name = name := by
    rw [(PoolVerdict.ofPool?_cases hverdict).1, (hs.pools hget).2]
    rfl
  rw [hname]
  exact ⟨rfl, p, hget, hlive⟩

theorem ends_aggregateOnce (horder : ∀ pools, (order pools).Perm pools) (hs : s.Keyed)
    (now : String) (attempts : Nat) :
    (aggregateOnce now attempts ns).Ends order (AfterMerge ns s) s := by
  have hread : s.answer (.listPools ns) = (s.list AddressPool ns, s) := rfl
  rw [aggregateOnce, ends_call_bind hread, Store.list_pools]
  refine ⟨fun e => AfterMerge.refl hs (by simp), ?_⟩
  cases Store.checkKind AddressPool s with
  | error e => exact AfterMerge.refl hs (by simp)
  | ok _ =>
    refine ends_bind.mpr ((ends_writeArtifact hs _).mono ?_)
    intro result t hwritten
    cases result with
    | error e => exact hwritten
    | ok outcome =>
      refine ends_bind.mpr ((ends_reportVerdicts attempts _ hwritten.keyed fun v hv => ?_).mono ?_)
      · exact hwritten.spared.isLive_iff.mpr (isLive_of_mem_ofPools hs (horder _) hv)
      · rintro _ u ⟨hu, htold⟩
        exact hwritten.told hu htold

/-- **What a merge leaves**, in whatever order pools are listed, whichever of its calls fail and
however many conflicts have been ordered. -/
theorem ends_aggregate (horder : ∀ pools, (order pools).Perm pools) (hs : s.Keyed) (now : String)
    (attempts : Nat) (ns : String) :
    (aggregate now attempts ns).Ends order (AfterMerge ns s) s := by
  have h (left : Nat) : ∀ {s : Store}, s.Keyed →
      (aggregateWithin now attempts ns left).Ends order (AfterMerge ns s) s := by
    induction left with
    | zero =>
      intro s hs
      exact AfterMerge.refl hs (by simp)
    | succ left ih =>
      intro s hs
      rw [aggregateWithin]
      refine ends_bind.mpr ((ends_aggregateOnce horder hs now attempts).mono ?_)
      intro result t hmerged
      split
      · exact (ih hmerged.keyed).mono fun _ _ h => hmerged.again h
      · exact hmerged
  exact h attempts hs

end Task

/-- **The frame of a merge.** Whatever its result, in whatever order pools are listed, whichever of
its calls fail and whatever conflicts have been ordered, a merge in which nobody else takes part
leaves all instances as they are, all pools of other namespaces, all pools on their way out and all
other config maps. Of a pool it changes at most the version and the status, and none comes or goes.
An update leaves what others keep in the config map, and what identifies it. -/
theorem World.aggregate_frame {order : List AddressPool → List AddressPool}
    (horder : ∀ pools, (order pools).Perm pools) {w w' : World}
    {result : Except OperatorError AggregateOutcome} {now ns : String}
    (hreach : w.store.Reachable) (halone : w.IsAlone)
    (hrun : (Task.aggregate now w.attempts ns).run (World.answerIn order) w = (result, w')) :
    w'.store.instances = w.store.instances ∧
    (∀ key, key.ns ≠ ns → w'.store.pools.get? key = w.store.pools.get? key) ∧
    (∀ key p, w.store.pools.get? key = some p → p.metadata.deletionTimestamp ≠ none →
      w'.store.pools.get? key = some p) ∧
    (∀ key, (w'.store.pools.get? key).map AddressPool.bare =
      (w.store.pools.get? key).map AddressPool.bare) ∧
    (∀ key, key ≠ Artifact.keyIn ns →
      w'.store.configMaps.get? key = w.store.configMaps.get? key) ∧
    (result = .ok .updated → ∃ c c' g, w.store.configMaps.get? (Artifact.keyIn ns) = some c ∧
      w'.store.configMaps.get? (Artifact.keyIn ns) = some c' ∧ Artifact.IsUpdate c c' ∧
      c.metadata.generation = some g ∧ c'.metadata.generation = some (g + 1) ∧
      (w.store.nextVersion < 2 ^ 63 → (g + 1).toInt = g.toInt + 1)) := by
  have h := (Task.ends_aggregate horder hreach.keyed now w.attempts ns).run halone
  rw [hrun] at h
  refine ⟨h.spared.instances, ?_, ?_, h.spared.bare, h.spared.configMaps, ?_⟩
  · intro key hkey
    exact h.spared.pools key fun hlive => hkey hlive.1
  · intro key p hp hdeleted
    rw [h.spared.pools key, hp]
    rintro ⟨-, q, hq, hlive⟩
    rw [hp] at hq
    cases hq
    exact hdeleted (Option.not_isSome_iff_eq_none.mp (Bool.eq_false_iff.mp hlive))
  · intro hresult
    obtain ⟨c, c', hc, hc', hupdate⟩ := h.updated hresult
    obtain ⟨g, hg, hbound⟩ := hreach.counted.object (Store.at?_eq_some.mpr hc)
    have hg : c.metadata.generation = some g := hg
    refine ⟨c, c', g, hc, hc', hupdate, hg, ?_, fun hless => ?_⟩
    · rw [hupdate.generation, hg]
      rfl
    · obtain ⟨hpos, hg'⟩ := hbound (by omega)
      exact Store.toInt_add_one hpos (by omega)

/-- A world in which one of two pools of a namespace is to be described, a pool of another namespace
is called like it, others keep a text and a label in the config map, two writes of it meet
conflicts, and a report fails. -/
def World.contested : World where
  store := ({} : Store).edits
    [.addPool { metadata := { name := some "a", ns := some "x" }, spec := ⟨"bgp", [], none⟩ },
      .addPool { metadata := { name := some "b", ns := some "x" }, spec := ⟨"layer2", [], none⟩ },
      .addPool { metadata := { name := some "b", ns := some "y" }, spec := ⟨"layer2", [], none⟩ },
      .addConfigMap {
        metadata := {
          name := some "config"
          ns := some "x"
          labels := some ((∅ : SortedMap String String).insert "team" "net") }
        data := some ((∅ : SortedMap String String).insert "motd" "hello") },
      .orderConfigMapConflicts 2,
      .orderStatusConflicts 1]
  disturbances := [(.getPool, .fail (.conflict "elsewhere"))]
  operator := { settings := ⟨"x", 1, 3, 1, 1, ⟨.v4 0, 0, 0⟩⟩ }

theorem World.aggregate_frame_contested :
    ∃ w' c', (Task.aggregate "now" contested.attempts "x").run (answerIn List.reverse) contested =
        (.ok .updated, w') ∧
      w'.store.pools.get? ⟨"y", "b"⟩ = contested.store.pools.get? ⟨"y", "b"⟩ ∧
      w'.store.configMaps.get? (Artifact.keyIn "x") = some c' ∧
      (c'.data.getD ∅).get? "motd" = some "hello" ∧
      (c'.metadata.labels.getD ∅).get? "team" = some "net" ∧
      (c'.metadata.labels.getD ∅).get? Artifact.managedByLabel = some "metallb-operator" := by
  let w' := ((Task.aggregate "now" contested.attempts "x").run (answerIn List.reverse) contested).2
  have hrun : (Task.aggregate "now" contested.attempts "x").run (answerIn List.reverse) contested =
    (.ok .updated, w') := Prod.ext (by decide +kernel) rfl
  have halone : contested.IsAlone := List.forall_mem_singleton.mpr ⟨_, rfl⟩
  obtain ⟨-, hforeign, -, -, -, hupdated⟩ :=
    aggregate_frame List.reverse_perm ⟨_, rfl⟩ halone hrun
  obtain ⟨c, c', g, hc, hc', hupdate, -⟩ := hupdated rfl
  obtain ⟨hdata, hlabel⟩ : (c.data.getD ∅).get? "motd" = some "hello" ∧
      (c.metadata.labels.getD ∅).get? "team" = some "net" := by
    have hstored : (contested.store.configMaps.get? (Artifact.keyIn "x")).any (fun c =>
        (c.data.getD ∅).get? "motd" == some "hello" &&
          (c.metadata.labels.getD ∅).get? "team" == some "net") = true := by decide +kernel
    rw [hc] at hstored
    simpa using hstored
  refine ⟨w', c', hrun, hforeign _ (by decide), hc', ?_, ?_, hupdate.managed⟩
  · rw [hupdate.data "motd" (by decide), hdata]
  · rw [hupdate.labels "team" (by decide), hlabel]

end PoolOperator
