import PoolOperator.Proofs.Reconcile.Convergence
import PoolOperator.Proofs.Reconcile.Phases
import PoolOperator.Proofs.Store.Kind
import PoolOperator.Proofs.Store.Outcome

/-!
# Conflicts in the way of a merge

A conflict that has been ordered for config maps takes an attempt of a merge that has something to
write, and changes no more than a version. So a merge with more attempts than conflicts comes to
what it would come to anyway, and one without gives up and leaves all as it was.
-/

namespace PoolOperator

open Store (serve)

/-! ## Versions of config maps -/

namespace Store

/-- Whether two stores differ in the versions of config maps only, and in the conflicts that are
ordered for them. No version is given away for the config map under a key if there is none. -/
structure Redated (key : ObjectKey) (s s' : Store) : Prop where
  same : s' = { s with
    configMaps := s'.configMaps, nextVersion := s'.nextVersion,
    configMapConflicts := s'.configMapConflicts }
  undated (key' : ObjectKey) : (s'.configMaps.get? key').map ConfigMap.undated =
    (s.configMaps.get? key').map ConfigMap.undated
  nextVersion (h : s.configMaps.get? key = none) : s'.nextVersion = s.nextVersion

variable {key : ObjectKey} {s s' s'' : Store}

theorem Redated.refl (key : ObjectKey) (s : Store) : Redated key s s :=
  ⟨rfl, fun _ => rfl, fun _ => rfl⟩

theorem Redated.get?_eq_none (h : Redated key s s') (hfree : s.configMaps.get? key = none) :
    s'.configMaps.get? key = none := by
  have hundated := h.undated key
  rwa [hfree, Option.map_none, Option.map_eq_none_iff] at hundated

theorem Redated.trans (h : Redated key s s') (h' : Redated key s' s'') : Redated key s s'' where
  same := by rw [h'.same, h.same]
  undated key' := (h'.undated key').trans (h.undated key')
  nextVersion hfree := (h'.nextVersion (h.get?_eq_none hfree)).trans (h.nextVersion hfree)

theorem redated_overtaken (key : ObjectKey) (hordered : 0 < s.configMapConflicts) :
    Redated key s (s.overtakenConfigMap key) := by
  have hwrite : ConfigMapWrite (α := Unit) s key (.error (.conflict ""))
    (s.overtakenConfigMap key) := .overtaken "" hordered
  refine ⟨?_, fun key' => ?_, fun hfree => ?_⟩
  · unfold overtakenConfigMap bump
    split <;> rfl
  · by_cases hkey : key' = key
    · rw [hkey]
      exact hwrite.undated_of_error
    · rw [hwrite.others hkey]
  · have hfree' : (Stored.objects (α := ConfigMap)
        { s with configMapConflicts := s.configMapConflicts - 1 }).get? key = none := hfree
    rw [overtakenConfigMap, bump, hfree']

theorem configMapConflicts_overtaken (s : Store) (key : ObjectKey) :
    (s.overtakenConfigMap key).configMapConflicts = s.configMapConflicts - 1 := by
  unfold overtakenConfigMap bump
  split <;> rfl

end Store

/-- Whether an artifact is stored is seen without versions. -/
theorem Artifact.isStored_iff_map_undated {a : Artifact} {s : Store} {ns : String} :
    a.IsStored s ns ↔ if a.isEmpty then (s.configMaps.get? (keyIn ns)).map ConfigMap.undated = none
      else ∃ c, (s.configMaps.get? (keyIn ns)).map ConfigMap.undated = some c ∧
        decode (storedText c) = .ok a := by
  unfold IsStored
  split
  · rw [Option.map_eq_none_iff]
  · cases s.configMaps.get? (keyIn ns) with
    | none => simp
    | some c =>
      have htext : storedText c.undated = storedText c := rfl
      simp [htext]

theorem Store.Redated.isStored_iff {key : ObjectKey} {s s' : Store} (h : Redated key s s')
    {a : Artifact} {ns : String} : a.IsStored s' ns ↔ a.IsStored s ns := by
  rw [Artifact.isStored_iff_map_undated, Artifact.isStored_iff_map_undated, h.undated]

section Runs

variable {order : List AddressPool → List AddressPool}
  {readiness : Except OperatorError Readiness} {s s' t t' : Store} {ns : String}
  {desired : Artifact} {current : ConfigMap} {outcome outcome' : AggregateOutcome}

/-! ## Writes that meet a conflict -/

namespace Store

variable {key : ObjectKey} {c : ConfigMap}

theorem meetConflict_of_ordered {α : Type} (hordered : 0 < s.configMapConflicts)
    (key : ObjectKey) (next : StoreResult α) : ∃ message,
    s.meetConflict key next = (.error (.conflict message), s.overtakenConfigMap key) := by
  rw [meetConflict, if_pos hordered]
  exact ⟨_, rfl⟩

theorem createConfigMap_of_ordered (hordered : 0 < s.configMapConflicts)
    (hkey : c.metadata.HasKey key) :
    ∃ message, s.createConfigMap c = (.error (.conflict message), s.overtakenConfigMap key) := by
  rw [createConfigMap, keyOf_eq_ok.mpr hkey]
  exact meetConflict_of_ordered hordered key _

theorem replaceConfigMap_of_ordered (hordered : 0 < s.configMapConflicts)
    (hkey : c.metadata.HasKey key) (hstored : s.configMaps.get? key = some current) :
    ∃ message, s.replaceConfigMap c = (.error (.conflict message), s.overtakenConfigMap key) := by
  have hkey' : keyOf c = .ok key := keyOf_eq_ok.mpr hkey
  have hfind : s.find (α := ConfigMap) key = .ok current := find_eq_ok.mpr hstored
  simp only [replaceConfigMap, guarded, hkey', hfind]
  exact meetConflict_of_ordered hordered key _

theorem deleteConfigMap_of_ordered (hordered : 0 < s.configMapConflicts)
    (hstored : s.configMaps.get? key = some current) (version : Option String) :
    ∃ message, s.deleteConfigMap key version =
      (.error (.conflict message), s.overtakenConfigMap key) := by
  have hfind : s.find (α := ConfigMap) key = .ok current := find_eq_ok.mpr hstored
  simp only [deleteConfigMap, guarded, hfind]
  exact meetConflict_of_ordered hordered key _

end Store

namespace Task

/-- An artifact that is stored is left as it is, whatever has been ordered. -/
theorem run_writeArtifact_of_isStored (hstored : desired.IsStored s ns) :
    (writeArtifact ns desired).run (serve order readiness) s =
      (.ok (if desired.isEmpty then .absent else .unchanged), s) := by
  rw [writeArtifact, run_call_bind (s.serve_getConfigMap order readiness _)]
  cases hempty : desired.isEmpty with
  | true =>
    rw [(Artifact.isStored_iff_of_isEmpty hempty).mp hstored]
    rfl
  | false =>
    obtain ⟨c, hc, hdecode⟩ := (Artifact.isStored_iff_of_ne hempty).mp hstored
    rw [hc]
    simp only [Bool.false_eq_true, if_false, Artifact.isDescribedBy_iff.mpr hdecode, if_true]
    rfl

/-- An artifact that is to be written is not, if a conflict is in the way. -/
theorem run_writeArtifact_of_ordered (order : List AddressPool → List AddressPool)
    (readiness : Except OperatorError Readiness) (hs : s.Keyed)
    (hordered : 0 < s.configMapConflicts) (hnot : ¬desired.IsStored s ns) :
    ∃ message, (writeArtifact ns desired).run (serve order readiness) s =
      (.error (.store (.conflict message)), s.overtakenConfigMap (Artifact.keyIn ns)) := by
  rw [writeArtifact, run_call_bind (s.serve_getConfigMap order readiness _)]
  cases hget : s.configMaps.get? (Artifact.keyIn ns) with
  | none =>
    cases hempty : desired.isEmpty with
    | true => exact absurd ((Artifact.isStored_iff_of_isEmpty hempty).mpr hget) hnot
    | false =>
      have hkey : (Artifact.newConfigMap ns desired.encode).metadata.HasKey (Artifact.keyIn ns) :=
        ⟨rfl, rfl⟩
      obtain ⟨message, hcreate⟩ := Store.createConfigMap_of_ordered hordered hkey
      simp only [Bool.false_eq_true, if_false]
      rw [createArtifact, run_call_bind hcreate]
      exact ⟨message, rfl⟩
  | some current =>
    cases hempty : desired.isEmpty with
    | true =>
      obtain ⟨message, hdelete⟩ :=
        Store.deleteConfigMap_of_ordered hordered hget current.metadata.resourceVersion
      simp only [if_true]
      rw [deleteArtifact, run_call_bind hdelete]
      exact ⟨message, rfl⟩
    | false =>
      have hcurrent := hs.configMaps hget
      have hkey : (Artifact.updateConfigMap current desired.encode).metadata.HasKey
        (Artifact.keyIn ns) := ⟨hcurrent.1, hcurrent.2⟩
      obtain ⟨message, hreplace⟩ := Store.replaceConfigMap_of_ordered hordered hkey hget
      have hdescribed : ¬desired.isDescribedBy (Artifact.storedText current) = true := by
        intro hdescribed
        exact hnot ((Artifact.isStored_iff_of_ne hempty).mpr
          ⟨current, hget, Artifact.isDescribedBy_iff.mp hdescribed⟩)
      simp only [Bool.false_eq_true, if_false, if_neg hdescribed]
      rw [replaceArtifact, run_call_bind hreplace]
      exact ⟨message, rfl⟩

/-! ## Attempts -/

/-- An attempt comes to what the write comes to, with the pools that have been listed. -/
theorem run_settleOnce (hs : s.Keyed) (hkind : s.hasPoolKind = true)
    (horder : ∀ pools, (order pools).Perm pools) {result : Except OperatorError AggregateOutcome}
    (hwrite : (writeArtifact ns ⟨s.entries ns⟩).run (serve order readiness) s = (result, s')) :
    (settleOnce ns).run (serve order readiness) s =
      (result.map fun outcome => (order (s.poolsIn ns), outcome), s') := by
  rw [settleOnce, run_call_bind (Store.serve_listPools hkind ns)]
  dsimp only
  rw [run_bind, hs.ofPools_eq (horder _), hwrite]
  cases result <;> rfl

/-- Every attempt uses up a conflict until none is left. Then the artifact is written, and else the
attempts are used up. -/
theorem run_settleWithin (horder : ∀ pools, (order pools).Perm pools)
    (readiness : Except OperatorError Readiness) (ns : String) (total left : Nat) :
    ∀ {s : Store}, s.Keyed → s.hasPoolKind = true → ¬Artifact.IsStored ⟨s.entries ns⟩ s ns →
      (s.configMapConflicts < left → ∃ t outcome t', Store.Redated (Artifact.keyIn ns) s t ∧
        t.configMapConflicts = 0 ∧ Written t ns ⟨s.entries ns⟩ outcome t' ∧
        (settleWithin total ns left).run (serve order readiness) s =
          (.ok (order (s.poolsIn ns), outcome), t')) ∧
      (left ≤ s.configMapConflicts → ∃ t, Store.Redated (Artifact.keyIn ns) s t ∧
        t.configMapConflicts = s.configMapConflicts - left ∧
        (settleWithin total ns left).run (serve order readiness) s =
          (.error (.conflictsExhausted s!"ConfigMap {(Artifact.keyIn ns).display}" total), t)) := by
  induction left with
  | zero =>
    intro s _ _ _
    exact ⟨fun h => absurd h (Nat.not_lt_zero _), fun _ => ⟨s, .refl _ s, rfl, rfl⟩⟩
  | succ left ih =>
    intro s hs hkind hnot
    rw [settleWithin, run_bind]
    by_cases hordered : 0 < s.configMapConflicts
    · obtain ⟨message, hwrite⟩ := run_writeArtifact_of_ordered order readiness hs hordered hnot
      have hrun := run_settleOnce hs hkind horder hwrite
      have hredated := Store.redated_overtaken (Artifact.keyIn ns) hordered
      have hconflicts := s.configMapConflicts_overtaken (Artifact.keyIn ns)
      have hkeyed := hs.run order readiness (settleOnce ns)
      rw [hrun] at hkeyed ⊢
      dsimp only [Except.map] at hkeyed ⊢
      generalize s.overtakenConfigMap (Artifact.keyIn ns) = s₁ at hredated hconflicts hkeyed ⊢
      -- the next attempt finds the same pools and still has something to write
      have hpools : s₁.pools = s.pools := by rw [hredated.same]
      have hkind₁ : s₁.hasPoolKind = true := by rw [hredated.same, hkind]
      have hentries : s₁.entries ns = s.entries ns := Store.entries_of_pools_eq hpools
      have hlisted : s₁.poolsIn ns = s.poolsIn ns := by rw [Store.poolsIn, Store.poolsIn, hpools]
      obtain ⟨hfewer, hmore⟩ := ih hkeyed hkind₁ (by rwa [hentries, hredated.isStored_iff])
      rw [hconflicts, hentries, hlisted] at hfewer
      rw [hconflicts] at hmore
      refine ⟨fun h => ?_, fun h => ?_⟩
      · obtain ⟨t, outcome, t', ht, hrest⟩ := hfewer (by omega)
        exact ⟨t, outcome, t', hredated.trans ht, hrest⟩
      · obtain ⟨t, ht, hleft, hrest⟩ := hmore (Nat.le_sub_one_of_lt h)
        refine ⟨t, hredated.trans ht, ?_, hrest⟩
        rw [hleft, Nat.sub_sub, Nat.add_comm]
    · have hzero : s.configMapConflicts = 0 := by omega
      obtain ⟨outcome, s', hwrite, hwritten⟩ :=
        run_writeArtifact order readiness hs hzero ns ⟨s.entries ns⟩
      refine ⟨fun _ => ⟨s, outcome, s', .refl _ s, hzero, hwritten, ?_⟩, fun h => by omega⟩
      rw [run_settleOnce hs hkind horder hwrite]
      rfl

/-- An artifact that is stored takes one attempt and no conflict. -/
theorem run_settleWithin_of_isStored (hs : s.Keyed) (hkind : s.hasPoolKind = true)
    (horder : ∀ pools, (order pools).Perm pools) (readiness : Except OperatorError Readiness)
    (hstored : Artifact.IsStored ⟨s.entries ns⟩ s ns) (total : Nat) {left : Nat}
    (hleft : 0 < left) :
    (settleWithin total ns left).run (serve order readiness) s = (.ok (order (s.poolsIn ns),
      if (s.entries ns).isEmpty then .absent else .unchanged), s) := by
  cases left with
  | zero => exact absurd hleft (Nat.lt_irrefl 0)
  | succ left =>
    rw [settleWithin, run_bind,
      run_settleOnce hs hkind horder (run_writeArtifact_of_isStored hstored)]
    rfl

/-! ## Reports -/

/-- Reports leave config maps alone, and what is counted and ordered for them. -/
theorem poolsOnly_reportVerdicts (order : List AddressPool → List AddressPool)
    (readiness : Except OperatorError Readiness) (attempts : Nat) (ns : String)
    (vs : List PoolVerdict) (s : Store) :
    s.PoolsOnly ((reportVerdicts attempts ns vs).run (serve order readiness) s).2 := by
  refine (isAside_reportVerdicts attempts ns vs).run (fun request s' hrequest hs' => ?_)
    (Store.PoolsOnly.refl s)
  rcases request with call | object | operation
  · cases call with
    | getPool key => exact hs'
    | patchPoolStatus p => exact s.keptBeside_poolsOnly.patchStatus hs' p
    | _ => exact hrequest.elim
  · exact hrequest.elim
  · exact hs'

end Task

/-! ## What is written -/

/-- What becomes of the config map of a namespace if an artifact is to be written, by the config map
that is there and the version that is due. -/
def Artifact.aftermath (ns : String) (desired : Artifact) (version : Nat) :
    Option ConfigMap → AggregateOutcome × Option ConfigMap
  | none =>
    let c := newConfigMap ns desired.encode
    (.created, some { c with metadata := Store.stampCreated c.metadata version })
  | some current =>
    let c := updateConfigMap current desired.encode
    if desired.isEmpty then (.deleted, none)
    else
      let md := Store.stampReplaced c.metadata current.metadata version
      (.updated, some { c with metadata := md })

/-- What is there with another version is treated in the same way. -/
theorem Artifact.aftermath_undated {c c' : ConfigMap} (a : Artifact) (h : c'.undated = c.undated)
    (version version' : Nat) :
    (a.aftermath ns version' (some c')).1 = (a.aftermath ns version (some c)).1 ∧
      (a.aftermath ns version' (some c')).2.map ConfigMap.undated =
        (a.aftermath ns version (some c)).2.map ConfigMap.undated := by
  -- nothing is taken from a config map but what it has without its version
  have haftermath (d : ConfigMap) (v : Nat) :
      (a.aftermath ns v (some d)).1 = (a.aftermath ns 0 (some d.undated)).1 ∧
        (a.aftermath ns v (some d)).2.map ConfigMap.undated =
          (a.aftermath ns 0 (some d.undated)).2.map ConfigMap.undated := by
    unfold aftermath
    dsimp only
    split <;> exact ⟨rfl, rfl⟩
  obtain ⟨houtcome, hleft⟩ := haftermath c version
  obtain ⟨houtcome', hleft'⟩ := haftermath c' version'
  rw [houtcome, hleft, houtcome', hleft', h]
  exact ⟨rfl, rfl⟩

theorem Written.aftermath (h : Written s ns desired outcome s') (hnot : ¬desired.IsStored s ns) :
    let after := desired.aftermath ns s.nextVersion (s.configMaps.get? (Artifact.keyIn ns))
    outcome = after.1 ∧ s'.configMaps.get? (Artifact.keyIn ns) = after.2 := by
  intro after
  unfold after
  cases h with
  | absent hempty hfree => exact absurd ((Artifact.isStored_iff_of_isEmpty hempty).mpr hfree) hnot
  | deleted hempty hstored =>
    rw [hstored, Artifact.aftermath, if_pos hempty]
    exact ⟨rfl, SortedMap.get?_erase_self _ _⟩
  | created hsome hfree =>
    rw [hfree, Artifact.aftermath]
    exact ⟨rfl, SortedMap.get?_insert_self _ _ _⟩
  | unchanged hsome hstored hdescribed =>
    exact absurd ((Artifact.isStored_iff_of_ne hsome).mpr
      ⟨_, hstored, Artifact.isDescribedBy_iff.mp hdescribed⟩) hnot
  | updated hsome hstored hdescribed =>
    rw [hstored, Artifact.aftermath, if_neg (by rw [hsome]; exact Bool.false_ne_true)]
    exact ⟨rfl, SortedMap.get?_insert_self _ _ _⟩

/-- What is written for two stores that differ in versions only differs in versions only. -/
theorem Written.alike (h : Written s ns desired outcome s') (h' : Written t ns desired outcome' t')
    (hnot : ¬desired.IsStored s ns) (ht : Store.Redated (Artifact.keyIn ns) s t) :
    outcome' = outcome ∧ ∀ key, (t'.configMaps.get? key).map ConfigMap.undated =
      (s'.configMaps.get? key).map ConfigMap.undated := by
  obtain ⟨houtcome, hs'⟩ := h.aftermath hnot
  obtain ⟨houtcome', ht'⟩ := h'.aftermath (mt ht.isStored_iff.mp hnot)
  have hundated := ht.undated (Artifact.keyIn ns)
  have hat : outcome' = outcome ∧
      (t'.configMaps.get? (Artifact.keyIn ns)).map ConfigMap.undated =
        (s'.configMaps.get? (Artifact.keyIn ns)).map ConfigMap.undated := by
    rw [houtcome, houtcome', hs', ht']
    cases hget : s.configMaps.get? (Artifact.keyIn ns) with
    | none =>
      rw [ht.get?_eq_none hget, ht.nextVersion hget]
      exact ⟨rfl, rfl⟩
    | some current =>
      rw [hget] at hundated
      obtain ⟨c, hc, hsame⟩ := Option.map_eq_some_iff.mp hundated
      rw [hc]
      exact desired.aftermath_undated hsame _ _
  refine ⟨hat.1, fun key => ?_⟩
  by_cases hkey : key = Artifact.keyIn ns
  · rw [hkey]
    exact hat.2
  · rw [h.get?_of_ne hkey, h'.get?_of_ne hkey, ht.undated]

/-- What has to be written is written once. -/
theorem Written.once (h : Written s ns desired outcome s') (hnot : ¬desired.IsStored s ns) :
    (outcome = .created ∨ outcome = .updated ∨ outcome = .deleted) ∧
      s'.configMapWrites = s.configMapWrites + 1 := by
  cases h with
  | absent hempty hfree => exact absurd ((Artifact.isStored_iff_of_isEmpty hempty).mpr hfree) hnot
  | unchanged hsome hstored hdescribed =>
    exact absurd ((Artifact.isStored_iff_of_ne hsome).mpr
      ⟨_, hstored, Artifact.isDescribedBy_iff.mp hdescribed⟩) hnot
  | deleted => exact ⟨.inr (.inr rfl), rfl⟩
  | created => exact ⟨.inl rfl, rfl⟩
  | updated => exact ⟨.inr (.inl rfl), rfl⟩

/-! ## Any merge -/

namespace Task

variable {attempts : Nat}

/-- Once the artifact is settled, there are only reports to come. -/
theorem run_aggregate_of_settled {pools : List AddressPool}
    (h : (settleWithin attempts ns attempts).run (serve order readiness) s =
      (.ok (pools, outcome), t)) (now : String) :
    ∃ t', (aggregate now attempts ns).run (serve order readiness) s = (.ok outcome, t') ∧
      t.PoolsOnly t' := by
  rw [aggregate, aggregateWithin_eq, run_bind, h, run_conclude]
  exact ⟨_, rfl, poolsOnly_reportVerdicts _ _ _ _ _ _⟩

theorem run_aggregate_of_error {e : OperatorError}
    (h : (settleWithin attempts ns attempts).run (serve order readiness) s = (.error e, t))
    (now : String) :
    (aggregate now attempts ns).run (serve order readiness) s = (.error e, t) := by
  rw [aggregate, aggregateWithin_eq, run_bind, h]
  rfl

/-- A merge with attempts to spare comes to what it would come to without conflicts. -/
theorem run_aggregate_of_fewer (hs : s.Keyed) (hkind : s.hasPoolKind = true)
    (horder : ∀ pools, (order pools).Perm pools) (readiness : Except OperatorError Readiness)
    (hnot : ¬Artifact.IsStored ⟨s.entries ns⟩ s ns) (hless : s.configMapConflicts < attempts)
    (now : String) :
    ∃ outcome t t₀, (aggregate now attempts ns).run (serve order readiness) s = (.ok outcome, t) ∧
      (aggregate now attempts ns).run (serve order readiness) { s with configMapConflicts := 0 } =
        (.ok outcome, t₀) ∧
      (outcome = .created ∨ outcome = .updated ∨ outcome = .deleted) ∧
      (∀ key, (t.configMaps.get? key).map ConfigMap.undated =
        (t₀.configMaps.get? key).map ConfigMap.undated) ∧
      t.configMapConflicts = 0 ∧ t.configMapWrites = s.configMapWrites + 1 := by
  obtain ⟨t, outcome, t', hredated, hzero, hwritten, hsettled⟩ :=
    (run_settleWithin horder readiness ns attempts attempts hs hkind hnot).1 hless
  obtain ⟨t'', hrun, hpools⟩ := run_aggregate_of_settled hsettled now
  have hattempts : 0 < attempts := by omega
  have hs₀ : { s with configMapConflicts := 0 }.Keyed := ⟨hs.pools, hs.configMaps, hs.instances⟩
  obtain ⟨outcome₀, s₀', hwritten₀, -, hrun₀⟩ :=
    run_aggregate hs₀ hkind rfl horder readiness hattempts now ns
  have hreports := poolsOnly_reportVerdicts order readiness attempts ns
    (PoolVerdict.ofPools now (order (s.poolsIn ns))) s₀'
  have hredated₀ : Store.Redated (Artifact.keyIn ns) { s with configMapConflicts := 0 } t :=
    ⟨hredated.same, hredated.undated, hredated.nextVersion⟩
  obtain ⟨rfl, halike⟩ := Written.alike hwritten₀ hwritten hnot hredated₀
  obtain ⟨houtcome, hwrites⟩ := hwritten.once (mt hredated.isStored_iff.mp hnot)
  refine ⟨outcome, t'', _, hrun, hrun₀, houtcome, fun key => ?_, ?_, ?_⟩
  · rw [hpools.configMaps, halike]
    exact congrArg (fun m => (m.get? key).map ConfigMap.undated) hreports.configMaps.symm
  · rw [hpools.configMapConflicts, hwritten.pools_eq.2.2.1, hzero]
  · rw [hpools.configMapWrites, hwrites, hredated.same]

/-- A merge that needs more attempts than it has gives up, and has changed versions only. -/
theorem run_aggregate_of_more (hs : s.Keyed) (hkind : s.hasPoolKind = true)
    (horder : ∀ pools, (order pools).Perm pools) (readiness : Except OperatorError Readiness)
    (hnot : ¬Artifact.IsStored ⟨s.entries ns⟩ s ns) (hle : attempts ≤ s.configMapConflicts)
    (now : String) :
    ∃ t, (aggregate now attempts ns).run (serve order readiness) s =
        (.error (.conflictsExhausted s!"ConfigMap {(Artifact.keyIn ns).display}" attempts), t) ∧
      Store.Redated (Artifact.keyIn ns) s t ∧
      t.configMapConflicts = s.configMapConflicts - attempts := by
  obtain ⟨t, hredated, hleft, hsettled⟩ :=
    (run_settleWithin horder readiness ns attempts attempts hs hkind hnot).2 hle
  exact ⟨t, run_aggregate_of_error hsettled now, hredated, hleft⟩

end Task

end Runs

/-- **Attempts against conflicts.** In a reachable store that nobody else uses, a merge that has
nothing to write meets no conflict. One that has something to write and more attempts than there
are conflicts ordered for config maps has the result that it has without conflicts, leaves the same
config maps up to their versions, writes one of them once and uses all conflicts up. One with no
more attempts than conflicts fails, though not for good: each attempt has used up a conflict,
versions of config maps may have changed, and nothing else has. -/
theorem World.aggregate_conflicts {order : List AddressPool → List AddressPool}
    (horder : ∀ pools, (order pools).Perm pools) {w : World} (hreach : w.store.Reachable)
    (hkind : w.store.hasPoolKind = true) (hquiet : w.disturbances = []) (hattempts : 0 < w.attempts)
    (now ns : String) :
    let r := (Task.aggregate now w.attempts ns).run (World.answerIn order) w
    let spared := (Task.aggregate now w.attempts ns).run (World.answerIn order)
      { w with store := { w.store with configMapConflicts := 0 } }
    let isRequired := ¬Artifact.IsStored ⟨w.store.entries ns⟩ w.store ns
    (¬isRequired → (r.1 = .ok .unchanged ∨ r.1 = .ok .absent) ∧
      r.2.store.configMapConflicts = w.store.configMapConflicts) ∧
    (isRequired → w.store.configMapConflicts < w.attempts →
      (∃ outcome, r.1 = .ok outcome ∧ spared.1 = .ok outcome ∧
        (outcome = .created ∨ outcome = .updated ∨ outcome = .deleted)) ∧
      (∀ key, (r.2.store.configMaps.get? key).map ConfigMap.undated =
        (spared.2.store.configMaps.get? key).map ConfigMap.undated) ∧
      r.2.store.configMapConflicts = 0 ∧
      r.2.store.configMapWrites = w.store.configMapWrites + 1) ∧
    (isRequired → w.attempts ≤ w.store.configMapConflicts →
      (∃ e, r.1 = .error e ∧ e.isFatal = false ∧
        e = .conflictsExhausted s!"ConfigMap {(Artifact.keyIn ns).display}" w.attempts) ∧
      r.2.store.configMapConflicts = w.store.configMapConflicts - w.attempts ∧
      (∀ key, (r.2.store.configMaps.get? key).map ConfigMap.undated =
        (w.store.configMaps.get? key).map ConfigMap.undated) ∧
      r.2.store.configMapWrites = w.store.configMapWrites ∧
      r.2.store.statusWrites = w.store.statusWrites ∧ r.2.store.pools = w.store.pools) := by
  intro r spared isRequired
  have hs := hreach.keyed
  have hcalm : w.Calm w.readiness w.operator.settings := ⟨hquiet, rfl, rfl⟩
  obtain ⟨w', hrun, hstore, -⟩ := hcalm.run order (Task.aggregate now w.attempts ns)
  have hr : r = _ := hrun
  rw [hr]
  dsimp only
  rw [hstore]
  refine ⟨fun hnot => ?_, fun hnot hless => ?_, fun hnot hle => ?_⟩
  · have hsettled := Task.run_settleWithin_of_isStored hs hkind horder w.readiness
      (Decidable.not_not.mp hnot) w.attempts hattempts
    obtain ⟨t, haggregate, hpools⟩ := Task.run_aggregate_of_settled hsettled now
    rw [haggregate]
    refine ⟨?_, hpools.configMapConflicts⟩
    split
    · exact .inr rfl
    · exact .inl rfl
  · obtain ⟨outcome, t, t₀, haggregate, haggregate₀, houtcome, hundated, hleft, hwrites⟩ :=
      Task.run_aggregate_of_fewer hs hkind horder w.readiness hnot hless now
    have hcalm₀ : World.Calm { w with store := { w.store with configMapConflicts := 0 } }
      w.readiness w.operator.settings := ⟨hquiet, rfl, rfl⟩
    obtain ⟨w₀, hrun₀, hstore₀, -⟩ := hcalm₀.run order (Task.aggregate now w.attempts ns)
    have hspared : spared = _ := hrun₀
    rw [hspared, haggregate, haggregate₀]
    dsimp only
    rw [hstore₀, haggregate₀]
    exact ⟨⟨outcome, rfl, rfl, houtcome⟩, hundated, hleft, hwrites⟩
  · obtain ⟨t, haggregate, hredated, hleft⟩ :=
      Task.run_aggregate_of_more hs hkind horder w.readiness hnot hle now
    rw [haggregate]
    dsimp only
    refine ⟨⟨_, rfl, rfl, rfl⟩, hleft, hredated.undated, ?_, ?_, ?_⟩
    all_goals rw [hredated.same]

theorem World.aggregate_conflicts_crowded :
    let jammed (attempts : UInt32) : World := { crowded with
      store := crowded.store.edits [.orderConfigMapConflicts 1]
      operator := { settings := { crowded.operator.settings with maxAttempts := attempts } } }
    let left (attempts : UInt32) :=
      (Task.aggregate "now" (jammed attempts).attempts "x").run (answerIn List.reverse)
        (jammed attempts)
    (left 1).1 = .error (.conflictsExhausted "ConfigMap x/config" 1) ∧
      (left 1).2.store.configMapWrites = 0 ∧ (left 1).2.store.pools = crowded.store.pools ∧
      (∃ outcome, (left 2).1 = .ok outcome) ∧ (left 2).2.store.configMapConflicts = 0 ∧
      (left 2).2.store.configMapWrites = 1 := by
  intro jammed left
  have hreach : (crowded.store.edits [.orderConfigMapConflicts 1]).Reachable :=
    Store.Reachable.edits ⟨_, rfl⟩ _
  obtain ⟨-, -, hmore⟩ := aggregate_conflicts (w := jammed 1) List.reverse_perm hreach
    (by decide +kernel) rfl (by decide) "now" "x"
  obtain ⟨⟨e, he, -, hexhausted⟩, -, -, hnone, -, hpools⟩ :=
    hmore (by decide +kernel) (by decide +kernel)
  obtain ⟨-, hfewer, -⟩ := aggregate_conflicts (w := jammed 2) List.reverse_perm hreach
    (by decide +kernel) rfl (by decide) "now" "x"
  obtain ⟨⟨outcome, houtcome, -⟩, -, hleft, hone⟩ := hfewer (by decide +kernel) (by decide +kernel)
  exact ⟨he.trans (congrArg _ hexhausted), hnone, hpools, ⟨outcome, houtcome⟩, hleft, hone⟩

end PoolOperator
