import PoolOperator.Proofs.Reconcile.Aggregate

/-!
# Convergence

A merge in which nobody else takes part makes the artifact of a namespace a function of its live
pools, whatever was stored before and whatever order the pools are listed in. A second merge then
leaves the whole store as it is.
-/

namespace PoolOperator

/-- A world in which one of three pools of a namespace is to be described, and a config map that
describes none. -/
def World.crowded : World where
  store := ({} : Store).edits
    [.addPool {
        metadata := { name := some "b", ns := some "x" }
        spec := ⟨"layer2", ["10.0.0.0/24"], some true⟩
        status := some ⟨[⟨"Ready", .true, "", "", none⟩]⟩ },
      .addPool { metadata := { name := some "a", ns := some "x" }, spec := ⟨"bgp", [], none⟩ },
      .addPool {
        metadata := {
          name := some "c"
          ns := some "x"
          deletionTimestamp := some ⟨"2020-01-01T00:00:00Z", by decide⟩ }
        spec := ⟨"layer2", [], none⟩ },
      .addConfigMap { metadata := { name := some "config", ns := some "x" } }]
  operator := { settings := ⟨"x", 1, 1, 1, 1, ⟨.v4 0, 0, 0⟩⟩ }

/-! ## Convergence -/

/-- **The artifact follows the live pools.** A merge in a reachable store succeeds. Afterwards the
config map describes the entries of the live valid pools in the order of their names, and the
outcome tells what had to be done for this. -/
theorem World.aggregate_follows_pools {order : List AddressPool → List AddressPool}
    (horder : ∀ pools, (order pools).Perm pools) {w : World} (hreach : w.store.Reachable)
    (hkind : w.store.hasPoolKind = true) (hconflicts : w.store.configMapConflicts = 0)
    (hquiet : w.disturbances = []) (hattempts : 0 < w.attempts) (now ns : String) :
    let entries := w.store.entries ns
    let before := w.store.configMaps.get? (Artifact.keyIn ns)
    (∀ e, e ∈ entries ↔ ∃ name p, w.store.pools.get? ⟨ns, name⟩ = some p ∧
        p.isBeingDeleted = false ∧ PoolEntry.ofPool p = .ok e) ∧
      Ordered entries ∧
      ∃ outcome w', (Task.aggregate now w.attempts ns).run (World.answerIn order) w =
          (.ok outcome, w') ∧
        let after := w'.store.configMaps.get? (Artifact.keyIn ns)
        (entries = [] → after = none ∧ outcome = if before.isSome then .deleted else .absent) ∧
        (entries ≠ [] → before = none → outcome = .created ∧
          ∃ c, after = some c ∧ Artifact.storedText c = Artifact.encode ⟨entries⟩) ∧
        (entries ≠ [] → ∀ c, before = some c →
          Artifact.decode (Artifact.storedText c) = .ok ⟨entries⟩ →
            outcome = .unchanged ∧ after = some c) ∧
        (entries ≠ [] → ∀ c, before = some c →
          Artifact.decode (Artifact.storedText c) ≠ .ok ⟨entries⟩ → outcome = .updated ∧
            ∃ c', after = some c' ∧ Artifact.storedText c' = Artifact.encode ⟨entries⟩) ∧
        (entries ≠ [] → ∃ c, after = some c ∧
          Artifact.decode (Artifact.storedText c) = .ok ⟨entries⟩) ∧
        ∀ key, key ≠ Artifact.keyIn ns →
          w'.store.configMaps.get? key = w.store.configMaps.get? key := by
  have hs := hreach.keyed
  have hcalm : w.Calm w.readiness w.operator.settings := ⟨hquiet, rfl, rfl⟩
  intro entries before
  refine ⟨fun _ => Store.mem_entries, hs.ordered_entries ns, ?_⟩
  obtain ⟨outcome, s₁, hwritten, -, hrun⟩ := Task.run_aggregate hs hkind hconflicts horder
    w.readiness hattempts now ns
  obtain ⟨w', hrun', hstore, -⟩ := hcalm.run order (Task.aggregate now w.attempts ns)
  rw [hrun] at hrun' hstore
  -- reports leave config maps alone, so that what was written is what is found
  have hframe := Task.statusOnly_run (Task.isAside_reportVerdicts w.attempts ns
    (PoolVerdict.ofPools now (order (w.store.poolsIn ns)))) order w.readiness s₁
  have hafter : w'.store.configMaps = s₁.configMaps := by
    rw [hstore]
    exact hframe.configMaps
  have hstored := hwritten.isStored (hs.normal_entries ns)
  refine ⟨outcome, w', hrun', ?_⟩
  rw [hafter]
  have hsome (hne : entries ≠ []) : (⟨entries⟩ : Artifact).isEmpty = false :=
    List.isEmpty_eq_false_iff.mpr hne
  refine ⟨?_, ?_, ?_, ?_, ?_, fun _ hkey => hwritten.get?_of_ne hkey⟩
  · intro hempty
    exact hwritten.of_isEmpty (List.isEmpty_iff.mpr hempty)
  · intro hne hfree
    exact hwritten.of_free (hsome hne) hfree
  · intro hne c hc hdecode
    have h : (⟨entries⟩ : Artifact).IsStored w.store ns :=
      (Artifact.isStored_iff_of_ne (hsome hne)).mpr ⟨c, hc, hdecode⟩
    obtain ⟨rfl, houtcome⟩ := hwritten.of_isStored h
    rw [hsome hne] at houtcome
    exact ⟨houtcome, hc⟩
  · intro hne c hc hdecode
    refine hwritten.of_not_isDescribedBy (hsome hne) hc ?_
    rw [← Bool.not_eq_true, Artifact.isDescribedBy_iff]
    exact hdecode
  · intro hne
    exact (Artifact.isStored_iff_of_ne (hsome hne)).mp hstored

theorem World.aggregate_follows_pools_crowded :
    ∃ w' c, (Task.aggregate "now" crowded.attempts "x").run (answerIn List.reverse) crowded =
        (.ok .updated, w') ∧ w'.store.configMaps.get? (Artifact.keyIn "x") = some c ∧
      Artifact.decode (Artifact.storedText c) = .ok ⟨[⟨"b", .layer2, none, ["10.0.0.0/24"]⟩]⟩ := by
  have hentries : crowded.store.entries "x" = [⟨"b", .layer2, none, ["10.0.0.0/24"]⟩] := by
    decide +kernel
  obtain ⟨-, -, outcome, w', hrun, -, -, -, hupdated, hdecode, -⟩ :=
    aggregate_follows_pools (w := crowded) List.reverse_perm ⟨_, rfl⟩ (by decide +kernel)
      (by decide +kernel) rfl (by decide) "now" "x"
  rw [hentries] at hupdated hdecode
  obtain ⟨c, hafter, hc⟩ := hdecode (by decide)
  obtain ⟨d, hd, hdata⟩ : ∃ d, crowded.store.configMaps.get? (Artifact.keyIn "x") = some d ∧
      d.data = none :=
    ⟨(crowded.store.configMaps.get? (Artifact.keyIn "x")).get (by decide +kernel),
      (Option.some_get _).symm, by decide +kernel⟩
  have hnot : Artifact.decode (Artifact.storedText d) ≠
      .ok ⟨[⟨"b", .layer2, none, ["10.0.0.0/24"]⟩]⟩ := by
    rw [Artifact.storedText, hdata]
    decide +kernel
  obtain ⟨rfl, -⟩ := hupdated (by decide) d hd hnot
  exact ⟨w', c, hrun, hafter, hc⟩

/-! ## Repetition -/

/-- **A merge behind a merge changes nothing.** It may be made by another operator on the same store,
at another time and with the pools in another order. -/
theorem World.aggregate_again {order order' : List AddressPool → List AddressPool}
    (horder : ∀ pools, (order pools).Perm pools) (horder' : ∀ pools, (order' pools).Perm pools)
    {w w' v : World} {outcome : AggregateOutcome} {now ns : String}
    (hreach : w.store.Reachable) (hkind : w.store.hasPoolKind = true)
    (hconflicts : w.store.configMapConflicts = 0) (hstatus : w.store.statusConflicts = 0)
    (hquiet : w.disturbances = []) (hattempts : 0 < w.attempts)
    (hfirst : (Task.aggregate now w.attempts ns).run (World.answerIn order) w = (.ok outcome, w'))
    (hshared : v.store = w'.store) (hquiet' : v.disturbances = []) (hattempts' : 0 < v.attempts)
    (now' : String) :
    ∃ outcome' v', (Task.aggregate now' v.attempts ns).run (World.answerIn order') v =
        (.ok outcome', v') ∧ v'.store = w'.store ∧
      let hasEntry := ∃ name p e, w.store.pools.get? ⟨ns, name⟩ = some p ∧
        p.isBeingDeleted = false ∧ PoolEntry.ofPool p = .ok e
      (hasEntry → outcome' = .unchanged) ∧ (¬hasEntry → outcome' = .absent) := by
  have hcalm : w.Calm w.readiness w.operator.settings := ⟨hquiet, rfl, rfl⟩
  have hcalm' : v.Calm v.readiness v.operator.settings := ⟨hquiet', rfl, rfl⟩
  obtain ⟨u, hrun, hstore, -⟩ := hcalm.run order (Task.aggregate now w.attempts ns)
  rw [hfirst] at hrun
  obtain rfl : w' = u := congrArg Prod.snd hrun
  obtain ⟨v', hrun', hstore', -⟩ := hcalm'.run order' (Task.aggregate now' v.attempts ns)
  have hagain := Task.run_aggregate_again hreach.keyed hkind hconflicts hstatus horder horder'
    w.readiness v.readiness hattempts hattempts' now now' ns
  dsimp only at hagain
  rw [← hstore, ← hshared] at hagain
  rw [hagain] at hrun' hstore'
  refine ⟨_, v', hrun', hstore'.trans hshared, ?_⟩
  intro hasEntry
  have hiff : hasEntry ↔ (w.store.entries ns).isEmpty = false := by
    rw [List.isEmpty_eq_false_iff_exists_mem]
    simp only [Store.mem_entries]
    exact ⟨fun ⟨name, p, e, h⟩ => ⟨e, name, p, h⟩, fun ⟨e, name, p, h⟩ => ⟨name, p, e, h⟩⟩
  rw [hiff]
  constructor
  · intro h
    rw [h]
    rfl
  · intro h
    rw [Bool.not_eq_false] at h
    rw [h]
    rfl

theorem World.aggregate_again_crowded :
    ∃ w' v', (Task.aggregate "now" crowded.attempts "x").run (answerIn List.reverse) crowded =
        (.ok .updated, w') ∧
      (Task.aggregate "later" w'.attempts "x").run (answerIn id) w' = (.ok .unchanged, v') ∧
      v'.store = w'.store := by
  let w' := ((Task.aggregate "now" crowded.attempts "x").run (answerIn List.reverse) crowded).2
  have hfirst : (Task.aggregate "now" crowded.attempts "x").run (answerIn List.reverse) crowded =
    (.ok .updated, w') := Prod.ext (by decide +kernel) rfl
  obtain ⟨outcome, v', hrun, hstore, hunchanged, -⟩ :=
    aggregate_again List.reverse_perm (fun pools => List.Perm.refl (id pools)) ⟨_, rfl⟩
      (by decide +kernel) (by decide +kernel) (by decide +kernel) rfl (by decide) hfirst rfl
      (by decide +kernel) (by decide +kernel) "later"
  have hentry : ∃ p e, crowded.store.pools.get? ⟨"x", "b"⟩ = some p ∧ p.isBeingDeleted = false ∧
      PoolEntry.ofPool p = .ok e :=
    ⟨(crowded.store.pools.get? ⟨"x", "b"⟩).get (by decide +kernel),
      ⟨"b", .layer2, none, ["10.0.0.0/24"]⟩, (Option.some_get _).symm, by decide +kernel,
      by decide +kernel⟩
  obtain rfl := hunchanged ⟨"b", hentry⟩
  exact ⟨w', v', hfirst, hrun, hstore⟩

end PoolOperator
