import PoolOperator.Proofs.Reconcile.Tell
import PoolOperator.Proofs.Reconcile.Write

/-!
# Merging the pools of a namespace

When nobody else acts, a merge brings the stored artifact in line with the live pools and tells
every pool its verdict. The pools themselves stay as they are, so a second merge finds nothing to
do.
-/

namespace PoolOperator

open Store (serve)

/-! ## Verdicts of a namespace -/

namespace PoolVerdict

variable {now now' : String} {p p' : AddressPool} {v v' : PoolVerdict}

/-- A verdict is named as its pool, and praises it or states its fault. -/
theorem ofPool?_cases (h : ofPool? now p = some v) :
    v.name = p.metadata.name.getD "" ∧
      ((∃ e, PoolEntry.ofPool p = .ok e ∧ v.conditions = Verdict.mergedConditions now) ∨
        ∃ e, PoolEntry.ofPool p = .error e ∧
          v.conditions = Verdict.invalidSpecConditions now e.message) := by
  unfold ofPool? at h
  cases hentry : PoolEntry.ofPool p with
  | ok e =>
    rw [hentry] at h
    cases h
    exact ⟨rfl, .inl ⟨e, rfl, rfl⟩⟩
  | error e =>
    rw [hentry] at h
    dsimp only at h
    split at h
    · cases h
    · cases h
      exact ⟨rfl, .inr ⟨e, rfl, rfl⟩⟩

theorem nodup_types_of_ofPool? (h : ofPool? now p = some v) :
    (v.conditions.map (·.type)).Nodup := by
  have hne : [Condition.available, Condition.degraded].Nodup := by decide
  rcases (ofPool?_cases h).2 with ⟨e, -, hconditions⟩ | ⟨e, -, hconditions⟩
  · rw [hconditions, Verdict.types_mergedConditions]
    exact hne
  · rw [hconditions, Verdict.types_invalidSpecConditions]
    exact hne

/-- Two verdicts on a pool, its version and status aside, say the same at any time. -/
theorem ofPool?_of_bare_eq (hbare : p'.bare = p.bare) (h : ofPool? now' p' = some v') (now : String) :
    ∃ v, ofPool? now p = some v ∧ v.name = v'.name ∧
      ∀ c' ∈ v'.conditions, ∃ c ∈ v.conditions, c.sameObservation c' = true := by
  have hsame : ofPool? now' p' = ofPool? now' p := by
    show ofPool? now' p'.bare = ofPool? now' p.bare
    rw [hbare]
  rw [hsame] at h
  unfold ofPool? at h ⊢
  cases hentry : PoolEntry.ofPool p with
  | ok e =>
    rw [hentry] at h
    cases h
    exact ⟨_, rfl, rfl, Verdict.sameObservation_mergedConditions now now'⟩
  | error e =>
    rw [hentry] at h
    dsimp only at h ⊢
    split at h
    · cases h
    · cases h
      rw [if_neg (by assumption)]
      exact ⟨_, rfl, rfl, Verdict.sameObservation_invalidSpecConditions now now' e.message⟩

/-- A verdict that holds does so at any time. -/
theorem IsReported.of_same {s : Store} {ns : String} (h : v.IsReported s ns)
    (hname : v.name = v'.name)
    (hsame : ∀ c' ∈ v'.conditions, ∃ c ∈ v.conditions, c.sameObservation c' = true) :
    v'.IsReported s ns := by
  intro p hp c' hc'
  obtain ⟨c, hc, heq⟩ := hsame c' hc'
  rw [← hname] at hp
  exact (h p hp c hc).of_sameObservation heq

theorem mem_ofPools {pools : List AddressPool} :
    v ∈ ofPools now pools ↔ ∃ p ∈ pools, p.isBeingDeleted = false ∧ ofPool? now p = some v := by
  simp [ofPools, livePools, and_assoc]

/-- The pools of a namespace get one verdict each at most. -/
theorem nodup_names_ofPools {s : Store} (hs : s.Keyed) {ns : String} {pools : List AddressPool}
    (h : pools.Perm (s.poolsIn ns)) : ((ofPools now pools).map (·.name)).Nodup := by
  have hperm : ((ofPools now pools).map (·.name)).Perm
      ((ofPools now (s.poolsIn ns)).map (·.name)) := ((h.filter _).filterMap _).map _
  rw [hperm.nodup_iff, List.Nodup, List.pairwise_map, ofPools, livePools, List.pairwise_filterMap]
  refine ((hs.pairwise_poolsIn ns).filter _).imp ?_
  intro p q hlt v hv w hw heq
  rw [← (ofPool?_cases hv).1, ← (ofPool?_cases hw).1, heq] at hlt
  exact String.lt_irrefl _ hlt

end PoolVerdict

/-! ## What leaves the merge as it is -/

namespace Store

theorem Keyed.normal_entries {s : Store} (hs : s.Keyed) (ns : String) :
    (⟨s.entries ns⟩ : Artifact).normal = ⟨s.entries ns⟩ := by
  rw [← hs.ofPools_eq (List.Perm.refl _)]
  exact Artifact.normal_ofPools _

theorem entries_of_pools_eq {s s' : Store} (h : s'.pools = s.pools) {ns : String} :
    s'.entries ns = s.entries ns := by
  rw [entries, entries, poolsIn, poolsIn, h]

/-- Statuses have no part in the merge. -/
theorem StatusOnly.entries_eq {s s' : Store} (h : s.StatusOnly s') (hs : s.Keyed) (hs' : s'.Keyed)
    (ns : String) : s'.entries ns = s.entries ns := by
  refine (hs'.ordered_entries ns).ext (hs.ordered_entries ns) fun e => ?_
  -- whether a pool has an entry, and which one, can be seen in the bare pool
  have hbare (t : Store) : e ∈ t.entries ns ↔ ∃ name p,
      (t.pools.get? ⟨ns, name⟩).map AddressPool.bare = some p ∧ p.isBeingDeleted = false ∧
        PoolEntry.ofPool p = .ok e := by
    rw [mem_entries]
    constructor
    · rintro ⟨name, p, hget, hlive, hentry⟩
      exact ⟨name, p.bare, by rw [hget]; rfl, hlive, hentry⟩
    · rintro ⟨name, q, hget, hlive, hentry⟩
      obtain ⟨p, hp, rfl⟩ := Option.map_eq_some_iff.mp hget
      exact ⟨name, p, hp, hlive, hentry⟩
  rw [hbare, hbare]
  simp only [h.pools]

end Store

/-! ## One merge -/

section Merge

variable {order order' : List AddressPool → List AddressPool}
  {readiness : Except OperatorError Readiness} {s : Store} {ns : String}

theorem Store.serve_listPools (hkind : s.hasPoolKind = true) (ns : String) :
    s.serve order readiness (.store (.listPools ns)) = (.ok (order (s.poolsIn ns)), s) := by
  show ((s.list AddressPool ns).map order, s) = _
  rw [list_pools, checkKind_pool hkind]
  rfl

namespace Task

/-- A merge brings the artifact in line and reports the verdicts. -/
theorem run_aggregate (hs : s.Keyed) (hkind : s.hasPoolKind = true)
    (hconflicts : s.configMapConflicts = 0) (horder : ∀ pools, (order pools).Perm pools)
    (readiness : Except OperatorError Readiness) {attempts : Nat} (hattempts : 0 < attempts)
    (now ns : String) :
    ∃ outcome s', Written s ns ⟨s.entries ns⟩ outcome s' ∧ s'.Keyed ∧
      (aggregate now attempts ns).run (serve order readiness) s =
        (.ok outcome, ((reportVerdicts attempts ns
          (PoolVerdict.ofPools now (order (s.poolsIn ns)))).run (serve order readiness) s').2) := by
  obtain ⟨outcome, s', hrun, hwritten⟩ :=
    run_writeArtifact order readiness hs hconflicts ns ⟨s.entries ns⟩
  have honce : (aggregateOnce now attempts ns).run (serve order readiness) s =
      (.ok outcome, ((reportVerdicts attempts ns
        (PoolVerdict.ofPools now (order (s.poolsIn ns)))).run (serve order readiness) s').2) := by
    rw [aggregateOnce, run_call_bind (Store.serve_listPools hkind ns)]
    dsimp only
    rw [run_bind, hs.ofPools_eq (horder _), hrun]
    dsimp only
    rw [run_bind]
    rfl
  have hs' := hs.run order readiness (writeArtifact ns ⟨s.entries ns⟩)
  rw [hrun] at hs'
  refine ⟨outcome, s', hwritten, hs', ?_⟩
  cases attempts with
  | zero => exact absurd hattempts (Nat.lt_irrefl 0)
  | succ left =>
    rw [aggregate, aggregateWithin, run_bind, honce]
    rfl

/-- After a merge the verdicts on the pools hold, whenever they are given. -/
theorem isReported_run_aggregate (readiness : Except OperatorError Readiness) {s₁ : Store}
    (hs : s.Keyed) (hs₁ : s₁.Keyed)
    (hpools : s₁.pools = s.pools) (hkind : s₁.hasPoolKind = true) (hstatus : s₁.statusConflicts = 0)
    (horder : ∀ pools, (order pools).Perm pools) (horder' : ∀ pools, (order' pools).Perm pools)
    {attempts : Nat} (hattempts : 0 < attempts) (now now' ns : String) :
    let s₂ := ((reportVerdicts attempts ns
      (PoolVerdict.ofPools now (order (s.poolsIn ns)))).run (serve order readiness) s₁).2
    ∀ v ∈ PoolVerdict.ofPools now' (order' (s₂.poolsIn ns)), v.IsReported s₂ ns := by
  intro s₂ v' hv'
  have hframe : s₁.StatusOnly s₂ :=
    statusOnly_run (isAside_reportVerdicts attempts ns _) order readiness s₁
  have hreported : ∀ v ∈ PoolVerdict.ofPools now (order (s.poolsIn ns)), v.IsReported s₂ ns := by
    refine isReported_run_reportVerdicts horder readiness hs₁ hkind hstatus hattempts
      (PoolVerdict.nodup_names_ofPools hs (horder _)) ?_
    intro v hv
    obtain ⟨p, -, -, hp⟩ := PoolVerdict.mem_ofPools.mp hv
    exact PoolVerdict.nodup_types_of_ofPool? hp
  -- the verdict is on a pool of which the first merge saw all but the status
  obtain ⟨p', hp', hlive, hverdict⟩ := PoolVerdict.mem_ofPools.mp hv'
  obtain ⟨name, hget'⟩ := Store.mem_poolsIn.mp ((horder' _).mem_iff.mp hp')
  have hmap := hframe.pools ⟨ns, name⟩
  rw [hget', hpools] at hmap
  obtain ⟨p, hget, hbare⟩ := Option.map_eq_some_iff.mp hmap.symm
  obtain ⟨v, hv, hname, hsame⟩ := PoolVerdict.ofPool?_of_bare_eq hbare.symm hverdict now
  refine (hreported v ?_).of_same hname hsame
  refine PoolVerdict.mem_ofPools.mpr ⟨p, ?_, ?_, hv⟩
  · exact (horder _).mem_iff.mpr (Store.mem_poolsIn.mpr ⟨name, hget⟩)
  · show p.bare.isBeingDeleted = false
    rw [hbare]
    exact hlive

/-- A merge behind a merge finds nothing to do. -/
theorem run_aggregate_again (hs : s.Keyed) (hkind : s.hasPoolKind = true)
    (hconflicts : s.configMapConflicts = 0) (hstatus : s.statusConflicts = 0)
    (horder : ∀ pools, (order pools).Perm pools) (horder' : ∀ pools, (order' pools).Perm pools)
    (readiness readiness' : Except OperatorError Readiness) {attempts attempts' : Nat}
    (hattempts : 0 < attempts) (hattempts' : 0 < attempts') (now now' ns : String) :
    let s₂ := ((aggregate now attempts ns).run (serve order readiness) s).2
    (aggregate now' attempts' ns).run (serve order' readiness') s₂ =
      (.ok (if (s.entries ns).isEmpty then .absent else .unchanged), s₂) := by
  obtain ⟨outcome, s₁, hwritten, hs₁, hrun⟩ :=
    run_aggregate hs hkind hconflicts horder readiness hattempts now ns
  obtain ⟨hpools, hkind₁, hconflicts₁, hstatus₁⟩ := hwritten.pools_eq
  rw [hrun]
  dsimp only
  have hframe := statusOnly_run (isAside_reportVerdicts attempts ns
    (PoolVerdict.ofPools now (order (s.poolsIn ns)))) order readiness s₁
  have hreported := isReported_run_aggregate readiness hs hs₁ hpools (hkind₁.trans hkind)
    (hstatus₁.trans hstatus) horder horder' hattempts now now' ns
  have hs₂ := hs₁.run order readiness (reportVerdicts attempts ns
    (PoolVerdict.ofPools now (order (s.poolsIn ns))))
  -- of the store behind the first merge no more is needed than these three facts
  generalize ((reportVerdicts attempts ns
    (PoolVerdict.ofPools now (order (s.poolsIn ns)))).run (serve order readiness) s₁).2 = s₂
    at hframe hreported hs₂ ⊢
  have hentries : s₂.entries ns = s.entries ns := by
    rw [hframe.entries_eq hs₁ hs₂, Store.entries_of_pools_eq hpools]
  have hstored : Artifact.IsStored ⟨s₂.entries ns⟩ s₂ ns := by
    rw [hentries]
    exact (hwritten.isStored (hs.normal_entries ns)).of_configMaps_eq hframe.configMaps
  obtain ⟨outcome', s₃, hwritten', -, hrun'⟩ :=
    run_aggregate hs₂ (hframe.hasPoolKind.trans (hkind₁.trans hkind))
      (hframe.configMapConflicts.trans (hconflicts₁.trans hconflicts)) horder' readiness'
      hattempts' now' ns
  obtain ⟨rfl, rfl⟩ := hwritten'.of_isStored hstored
  rw [hrun', run_reportVerdicts_of_isReported (hframe.hasPoolKind.trans (hkind₁.trans hkind))
    hreported, hentries]
  rfl

end Task

end Merge

end PoolOperator
