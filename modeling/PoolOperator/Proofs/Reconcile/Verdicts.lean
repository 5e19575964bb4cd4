import PoolOperator.Proofs.Reconcile.Convergence
import PoolOperator.Proofs.Reconcile.Faults

/-!
# Verdicts and the artifact

A merge tells every pool whether it is part of the artifact, and it is right: a pool is accepted if
the artifact lists it, and else it is told the fault for which it is left out. What others have told
it stays.
-/

namespace PoolOperator

open Store (serve)

/-! ## What a pool is told -/

namespace AddressPool

/-- Whether a pool is told that it is part of the configuration. -/
def IsAccepted (p : AddressPool) : Prop :=
  ∃ a d, Condition.find? Condition.available p.conditions = some a ∧ a.status = .true ∧
    a.reason = Verdict.merged ∧
    Condition.find? Condition.degraded p.conditions = some d ∧ d.status = .false

/-- Whether a pool is told that it is left out for a fault. -/
def IsRejected (p : AddressPool) (fault : String) : Prop :=
  ∃ a d, Condition.find? Condition.available p.conditions = some a ∧ a.status = .false ∧
    a.reason = Verdict.invalidSpec ∧ a.message = fault ∧
    Condition.find? Condition.degraded p.conditions = some d ∧ d.status = .true ∧
    d.reason = Verdict.invalidSpec ∧ d.message = fault

variable {p q : AddressPool} {now fault : String}

/-- The conditions of types that no verdict is about. -/
def otherConditions (p : AddressPool) : List Condition :=
  p.conditions.filter fun c => c.type != Condition.available && c.type != Condition.degraded

theorem IsRejected.not_isAccepted (h : p.IsRejected fault) : ¬p.IsAccepted := by
  rintro ⟨a, -, ha, htrue, -⟩
  obtain ⟨a', -, ha', hfalse, -⟩ := h
  rw [ha] at ha'
  cases ha'
  rw [htrue] at hfalse
  cases hfalse

theorem isAccepted_of_merged
    (h : q.conditions = Condition.merged p.conditions (Verdict.mergedConditions now)) :
    q.IsAccepted := by
  have hholds : ∀ d ∈ Verdict.mergedConditions now, Condition.Holds d q.conditions := by
    rw [h]
    refine Condition.holds_merge? ?_ p.conditions
    rw [Verdict.types_mergedConditions]
    decide
  obtain ⟨a, ha, hsame⟩ := hholds _ List.mem_cons_self
  obtain ⟨d, hd, hsame'⟩ := hholds _ (List.mem_cons_of_mem _ List.mem_cons_self)
  rw [Condition.sameObservation_iff] at hsame hsame'
  exact ⟨a, d, ha, hsame.2.1, hsame.2.2.1, hd, hsame'.2.1⟩

theorem isRejected_of_merged
    (h : q.conditions = Condition.merged p.conditions (Verdict.invalidSpecConditions now fault)) :
    q.IsRejected fault := by
  have hholds : ∀ d ∈ Verdict.invalidSpecConditions now fault, Condition.Holds d q.conditions := by
    rw [h]
    refine Condition.holds_merge? ?_ p.conditions
    rw [Verdict.types_invalidSpecConditions]
    decide
  obtain ⟨a, ha, hsame⟩ := hholds _ List.mem_cons_self
  obtain ⟨d, hd, hsame'⟩ := hholds _ (List.mem_cons_of_mem _ List.mem_cons_self)
  rw [Condition.sameObservation_iff] at hsame hsame'
  exact ⟨a, d, ha, hsame.2.1, hsame.2.2.1, hsame.2.2.2, hd, hsame'.2⟩

theorem otherConditions_of_merged {desired : List Condition}
    (htypes : desired.map (·.type) = [Condition.available, Condition.degraded])
    (h : q.conditions = Condition.merged p.conditions desired) :
    q.otherConditions = p.otherConditions := by
  rw [otherConditions, h]
  refine Condition.filter_merged (p := fun type => type != Condition.available &&
    type != Condition.degraded) ?_ p.conditions
  intro d hd
  have hmem : d.type ∈ [Condition.available, Condition.degraded] := by
    rw [← htypes]
    exact List.mem_map_of_mem hd
  simp only [List.mem_cons, List.not_mem_nil, or_false] at hmem
  rcases hmem with heq | heq <;> rw [heq] <;> decide

end AddressPool

/-! ## What the artifact lists -/

/-- The entries of a name that the config map of a namespace lists. -/
def Store.listed (s : Store) (ns name : String) : List PoolEntry :=
  match s.configMaps.get? (Artifact.keyIn ns) with
  | none => []
  | some c =>
    match Artifact.decode (Artifact.storedText c) with
    | .ok a => a.pools.filter (·.name == name)
    | .error _ => []

/-- In order, an entry is the only one of its name. -/
theorem Ordered.filter_eq {es : List PoolEntry} (h : Ordered es) {e : PoolEntry} (he : e ∈ es) :
    es.filter (·.name == e.name) = [e] := by
  have hordered : Ordered (es.filter (·.name == e.name)) := h.filter _
  have hsingle : Ordered [e] := List.pairwise_singleton _ e
  refine hordered.ext hsingle fun f => ?_
  rw [List.mem_filter, List.mem_singleton, beq_iff_eq]
  constructor
  · rintro ⟨hf, hname⟩
    exact h.eq_of_name hf he hname
  · rintro rfl
    exact ⟨he, rfl⟩

namespace Store

variable {s : Store} {ns name : String} {p : AddressPool}

theorem listed_of_isStored {es : List PoolEntry} (h : Artifact.IsStored ⟨es⟩ s ns) (name : String) :
    s.listed ns name = es.filter (·.name == name) := by
  unfold listed
  cases hempty : (⟨es⟩ : Artifact).isEmpty with
  | true =>
    have hnil : es = [] := List.isEmpty_iff.mp hempty
    rw [(Artifact.isStored_iff_of_isEmpty hempty).mp h, hnil]
    rfl
  | false =>
    obtain ⟨c, hc, hdecode⟩ := (Artifact.isStored_iff_of_ne hempty).mp h
    rw [hc]
    dsimp only
    rw [hdecode]

/-- Of a valid pool that is not on its way out, the entry is the one of its name. -/
theorem Keyed.filter_entries_of_ok (hs : s.Keyed) {e : PoolEntry}
    (hp : s.pools.get? ⟨ns, name⟩ = some p) (hlive : p.isBeingDeleted = false)
    (hentry : PoolEntry.ofPool p = .ok e) : (s.entries ns).filter (·.name == name) = [e] := by
  have hname : name = e.name := by
    have hnamed := (hs.pools hp).2
    rw [(PoolEntry.name_of_ofPool hentry).1] at hnamed
    exact (Option.some.inj hnamed).symm
  rw [hname] at hp ⊢
  exact (hs.ordered_entries ns).filter_eq (mem_entries.mpr ⟨_, p, hp, hlive, hentry⟩)

/-- Of a pool with a fault there is none. -/
theorem Keyed.filter_entries_of_error (hs : s.Keyed) {fault : ArtifactError}
    (hp : s.pools.get? ⟨ns, name⟩ = some p) (hentry : PoolEntry.ofPool p = .error fault) :
    (s.entries ns).filter (·.name == name) = [] := by
  rw [List.filter_eq_nil_iff]
  intro e he hname
  rw [beq_iff_eq] at hname
  obtain ⟨name', q, hq, -, hok⟩ := mem_entries.mp he
  have hnamed := (hs.pools hq).2
  rw [(PoolEntry.name_of_ofPool hok).1, hname] at hnamed
  obtain rfl : name = name' := Option.some.inj hnamed
  rw [hp] at hq
  cases hq
  rw [hentry] at hok
  cases hok

end Store

/-! ## Both together -/

section Merge

variable {order : List AddressPool → List AddressPool}

/-- A pool that is stored behind a merge was there before, and has been told the verdict on it. -/
theorem Task.exists_told_run_aggregate (horder : ∀ pools, (order pools).Perm pools)
    (readiness : Except OperatorError Readiness) {s : Store} (hs : s.Keyed)
    (hkind : s.hasPoolKind = true) (hconflicts : s.configMapConflicts = 0)
    (hstatus : s.statusConflicts = 0) {attempts : Nat} (hattempts : 0 < attempts)
    (now ns : String) :
    let s' := ((aggregate now attempts ns).run (serve order readiness) s).2
    Artifact.IsStored ⟨s.entries ns⟩ s' ns ∧
      ∀ name q, s'.pools.get? ⟨ns, name⟩ = some q → ∃ p, s.pools.get? ⟨ns, name⟩ = some p ∧
        q.bare = p.bare ∧ (p.isBeingDeleted = false → ∀ v, PoolVerdict.ofPool? now p = some v →
          q.conditions = Condition.merged p.conditions v.conditions) := by
  obtain ⟨outcome, s₁, hwritten, hs₁, hrun⟩ := run_aggregate hs hkind hconflicts horder readiness
    hattempts now ns
  obtain ⟨hpools, hkind₁, -, hstatus₁⟩ := hwritten.pools_eq
  have hframe := statusOnly_run (isAside_reportVerdicts attempts ns
    (PoolVerdict.ofPools now (order (s.poolsIn ns)))) order readiness s₁
  rw [hrun]
  intro s'
  refine ⟨(hwritten.isStored (hs.normal_entries ns)).of_configMaps_eq hframe.configMaps, ?_⟩
  intro name q hq
  have hbare : (s'.pools.get? ⟨ns, name⟩).map AddressPool.bare =
      (s.pools.get? ⟨ns, name⟩).map AddressPool.bare := by
    rw [← hpools]
    exact hframe.pools ⟨ns, name⟩
  rw [hq] at hbare
  obtain ⟨p, hp, hsame⟩ := Option.map_eq_some_iff.mp hbare.symm
  refine ⟨p, hp, hsame.symm, ?_⟩
  intro hlive v hv
  have hmem : v ∈ PoolVerdict.ofPools now (order (s.poolsIn ns)) :=
    PoolVerdict.mem_ofPools.mpr ⟨p, (horder _).mem_iff.mpr (Store.mem_poolsIn.mpr ⟨name, hp⟩),
      hlive, hv⟩
  have hname : v.name = name := by
    rw [(PoolVerdict.ofPool?_cases hv).1, (hs.pools hp).2]
    rfl
  have hp₁ : s₁.pools.get? ⟨ns, v.name⟩ = some p := by
    rw [hname, hpools]
    exact hp
  obtain ⟨q', hq', htold⟩ := told_run_reportVerdicts horder readiness hs₁ (hkind₁.trans hkind)
    (hstatus₁.trans hstatus) hattempts (PoolVerdict.nodup_names_ofPools hs (horder _)) hmem hp₁
  rw [hname] at hq'
  have heq : some q' = some q := hq'.symm.trans hq
  cases heq
  exact htold

/-- **Verdicts agree with the artifact.** After a merge in which nobody else takes part, a pool of
the namespace that is not on its way out is accepted just if the config map lists it, and then it is
listed once, as it is. Else it is told its fault. Conditions of other types stay as they were. -/
theorem World.verdicts_agree (horder : ∀ pools, (order pools).Perm pools) {w w' : World}
    {outcome : AggregateOutcome} {now ns : String} (hreach : w.store.Reachable)
    (hkind : w.store.hasPoolKind = true) (hconflicts : w.store.configMapConflicts = 0)
    (hstatus : w.store.statusConflicts = 0) (hquiet : w.disturbances = [])
    (hrun : (Task.aggregate now w.attempts ns).run (World.answerIn order) w = (.ok outcome, w'))
    {name : String} (hname : name ≠ "") {q : AddressPool}
    (hq : w'.store.pools.get? ⟨ns, name⟩ = some q) (hlive : q.isBeingDeleted = false) :
    let listed := w'.store.listed ns name
    (q.IsAccepted ↔ listed ≠ []) ∧
      (listed ≠ [] → ∃ e, listed = [e] ∧ PoolEntry.ofPool q = .ok e) ∧
      (listed = [] → ∃ fault, PoolEntry.ofPool q = .error fault ∧ q.IsRejected fault.message) ∧
      ∃ p, w.store.pools.get? ⟨ns, name⟩ = some p ∧ q.otherConditions = p.otherConditions := by
  have hs := hreach.keyed
  have hcalm : w.Calm w.readiness w.operator.settings := ⟨hquiet, rfl, rfl⟩
  have hattempts : 0 < w.attempts := by
    rcases Nat.eq_zero_or_pos w.attempts with hzero | hpos
    · rw [hzero] at hrun
      cases hrun
    · exact hpos
  obtain ⟨u, hserve, hstore, -⟩ := hcalm.run order (Task.aggregate now w.attempts ns)
  rw [hrun] at hserve
  obtain rfl : w' = u := congrArg Prod.snd hserve
  obtain ⟨hstored, htold⟩ := Task.exists_told_run_aggregate horder w.readiness hs hkind hconflicts
    hstatus hattempts now ns
  rw [← hstore] at hstored htold
  obtain ⟨p, hp, hbare, hverdict⟩ := htold name q hq
  have hplive : p.isBeingDeleted = false := by
    show p.bare.isBeingDeleted = false
    rw [← hbare]
    exact hlive
  have hentry : PoolEntry.ofPool q = PoolEntry.ofPool p := by
    show PoolEntry.ofPool q.bare = PoolEntry.ofPool p.bare
    rw [hbare]
  intro listed
  have hlisted : listed = (w.store.entries ns).filter (·.name == name) :=
    Store.listed_of_isStored hstored name
  rw [hlisted, hentry]
  cases hp' : PoolEntry.ofPool p with
  | ok e =>
    have htold := hverdict hplive ⟨name, Verdict.mergedConditions now⟩ (by
      rw [PoolVerdict.ofPool?, hp', (hs.pools hp).2]
      rfl)
    rw [hs.filter_entries_of_ok hp hplive hp']
    refine ⟨?_, ?_, ?_, p, hp, ?_⟩
    · exact ⟨fun _ => List.cons_ne_nil e [], fun _ => AddressPool.isAccepted_of_merged htold⟩
    · exact fun _ => ⟨e, rfl, rfl⟩
    · exact fun hnil => absurd hnil (List.cons_ne_nil e [])
    · exact AddressPool.otherConditions_of_merged (Verdict.types_mergedConditions now) htold
  | error fault =>
    have htold := hverdict hplive ⟨name, Verdict.invalidSpecConditions now fault.message⟩ (by
      have hnonempty : name.isEmpty = false := by simpa [String.isEmpty_iff] using hname
      rw [PoolVerdict.ofPool?, hp', (hs.pools hp).2]
      simp [hnonempty])
    have hrejected := AddressPool.isRejected_of_merged htold
    rw [hs.filter_entries_of_error hp hp']
    refine ⟨?_, ?_, ?_, p, hp, ?_⟩
    · exact ⟨fun h => absurd h hrejected.not_isAccepted, fun h => absurd rfl h⟩
    · exact fun h => absurd rfl h
    · exact fun _ => ⟨fault, rfl, hrejected⟩
    · exact AddressPool.otherConditions_of_merged
        (Verdict.types_invalidSpecConditions now fault.message) htold

theorem World.verdicts_agree_crowded :
    ∃ w' a b, (Task.aggregate "now" crowded.attempts "x").run (answerIn List.reverse) crowded =
        (.ok .updated, w') ∧
      w'.store.pools.get? ⟨"x", "a"⟩ = some a ∧ w'.store.listed "x" "a" = [] ∧
      a.IsRejected "address pool a: unsupported protocol 'bgp', expected one of: layer2" ∧
      w'.store.pools.get? ⟨"x", "b"⟩ = some b ∧
      w'.store.listed "x" "b" = [⟨"b", .layer2, none, ["10.0.0.0/24"]⟩] ∧ b.IsAccepted ∧
      b.otherConditions = [⟨"Ready", .true, "", "", none⟩] := by
  let w' := ((Task.aggregate "now" crowded.attempts "x").run (answerIn List.reverse) crowded).2
  have hrun : (Task.aggregate "now" crowded.attempts "x").run (answerIn List.reverse) crowded =
    (.ok .updated, w') := Prod.ext (by decide +kernel) rfl
  let a := (w'.store.pools.get? ⟨"x", "a"⟩).get (by decide +kernel)
  let b := (w'.store.pools.get? ⟨"x", "b"⟩).get (by decide +kernel)
  have ha : w'.store.pools.get? ⟨"x", "a"⟩ = some a := (Option.some_get _).symm
  have hb : w'.store.pools.get? ⟨"x", "b"⟩ = some b := (Option.some_get _).symm
  have hfault : PoolEntry.ofPool a = .error (.unsupportedProtocol "a" "bgp") := by decide +kernel
  have hnone : w'.store.listed "x" "a" = [] := by decide +kernel
  have hone : w'.store.listed "x" "b" = [⟨"b", .layer2, none, ["10.0.0.0/24"]⟩] := by
    decide +kernel
  obtain ⟨-, -, hrejected, -⟩ := verdicts_agree List.reverse_perm ⟨_, rfl⟩ (by decide +kernel)
    (by decide +kernel) (by decide +kernel) rfl hrun (by decide) ha (by decide +kernel)
  obtain ⟨haccepted, -, -, -⟩ := verdicts_agree List.reverse_perm ⟨_, rfl⟩ (by decide +kernel)
    (by decide +kernel) (by decide +kernel) rfl hrun (by decide) hb (by decide +kernel)
  obtain ⟨fault, hfault', hrejected⟩ := hrejected hnone
  rw [hfault] at hfault'
  cases hfault'
  refine ⟨w', a, b, hrun, ha, hnone, hrejected, hb, hone, haccepted.mpr ?_, by decide +kernel⟩
  rw [hone]
  exact List.cons_ne_nil _ []

end Merge

end PoolOperator
