import PoolOperator.Proofs.Reconcile.Conflicts

/-!
# What others have done to the artifact

Of the config map of a namespace, the artifact and one label are the operator's. Whatever others
have done to it, a merge that succeeds leaves the artifact in it that describes the pools. The label
is put back only along with the artifact: as long as the text describes the pools, a merge does not
look at labels.
-/

namespace PoolOperator

open Store (serve)

/-- Whether a config map has the label of the operator. -/
def ConfigMap.IsManaged (c : ConfigMap) : Prop :=
  (c.metadata.labels.getD ∅).get? Artifact.managedByLabel = some Artifact.managedByValue

instance : DecidablePred ConfigMap.IsManaged :=
  fun _ => inferInstanceAs (Decidable (_ = some Artifact.managedByValue))

/-- Whether a config map has a text for the operator, and it is read as an artifact. -/
def ConfigMap.Describes (c : ConfigMap) (a : Artifact) : Prop :=
  ∃ text, c.data.bind (·.get? Artifact.dataKey) = some text ∧ Artifact.decode text = .ok a

/-- A config map without a text is read as if it described nothing. -/
theorem ConfigMap.describes_iff {c : ConfigMap} {a : Artifact} (hsome : a.isEmpty = false) :
    c.Describes a ↔ Artifact.decode (Artifact.storedText c) = .ok a := by
  rw [Describes, Artifact.storedText]
  cases c.data.bind (·.get? Artifact.dataKey) with
  | none =>
    refine iff_of_false (by rintro ⟨text, h, -⟩; cases h) ?_
    intro h
    have hnothing : Artifact.decode "" = .ok {} := by decide +kernel
    rw [Option.getD_none, hnothing] at h
    cases h
    cases hsome
  | some text =>
    rw [Option.getD_some]
    constructor
    · rintro ⟨_, ⟨⟩, hdecode⟩
      exact hdecode
    · intro hdecode
      exact ⟨text, rfl, hdecode⟩

section Runs

variable {order : List AddressPool → List AddressPool}
  {readiness : Except OperatorError Readiness} {s s' t : Store} {ns now : String}
  {desired : Artifact} {outcome : AggregateOutcome} {attempts : Nat}

/-- What has to be written is written with the label. -/
theorem Written.isManaged (h : Written s ns desired outcome s') (hsome : desired.isEmpty = false)
    (hnot : ¬desired.IsStored s ns) :
    ∃ c, s'.configMaps.get? (Artifact.keyIn ns) = some c ∧ c.IsManaged := by
  have hmanaged (labels : Option (SortedMap String String)) :
      (Artifact.managedLabels labels).get? Artifact.managedByLabel =
        some Artifact.managedByValue := SortedMap.get?_insert_self _ _ _
  cases h with
  | absent hempty | deleted hempty =>
    rw [hsome] at hempty
    cases hempty
  | unchanged _ hstored hdescribed =>
    exact absurd ((Artifact.isStored_iff_of_ne hsome).mpr
      ⟨_, hstored, Artifact.isDescribedBy_iff.mp hdescribed⟩) hnot
  | created => exact ⟨_, SortedMap.get?_insert_self _ _ _, hmanaged none⟩
  | updated => exact ⟨_, SortedMap.get?_insert_self _ _ _, hmanaged _⟩

namespace Task

/-- A merge that has succeeded has been able to list the pools. -/
theorem hasPoolKind_of_aggregate
    (hrun : (aggregate now attempts ns).run (serve order readiness) s = (.ok outcome, t)) :
    0 < attempts ∧ s.hasPoolKind = true := by
  rw [aggregate] at hrun
  cases attempts with
  | zero => cases hrun
  | succ left =>
    refine ⟨Nat.succ_pos left, ?_⟩
    by_contra hkind
    have hlist : s.serve order readiness (.store (.listPools ns)) =
        (.error (.kindNotRegistered (Stored.kind AddressPool)), s) := by
      have hcheck : Store.checkKind AddressPool s =
        .error (.kindNotRegistered (Stored.kind AddressPool)) := if_neg hkind
      show ((s.list AddressPool ns).map order, s) = _
      rw [Store.list_pools, hcheck]
      rfl
    rw [aggregateWithin, run_bind, aggregateOnce, run_call_bind hlist] at hrun
    cases hrun

/-- A merge that succeeds leaves the artifact of the pools, and with the label unless it has found
it there without. -/
theorem run_aggregate_of_ok (hs : s.Keyed) (horder : ∀ pools, (order pools).Perm pools)
    (hne : s.entries ns ≠ [])
    (hrun : (aggregate now attempts ns).run (serve order readiness) s = (.ok outcome, t)) :
    ∃ c, t.configMaps.get? (Artifact.keyIn ns) = some c ∧ c.Describes ⟨s.entries ns⟩ ∧
      (Artifact.IsStored ⟨s.entries ns⟩ s ns → s.configMaps.get? (Artifact.keyIn ns) = some c) ∧
      (¬Artifact.IsStored ⟨s.entries ns⟩ s ns → c.IsManaged) := by
  obtain ⟨hattempts, hkind⟩ := hasPoolKind_of_aggregate hrun
  have hsome : (⟨s.entries ns⟩ : Artifact).isEmpty = false := List.isEmpty_eq_false_iff.mpr hne
  by_cases hstored : Artifact.IsStored ⟨s.entries ns⟩ s ns
  · -- nothing is written, so what has been found stays, label or no label
    have hsettled := run_settleWithin_of_isStored hs hkind horder readiness hstored attempts
      hattempts
    obtain ⟨t', hrun', hpools⟩ := run_aggregate_of_settled hsettled now
    rw [hrun] at hrun'
    obtain rfl : t = t' := congrArg Prod.snd hrun'
    obtain ⟨c, hc, hdecode⟩ := (Artifact.isStored_iff_of_ne hsome).mp hstored
    refine ⟨c, ?_, (ConfigMap.describes_iff hsome).mpr hdecode, fun _ => hc,
      fun hnot => absurd hstored hnot⟩
    rw [hpools.configMaps, hc]
  · obtain ⟨hfewer, hmore⟩ := run_settleWithin horder readiness ns attempts attempts hs hkind
      hstored
    -- with too many conflicts, the merge would not have succeeded
    by_cases hless : s.configMapConflicts < attempts
    · obtain ⟨u, outcome', u', hredated, -, hwritten, hsettled⟩ := hfewer hless
      obtain ⟨t', hrun', hpools⟩ := run_aggregate_of_settled hsettled now
      rw [hrun] at hrun'
      obtain rfl : t = t' := congrArg Prod.snd hrun'
      obtain ⟨c, hc, hmanaged⟩ := hwritten.isManaged hsome (mt hredated.isStored_iff.mp hstored)
      obtain ⟨c', hc', hdecode⟩ :=
        (Artifact.isStored_iff_of_ne hsome).mp (hwritten.isStored (hs.normal_entries ns))
      obtain rfl : c = c' := Option.some.inj (hc.symm.trans hc')
      refine ⟨c, ?_, (ConfigMap.describes_iff hsome).mpr hdecode, fun h => absurd h hstored,
        fun _ => hmanaged⟩
      rw [hpools.configMaps, hc]
    · obtain ⟨u, -, -, hsettled⟩ := hmore (Nat.not_lt.mp hless)
      rw [run_aggregate_of_error hsettled now] at hrun
      cases hrun

end Task

end Runs

/-! ## Any merge -/

/-- **What others have done to the artifact** is undone by a merge that succeeds with nobody else
about, whatever it was: if there is a pool to describe, the config map then has a text that is read
as the entries of the live pools in the order of their names. It has the label of the operator too,
unless it was found with such a text and without the label: what is found with such a text is left
exactly as it is. -/
theorem World.aggregate_corrects_edits {order : List AddressPool → List AddressPool}
    (horder : ∀ pools, (order pools).Perm pools) {w w' : World} {now ns : String}
    {outcome : AggregateOutcome} (hreach : w.store.Reachable) (hquiet : w.disturbances = [])
    (hrun : (Task.aggregate now w.attempts ns).run (World.answerIn order) w = (.ok outcome, w'))
    (hvalid : ∃ name p e, w.store.pools.get? ⟨ns, name⟩ = some p ∧ p.isBeingDeleted = false ∧
      PoolEntry.ofPool p = .ok e) :
    let entries := w.store.entries ns
    let before := w.store.configMaps.get? (Artifact.keyIn ns)
    (∀ e, e ∈ entries ↔ ∃ name p, w.store.pools.get? ⟨ns, name⟩ = some p ∧
        p.isBeingDeleted = false ∧ PoolEntry.ofPool p = .ok e) ∧
      Ordered entries ∧
      ∃ c, w'.store.configMaps.get? (Artifact.keyIn ns) = some c ∧ c.Describes ⟨entries⟩ ∧
        (c.IsManaged ↔
          ∀ found, before = some found → found.Describes ⟨entries⟩ → found.IsManaged) ∧
        ∀ found, before = some found → found.Describes ⟨entries⟩ → c = found := by
  intro entries before
  have hs := hreach.keyed
  have hcalm : w.Calm w.readiness w.operator.settings := ⟨hquiet, rfl, rfl⟩
  obtain ⟨v, hserved, hstore, -⟩ := hcalm.run order (Task.aggregate now w.attempts ns)
  rw [hrun] at hserved
  obtain ⟨hresult, rfl⟩ := Prod.mk.inj hserved
  have hne : entries ≠ [] := by
    obtain ⟨name, p, e, hentry⟩ := hvalid
    exact List.ne_nil_of_mem (Store.mem_entries.mpr ⟨name, p, hentry⟩)
  have hsome : (⟨entries⟩ : Artifact).isEmpty = false := List.isEmpty_eq_false_iff.mpr hne
  have hstored_iff : Artifact.IsStored ⟨entries⟩ w.store ns ↔
      ∃ found, before = some found ∧ found.Describes ⟨entries⟩ := by
    rw [Artifact.isStored_iff_of_ne hsome]
    simp only [ConfigMap.describes_iff hsome]
    exact Iff.rfl
  obtain ⟨c, hc, hdescribes, hleft, hmanaged⟩ := Task.run_aggregate_of_ok hs horder hne
    (Prod.ext hresult.symm hstore.symm)
  refine ⟨fun _ => Store.mem_entries, hs.ordered_entries ns, c, hc, hdescribes, ?_, ?_⟩
  · by_cases hstored : Artifact.IsStored ⟨entries⟩ w.store ns
    · refine ⟨fun h found hfound _ => ?_, fun h => h c (hleft hstored) hdescribes⟩
      obtain rfl : c = found := Option.some.inj ((hleft hstored).symm.trans hfound)
      exact h
    · refine iff_of_true (hmanaged hstored) fun found hfound h => ?_
      exact absurd (hstored_iff.mpr ⟨found, hfound, h⟩) hstored
  · intro found hfound h
    exact Option.some.inj ((hleft (hstored_iff.mpr ⟨found, hfound, h⟩)).symm.trans hfound)

/-- The config map of the crowded world has neither a text nor a label at first, and gets both. -/
theorem World.aggregate_corrects_edits_crowded :
    ∃ w' c, (Task.aggregate "now" crowded.attempts "x").run (answerIn List.reverse) crowded =
        (.ok .updated, w') ∧
      (∃ found, crowded.store.configMaps.get? (Artifact.keyIn "x") = some found ∧
        ¬found.IsManaged) ∧
      w'.store.configMaps.get? (Artifact.keyIn "x") = some c ∧
      c.Describes ⟨[⟨"b", .layer2, none, ["10.0.0.0/24"]⟩]⟩ ∧ c.IsManaged := by
  let w' := ((Task.aggregate "now" crowded.attempts "x").run (answerIn List.reverse) crowded).2
  have hrun : (Task.aggregate "now" crowded.attempts "x").run (answerIn List.reverse) crowded =
    (.ok .updated, w') := Prod.ext (by decide +kernel) rfl
  have hentries : crowded.store.entries "x" = [⟨"b", .layer2, none, ["10.0.0.0/24"]⟩] := by
    decide +kernel
  have hbefore : (crowded.store.configMaps.get? (Artifact.keyIn "x")).any (fun found =>
      found.data.isNone && !decide found.IsManaged) = true := by decide +kernel
  obtain ⟨found, hfound, hbare⟩ := (Option.any_eq_true _ _).mp hbefore
  rw [Bool.and_eq_true, Bool.not_eq_true', decide_eq_false_iff_not, Option.isNone_iff_eq_none]
    at hbare
  obtain ⟨-, -, c, hc, hdescribes, hmanaged, -⟩ := aggregate_corrects_edits (w := crowded)
    List.reverse_perm ⟨_, rfl⟩ rfl hrun
    ⟨"b", (crowded.store.pools.get? ⟨"x", "b"⟩).get (by decide +kernel),
      ⟨"b", .layer2, none, ["10.0.0.0/24"]⟩, (Option.some_get _).symm, by decide +kernel,
      by decide +kernel⟩
  rw [hentries] at hdescribes
  refine ⟨w', c, hrun, ⟨found, hfound, hbare.2⟩, hc, hdescribes, hmanaged.mpr ?_⟩
  intro found' hfound' htext
  obtain rfl : found = found' := Option.some.inj (hfound.symm.trans hfound')
  obtain ⟨text, htext, -⟩ := htext
  rw [hbare.1] at htext
  cases htext

/-- A world in which the artifact of a pool has been created as the operator does it. Then somebody
else has replaced it by one with the same text and no labels. -/
def World.stripped : World where
  store :=
    let text := Artifact.encode ⟨[⟨"b", .layer2, none, ["10.0.0.0/24"]⟩]⟩
    ({} : Store).edits
      [.addPool {
          metadata := { name := some "b", ns := some "x" }
          spec := ⟨"layer2", ["10.0.0.0/24"], none⟩ },
        .call (.createConfigMap (Artifact.newConfigMap "x" text)),
        .call (.replaceConfigMap {
          metadata := { name := some Artifact.configMapName, ns := some "x" }
          data := some ((∅ : SortedMap String String).insert Artifact.dataKey text) })]
  operator := { settings := ⟨"x", 1, 1, 1, 1, ⟨.v4 0, 0, 0⟩⟩ }

/-- The label that has been taken away is not put back. -/
theorem World.missing_label_stays :
    let r := stripped.perform (.aggregate "now" stripped.attempts "x")
    stripped.store.Reachable ∧ stripped.disturbances = [] ∧
      stripped.store.entries "x" = [⟨"b", .layer2, none, ["10.0.0.0/24"]⟩] ∧
      r.1 = .ok .unchanged ∧
      ∃ c, r.2.store.configMaps.get? (Artifact.keyIn "x") = some c ∧
        c.Describes ⟨stripped.store.entries "x"⟩ ∧ ¬c.IsManaged := by
  intro r
  have hentries : stripped.store.entries "x" = [⟨"b", .layer2, none, ["10.0.0.0/24"]⟩] := by
    decide +kernel
  have hafter : (r.2.store.configMaps.get? (Artifact.keyIn "x")).any (fun c =>
      Artifact.isDescribedBy ⟨[⟨"b", .layer2, none, ["10.0.0.0/24"]⟩]⟩ (Artifact.storedText c) &&
        !decide c.IsManaged) = true := by decide +kernel
  obtain ⟨c, hc, htest⟩ := (Option.any_eq_true _ _).mp hafter
  rw [Bool.and_eq_true, Bool.not_eq_true', decide_eq_false_iff_not, Artifact.isDescribedBy_iff]
    at htest
  rw [hentries]
  exact ⟨⟨_, rfl⟩, rfl, rfl, by decide +kernel, c, hc, (ConfigMap.describes_iff rfl).mpr htest.1,
    htest.2⟩

end PoolOperator
