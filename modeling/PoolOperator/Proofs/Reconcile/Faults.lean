import PoolOperator.Proofs.Reconcile.Aggregate
import PoolOperator.Proofs.Reconcile.Phases

/-!
# Faults of reports

Whatever becomes of the reports of a merge, the merge has the same outcome and leaves the same
config maps as one all of whose reports succeed. A pool that is spared the faults is told the same.
-/

namespace PoolOperator

open Store (serve)

/-! ## Requests about the artifact -/

/-- The requests about config maps, and counts. -/
def Request.IsOnArtifact : Request → Prop
  | .store (.getConfigMap _) | .store (.createConfigMap _) | .store (.replaceConfigMap _)
  | .store (.deleteConfigMap ..) | .countWrite _ => True
  | _ => False

theorem Task.isOnArtifact_writeArtifact (ns : String) (desired : Artifact) :
    (writeArtifact ns desired).Only Request.IsOnArtifact := by
  have hcount (operation : String) (outcome : AggregateOutcome) :
      (countWrite operation >>= fun _ => done (.ok outcome) :
        Task (Except OperatorError AggregateOutcome)).Only Request.IsOnArtifact :=
    ⟨trivial, fun _ => trivial⟩
  refine ⟨trivial, fun reply => ?_⟩
  rcases reply with e | _ | current
  · exact trivial
  · show (if desired.isEmpty = true then _ else _ : Task _).Only _
    split
    · exact trivial
    · refine ⟨trivial, fun reply => ?_⟩
      cases reply with
      | error e => exact trivial
      | ok created => exact hcount _ _
  · show (if desired.isEmpty = true then _ else _ : Task _).Only _
    split
    · refine ⟨trivial, fun reply => ?_⟩
      cases reply with
      | error e => cases e <;> exact trivial
      | ok deleted => exact hcount _ _
    · show (if desired.isDescribedBy (Artifact.storedText current) = true then _ else _ :
        Task _).Only _
      split
      · exact trivial
      · refine ⟨trivial, fun reply => ?_⟩
        cases reply with
        | error e => exact trivial
        | ok replaced => exact hcount _ _

/-- The requests of the first phase of a merge. -/
def Request.IsSettling (request : Request) : Prop :=
  (∃ ns, request = .store (.listPools ns)) ∨ request.IsOnArtifact

theorem Request.IsSettling.not_isAside {call : StoreCall} (h : (Request.store call).IsSettling) :
    ¬(Request.store call).IsAside := by
  cases call with
  | listPools | getConfigMap | createConfigMap | replaceConfigMap | deleteConfigMap => exact id
  | _ =>
    rcases h with ⟨_, h⟩ | h
    · cases h
    · exact h.elim

namespace Task

theorem isSettling_settleOnce (ns : String) : (settleOnce ns).Only Request.IsSettling := by
  refine ⟨.inl ⟨ns, rfl⟩, fun reply => ?_⟩
  cases reply with
  | error e => exact trivial
  | ok pools =>
    refine Only.bind ((isOnArtifact_writeArtifact ns (.ofPools pools)).mono fun _ h => .inr h) ?_
    intro result
    cases result <;> exact trivial

theorem isSettling_settleWithin (total : Nat) (ns : String) (left : Nat) :
    (settleWithin total ns left).Only Request.IsSettling := by
  induction left with
  | zero => exact trivial
  | succ left ih =>
    refine (isSettling_settleOnce ns).bind fun result => ?_
    split
    · exact ih
    · exact trivial

/-- A merge asks for what settles the artifact and for reports. -/
theorem only_aggregate (now : String) (attempts : Nat) (ns : String) :
    (aggregate now attempts ns).Only fun request => request.IsSettling ∨ request.IsAside := by
  rw [aggregate, aggregateWithin_eq]
  refine ((isSettling_settleWithin attempts ns attempts).mono fun _ => .inl).bind fun settled => ?_
  cases settled with
  | error e => exact trivial
  | ok settled =>
    exact ((isAside_reportVerdicts attempts ns _).mono fun _ => .inr).bind fun _ => trivial

end Task

namespace Store

variable {order : List AddressPool → List AddressPool} {readiness : Except OperatorError Readiness}
  {request : Request}

/-- Conflicts ordered for statuses have no part in writes of config maps. -/
theorem serve_expecting (h : request.IsOnArtifact) (s : Store) (count : Nat) :
    (s.expecting count).serve order readiness request =
      ((s.serve order readiness request).1,
        (s.serve order readiness request).2.expecting count) := by
  rcases request with call | object | operation
  · cases call with
    | getConfigMap key => rfl
    | createConfigMap c => exact s.createConfigMap_expecting c count
    | replaceConfigMap c => exact s.replaceConfigMap_expecting c count
    | deleteConfigMap key version => exact s.deleteConfigMap_expecting key version count
    | _ => exact h.elim
  · exact h.elim
  · rfl

theorem configMapsOnly_serve (h : request.IsOnArtifact) (s : Store) :
    s.ConfigMapsOnly (s.serve order readiness request).2 := by
  rcases request with call | object | operation
  · cases call with
    | getConfigMap key => exact .refl s
    | createConfigMap c => exact s.configMapsOnly_createConfigMap c
    | replaceConfigMap c => exact s.configMapsOnly_replaceConfigMap c
    | deleteConfigMap key version => exact s.configMapsOnly_deleteConfigMap key version
    | _ => exact h.elim
  · exact h.elim
  · exact .refl s

/-- The order in which pools are listed has no part in it either. -/
theorem serve_order_eq (h : request.IsOnArtifact) (s : Store)
    (order' : List AddressPool → List AddressPool) :
    s.serve order readiness request = s.serve order' readiness request := by
  rcases request with call | object | operation
  · cases call with
    | listPools ns => exact h.elim
    | _ => rfl
  · rfl
  · rfl

end Store

section Scenes

variable {others : Surroundings} {readiness : Except OperatorError Readiness} {x : Scene}
  {ns : String} {request : Request}

/-! ## Settling amid faults of reports -/

namespace Scene

/-- The store of a scene, without conflicts ordered for statuses. -/
def calmed (x : Scene) : Store := x.store.expecting 0

theorem resultOf_of_not_isAside (hothers : others.DisturbReports)
    (readiness : Except OperatorError Readiness) (x : Scene) {call : StoreCall}
    (h : ¬(Request.store call).IsAside) : ∃ count, x.resultOf others readiness call =
      (x.store.expecting count).serve (others x.log call).order readiness (.store call) := by
  obtain ⟨count, hcount⟩ := storeAt_expecting hothers x call
  refine ⟨count, ?_⟩
  rw [resultOf_of_failure_none (hothers.failure x.log h), hcount]

variable (readiness)

/-- Requests about the artifact are answered as by the calmed store. -/
theorem serve_calmed (hothers : others.DisturbReports) (h : request.IsOnArtifact) (x : Scene) :
    x.calmed.serve id readiness request =
      ((answer others readiness request x).1, (answer others readiness request x).2.calmed) := by
  rcases request with call | object | operation
  · obtain ⟨count, hresult⟩ := resultOf_of_not_isAside hothers readiness x
      (Request.IsSettling.not_isAside (.inr h))
    rw [answer_store, hresult, calmed, Store.serve_expecting h, Store.serve_expecting h,
      Store.serve_order_eq h x.store (others x.log call).order]
    rfl
  · exact h.elim
  · rfl

theorem configMapsOnly_answer (hothers : others.DisturbReports) (h : request.IsOnArtifact)
    (x : Scene) : ∃ count,
      (x.store.expecting count).ConfigMapsOnly (answer others readiness request x).2.store := by
  rcases request with call | object | operation
  · obtain ⟨count, hresult⟩ := resultOf_of_not_isAside hothers readiness x
      (Request.IsSettling.not_isAside (.inr h))
    refine ⟨count, ?_⟩
    rw [answer_store, hresult]
    exact Store.configMapsOnly_serve h _
  · exact h.elim
  · exact ⟨x.store.statusConflicts, .refl _⟩

/-- A task about the artifact leaves pools alone. -/
theorem pools_run {α : Type} {t : Task α} (hothers : others.DisturbReports)
    (h : t.Only Request.IsOnArtifact) (x : Scene) :
    (t.run (answer others readiness) x).2.store.pools = x.store.pools ∧
      (t.run (answer others readiness) x).2.store.hasPoolKind = x.store.hasPoolKind := by
  refine h.run (Q := fun y : Scene =>
    y.store.pools = x.store.pools ∧ y.store.hasPoolKind = x.store.hasPoolKind) ?_ ⟨rfl, rfl⟩
  rintro request y hrequest ⟨hpools, hkind⟩
  obtain ⟨count, _, _, _, _, hstore⟩ :=
    configMapsOnly_answer readiness hothers hrequest y
  rw [hstore]
  exact ⟨hpools, hkind⟩

/-- In quiet surroundings no conflict is ordered in the first phase. -/
theorem statusConflicts_run {α : Type} {t : Task α} (hothers : others.Quiet)
    (h : t.Only Request.IsSettling) (hx : x.store.statusConflicts = 0) :
    (t.run (answer others readiness) x).2.store.statusConflicts = 0 := by
  refine h.run (Q := fun y : Scene => y.store.statusConflicts = 0) ?_ hx
  intro request y hrequest hy
  rcases request with call | object | operation
  · rw [answer_store, resultOf_of_failure_none (hothers.failure _ _), storeAt_of_quiet hothers]
    rcases hrequest with ⟨ns, hlist⟩ | hartifact
    · cases hlist
      exact hy
    · obtain ⟨_, _, _, _, hstore⟩ :
          y.store.ConfigMapsOnly (y.store.serve (others y.log call).order readiness _).2 :=
        Store.configMapsOnly_serve hartifact y.store
      dsimp only
      rw [hstore]
      exact hy
  · exact hy
  · exact hy

/-- A listing shows the pools as they are, in some order. -/
theorem exists_resultOf_listPools (hothers : others.DisturbReports) (x : Scene) (ns : String) :
    ∃ count, ∃ order : List AddressPool → List AddressPool, (∀ pools, (order pools).Perm pools) ∧
      x.resultOf others readiness (.listPools ns) =
        ((x.store.list AddressPool ns).map order, x.store.expecting count) := by
  have haside : ¬(Request.store (.listPools ns)).IsAside := id
  obtain ⟨count, hresult⟩ := resultOf_of_not_isAside hothers readiness x haside
  exact ⟨count, _, hothers.order x.log _, hresult⟩

end Scene

/-- Whether a run amid faults of reports has come to the same as a run without them, from the same
store. -/
structure Alike (ns : String) (x : Scene) (r : Settled × Scene) (alone : Settled × Store) :
    Prop where
  outcome : r.1.map Prod.snd = alone.1.map Prod.snd
  store : r.2.calmed = alone.2
  pools : r.2.store.pools = x.store.pools
  hasPoolKind : r.2.store.hasPoolKind = x.store.hasPoolKind
  listed : ∀ {pools outcome}, r.1 = .ok (pools, outcome) →
    pools.Perm (x.store.poolsIn ns) ∧ x.store.hasPoolKind = true

theorem Alike.of_pools_eq {y : Scene} {r : Settled × Scene} {alone : Settled × Store}
    (h : Alike ns y r alone) (hpools : y.store.pools = x.store.pools)
    (hkind : y.store.hasPoolKind = x.store.hasPoolKind) : Alike ns x r alone where
  outcome := h.outcome
  store := h.store
  pools := h.pools.trans hpools
  hasPoolKind := h.hasPoolKind.trans hkind
  listed hr := by
    have hsame : y.store.poolsIn ns = x.store.poolsIn ns := by
      rw [Store.poolsIn, Store.poolsIn, hpools]
    rw [← hsame, ← hkind]
    exact h.listed hr

namespace Task

variable (readiness)

theorem alike_settleOnce (hothers : others.DisturbReports) (hx : x.store.Keyed) (ns : String) :
    Alike ns x ((settleOnce ns).run (Scene.answer others readiness) x)
      ((settleOnce ns).run (serve id readiness) x.calmed) := by
  obtain ⟨count, order, horder, hlist⟩ := Scene.exists_resultOf_listPools readiness hothers x ns
  have halone : x.calmed.serve id readiness (.store (.listPools ns)) =
    ((x.store.list AddressPool ns).map id, x.calmed) := rfl
  rw [Store.list_pools] at hlist halone
  cases hkind : x.store.hasPoolKind with
  | false =>
    have hcheck : Store.checkKind AddressPool x.store =
        .error (.kindNotRegistered (Stored.kind AddressPool)) := by
      show (if x.store.hasPoolKind = true then _ else _) = _
      rw [hkind]
      rfl
    rw [hcheck] at hlist halone
    rw [settleOnce, run_call_bind (Scene.answer_of_resultOf hlist), run_call_bind halone]
    exact ⟨rfl, rfl, rfl, rfl, fun h => by cases h⟩
  | true =>
    rw [Store.checkKind_pool hkind] at hlist halone
    rw [settleOnce, run_call_bind (Scene.answer_of_resultOf hlist), run_call_bind halone]
    generalize hy : (⟨x.store.expecting count, x.log ++ [⟨.listPools ns, x.storeAt others
      (.listPools ns), _⟩]⟩ : Scene) = y
    have hcalmed : x.calmed = y.calmed := by
      rw [← hy]
      rfl
    have hwrite := isOnArtifact_writeArtifact ns ⟨x.store.entries ns⟩
    have hview := hwrite.run_view Scene.calmed
      (fun request z hrequest => Scene.serve_calmed readiness hothers hrequest z) y
    have hframe := Scene.pools_run readiness hothers hwrite y
    dsimp only [Except.map, id_eq]
    rw [run_bind, run_bind, hx.ofPools_eq (horder _), hx.ofPools_eq (List.Perm.refl _), hcalmed,
      hview]
    rcases hrun : (writeArtifact ns ⟨x.store.entries ns⟩).run (Scene.answer others readiness) y with
      ⟨result, z⟩
    rw [hrun, ← hy] at hframe
    obtain ⟨hpools, hkind'⟩ := hframe
    cases result with
    | error e => exact ⟨rfl, rfl, hpools, hkind', fun h => by cases h⟩
    | ok outcome =>
      refine ⟨rfl, rfl, hpools, hkind', fun h => ?_⟩
      cases h
      exact ⟨horder _, hkind⟩

/-- **Faults of reports do not reach the first phase.** -/
theorem alike_settleWithin (hothers : others.DisturbReports) (total : Nat) (ns : String)
    (left : Nat) : ∀ {x : Scene}, x.store.Keyed →
      Alike ns x ((settleWithin total ns left).run (Scene.answer others readiness) x)
        ((settleWithin total ns left).run (serve id readiness) x.calmed) := by
  induction left with
  | zero =>
    intro x _
    exact ⟨rfl, rfl, rfl, rfl, fun h => by cases h⟩
  | succ left ih =>
    intro x hx
    have honce := alike_settleOnce readiness hothers hx ns
    have hkeyed := Scene.keyed_run others readiness hx (settleOnce ns)
    rw [settleWithin, run_bind, run_bind]
    rcases hrun : (settleOnce ns).run (Scene.answer others readiness) x with ⟨result, y⟩
    rcases halone : (settleOnce ns).run (serve id readiness) x.calmed with ⟨result', s⟩
    rw [hrun, halone] at honce
    rw [hrun] at hkeyed
    obtain rfl : y.calmed = s := honce.store
    have houtcome : result.map Prod.snd = result'.map Prod.snd := honce.outcome
    rcases result with e | ⟨pools, outcome⟩
    · rcases result' with e' | ⟨pools', outcome'⟩
      · obtain rfl : e = e' := by cases houtcome; rfl
        dsimp only
        split
        · exact (ih hkeyed).of_pools_eq honce.pools honce.hasPoolKind
        · exact honce
      · cases houtcome
    · rcases result' with e' | ⟨pools', outcome'⟩
      · cases houtcome
      · exact honce

end Task

/-! ## The same reports -/

/-- A verdict is given at any time, and says the same but for the time. -/
theorem PoolVerdict.ofPool?_later {now : String} {p : AddressPool} {v : PoolVerdict}
    (h : ofPool? now p = some v) (now' : String) : ∃ v', ofPool? now' p = some v' ∧
      v'.name = v.name ∧
      v'.conditions.map Condition.observation = v.conditions.map Condition.observation := by
  unfold ofPool? at h ⊢
  cases hentry : PoolEntry.ofPool p with
  | ok e =>
    rw [hentry] at h
    cases h
    exact ⟨_, rfl, rfl, rfl⟩
  | error e =>
    rw [hentry] at h
    dsimp only at h ⊢
    split at h
    · cases h
    · cases h
      rw [if_neg (by assumption)]
      exact ⟨_, rfl, rfl, rfl⟩

theorem PoolVerdict.exists_mem_ofPools {now : String} {pools pools' : List AddressPool}
    (hperm : pools.Perm pools') {v : PoolVerdict} (hv : v ∈ ofPools now pools) (now' : String) :
    ∃ v' ∈ ofPools now' pools', v'.name = v.name ∧
      v'.conditions.map Condition.observation = v.conditions.map Condition.observation := by
  obtain ⟨p, hp, hlive, hverdict⟩ := mem_ofPools.mp hv
  obtain ⟨v', hverdict', hname, hsame⟩ := ofPool?_later hverdict now'
  exact ⟨v', mem_ofPools.mpr ⟨p, hperm.mem_iff.mp hp, hlive, hverdict'⟩, hname, hsame⟩

/-- A pool that is reported on is stored under the name in its verdict. -/
theorem Store.Keyed.exists_of_mem_ofPools {s : Store} (hs : s.Keyed) {now : String}
    {pools : List AddressPool} (hpools : pools.Perm (s.poolsIn ns)) {v : PoolVerdict}
    (hv : v ∈ PoolVerdict.ofPools now pools) :
    ∃ p, s.pools.get? ⟨ns, v.name⟩ = some p ∧ PoolVerdict.ofPool? now p = some v := by
  obtain ⟨p, hp, -, hverdict⟩ := PoolVerdict.mem_ofPools.mp hv
  obtain ⟨name, hget⟩ := Store.mem_poolsIn.mp (hpools.mem_iff.mp hp)
  have hname : v.name = name := by
    rw [(PoolVerdict.ofPool?_cases hverdict).1, (hs.pools hget).2]
    rfl
  rw [hname]
  exact ⟨p, hget, hverdict⟩

/-- What the conditions of a pool say, if it is there. -/
def Store.observations (s : Store) (key : ObjectKey) : Option (List Condition) :=
  (s.pools.get? key).map fun p => p.conditions.map Condition.observation

/-- Of two sequences of reports on the same pools, a pool is told the same by both if no call about
it fails in either. -/
theorem ToldAll.observations_eq {y y' z z' : Scene} {L L' : List Exchange} {now now' : String}
    {pools pools' : List AddressPool} (hy : y.store.Keyed) (hsame : z.store.pools = y.store.pools)
    (hpools : pools.Perm (y.store.poolsIn ns)) (hpools' : pools'.Perm (y.store.poolsIn ns))
    (h : ToldAll ns (PoolVerdict.ofPools now pools) y L y')
    (h' : ToldAll ns (PoolVerdict.ofPools now' pools') z L' z') {key : ObjectKey}
    (hfine : ∀ e ∈ L, e.call.IsAbout key → e.reply.isOk = true)
    (hfine' : ∀ e ∈ L', e.reply.isOk = true) :
    y'.store.observations key = z'.store.observations key := by
  have hperm : pools.Perm pools' := hpools.trans hpools'.symm
  by_cases hkey : ∃ v ∈ PoolVerdict.ofPools now pools, key = ⟨ns, v.name⟩
  · obtain ⟨v, hv, rfl⟩ := hkey
    obtain ⟨v', hv', hname, hconditions⟩ := PoolVerdict.exists_mem_ofPools hperm hv now'
    obtain ⟨p, hp, -⟩ := hy.exists_of_mem_ofPools hpools hv
    obtain ⟨q, hq, hqs⟩ := h.told v hv hfine p hp
    have htold := h'.told v' hv' fun e he _ => hfine' e he
    rw [hname] at htold
    obtain ⟨q', hq', hqs'⟩ := htold p (by rw [hsame]; exact hp)
    rw [Store.observations, Store.observations, hq, hq', Option.map_some, Option.map_some, hqs,
      hqs', Condition.observations_merged, Condition.observations_merged, hconditions]
  · have hnone : ∀ v ∈ PoolVerdict.ofPools now pools, key ≠ ⟨ns, v.name⟩ :=
      fun v hv heq => hkey ⟨v, hv, heq⟩
    have hnone' : ∀ v' ∈ PoolVerdict.ofPools now' pools', key ≠ ⟨ns, v'.name⟩ := by
      intro v' hv' heq
      obtain ⟨v, hv, hname, -⟩ := PoolVerdict.exists_mem_ofPools hperm.symm hv' now
      rw [← hname] at heq
      exact hnone v hv heq
    rw [Store.observations, Store.observations, h.pools key hnone, h'.pools key hnone', hsame]

end Scenes

/-! ## Two runs -/

section TwoRuns

variable {others quiet : Surroundings} {readiness : Except OperatorError Readiness} {ns : String}
  {attempts : Nat} {y z : Scene} {settled settled' : Settled}

/-- Whether the first phases of a run amid faults and of a quiet one have come to the same. -/
structure SettledAlike (ns : String) (settled : Settled) (y : Scene) (settled' : Settled)
    (z : Scene) : Prop where
  keyed : y.store.Keyed
  keyed' : z.store.Keyed
  outcome : settled.map Prod.snd = settled'.map Prod.snd
  configMaps : y.store.configMaps = z.store.configMaps
  pools : z.store.pools = y.store.pools
  statusConflicts : z.store.statusConflicts = 0
  listed {pools outcome} : settled = .ok (pools, outcome) → pools.Perm (y.store.poolsIn ns)
  listed' {pools outcome} : settled' = .ok (pools, outcome) →
    pools.Perm (y.store.poolsIn ns) ∧ z.store.hasPoolKind = true

theorem settledAlike_settleWithin (hothers : others.DisturbReports) (hquiet : quiet.Quiet)
    (readiness : Except OperatorError Readiness) {s : Store} (hs : s.Keyed) (attempts : Nat)
    (ns : String) :
    let r := (Task.settleWithin attempts ns attempts).run (Scene.answer others readiness) ⟨s, []⟩
    let r' := (Task.settleWithin attempts ns attempts).run (Scene.answer quiet readiness)
      ⟨s.expecting 0, []⟩
    SettledAlike ns r.1 r.2 r'.1 r'.2 := by
  intro r r'
  have hs' : (s.expecting 0).Keyed := ⟨hs.pools, hs.configMaps, hs.instances⟩
  have h : Alike ns ⟨s, []⟩ r ((Task.settleWithin attempts ns attempts).run (serve id readiness)
    (s.expecting 0)) := Task.alike_settleWithin readiness hothers attempts ns attempts hs
  have h' : Alike ns ⟨s.expecting 0, []⟩ r' ((Task.settleWithin attempts ns attempts).run
    (serve id readiness) (s.expecting 0)) :=
      Task.alike_settleWithin readiness hquiet.disturbReports attempts ns attempts hs'
  have hconfigMaps : r.2.calmed.configMaps = r'.2.calmed.configMaps := by
    rw [h.store, h'.store]
  have hpools : r.2.store.poolsIn ns = s.poolsIn ns := by
    rw [Store.poolsIn, Store.poolsIn, h.pools]
  refine ⟨Scene.keyed_run others readiness hs _, Scene.keyed_run quiet readiness hs' _,
    h.outcome.trans h'.outcome.symm, hconfigMaps, h'.pools.trans h.pools.symm,
    Scene.statusConflicts_run readiness hquiet (Task.isSettling_settleWithin attempts ns attempts) rfl,
    ?_, ?_⟩
  · intro pools outcome hr
    rw [hpools]
    exact (h.listed hr).1
  · intro pools outcome hr
    rw [hpools, h'.hasPoolKind]
    exact h'.listed hr

/-- What two runs come to, if one of them is spared faults of reports. -/
structure EndAlike (r r' : Except OperatorError AggregateOutcome × Scene) (L L' : List Exchange) :
    Prop where
  result : r.1 = r'.1
  configMaps : r.2.store.configMaps = r'.2.store.configMaps
  fine : ∀ e ∈ L', e.reply.isOk = true
  observations {key : ObjectKey} : (∀ e ∈ L, e.call.IsAbout key → e.reply.isOk = true) →
    r.2.store.observations key = r'.2.store.observations key

theorem SettledAlike.conclude (h : SettledAlike ns settled y settled' z)
    (hothers : others.DisturbReports) (hquiet : quiet.Quiet) (hattempts : 0 < attempts)
    (readiness : Except OperatorError Readiness) (now now' : String) :
    ∃ L L',
      ((Task.conclude now attempts ns settled).run (Scene.answer others readiness) y).2.log =
        y.log ++ L ∧
      ((Task.conclude now' attempts ns settled').run (Scene.answer quiet readiness) z).2.log =
        z.log ++ L' ∧
      EndAlike ((Task.conclude now attempts ns settled).run (Scene.answer others readiness) y)
        ((Task.conclude now' attempts ns settled').run (Scene.answer quiet readiness) z) L L' := by
  have houtcome := h.outcome
  rcases settled with e | ⟨pools, outcome⟩
  · rcases settled' with e' | ⟨pools', outcome'⟩
    · cases houtcome
      refine ⟨[], [], (List.append_nil _).symm, (List.append_nil _).symm, rfl, h.configMaps,
        (fun e he => nomatch he), ?_⟩
      intro key _
      show y.store.observations key = z.store.observations key
      rw [Store.observations, Store.observations, h.pools]
    · cases houtcome
  · rcases settled' with e' | ⟨pools', outcome'⟩
    · cases houtcome
    · cases houtcome
      have hlisted := h.listed rfl
      obtain ⟨hlisted', hkind⟩ := h.listed' rfl
      have hnames : ((PoolVerdict.ofPools now pools).map (·.name)).Nodup :=
        PoolVerdict.nodup_names_ofPools h.keyed hlisted
      have hnames' : ((PoolVerdict.ofPools now' pools').map (·.name)).Nodup :=
        PoolVerdict.nodup_names_ofPools h.keyed hlisted'
      obtain ⟨L, htold⟩ := Task.toldAll_reportVerdicts readiness hothers hattempts hnames ns h.keyed
      obtain ⟨L', htold'⟩ := Task.toldAll_reportVerdicts readiness hquiet.disturbReports hattempts
        hnames' ns h.keyed'
      obtain ⟨M, hlog, hfine⟩ := Task.isOk_reportVerdicts readiness hquiet attempts ns
        (PoolVerdict.ofPools now' pools') h.keyed' hkind h.statusConflicts
      obtain rfl : L' = M := List.append_cancel_left (htold'.log.symm.trans hlog)
      rw [Task.run_conclude, Task.run_conclude]
      refine ⟨L, L', htold.log, htold'.log, rfl, ?_, hfine, ?_⟩
      · exact htold.configMaps.trans (h.configMaps.trans htold'.configMaps.symm)
      · intro key hspared
        exact htold.observations_eq h.keyed h.pools hlisted hlisted' htold' hspared hfine

/-- **Reports have no influence on the merge.** Compare a merge of which some reports fail, by
themselves or by conflicts ordered for them, with one of the same store of which none does. Both end
in the same result and leave the same config maps, and a pool is told the same in both unless one of
the calls about it fails. -/
theorem Task.aggregate_ignores_report_faults {s : Store} (hreach : s.Reachable)
    (hothers : others.DisturbReports) (hquiet : quiet.Quiet)
    (readiness : Except OperatorError Readiness) (now now' : String) (attempts : Nat) (ns : String) :
    let faulty := (aggregate now attempts ns).run (Scene.answer others readiness) ⟨s, []⟩
    let clean := (aggregate now' attempts ns).run (Scene.answer quiet readiness)
      ⟨{ s with statusConflicts := 0 }, []⟩
    (∀ e ∈ clean.2.log, (Request.store e.call).IsAside → e.reply.isOk = true) ∧
      faulty.1 = clean.1 ∧
      faulty.2.store.configMaps = clean.2.store.configMaps ∧
      ∀ key, (∀ e ∈ faulty.2.log, e.call.IsAbout key → e.reply.isOk = true) →
        (faulty.2.store.pools.get? key).map (fun p => p.conditions.map Condition.observation) =
          (clean.2.store.pools.get? key).map fun p => p.conditions.map Condition.observation := by
  intro faulty clean
  rcases Nat.eq_zero_or_pos attempts with rfl | hattempts
  · exact ⟨(fun e he => nomatch he), rfl, rfl, fun _ _ => rfl⟩
  have hfaulty : faulty = (settleWithin attempts ns attempts >>= conclude now attempts ns).run
      (Scene.answer others readiness) ⟨s, []⟩ := by
    rw [← aggregateWithin_eq]
    rfl
  have hclean : clean = (settleWithin attempts ns attempts >>= conclude now' attempts ns).run
      (Scene.answer quiet readiness) ⟨s.expecting 0, []⟩ := by
    rw [← aggregateWithin_eq]
    rfl
  rw [run_bind] at hfaulty hclean
  obtain ⟨L, L', hlog, hlog', hend⟩ := (settledAlike_settleWithin hothers hquiet readiness
    hreach.keyed attempts ns).conclude hothers hquiet hattempts readiness now now'
  rw [← hfaulty] at hlog hend
  rw [← hclean] at hlog' hend
  obtain ⟨M, hsettling, hcalls⟩ := Scene.exists_log_run quiet readiness
    (isSettling_settleWithin attempts ns attempts) ⟨s.expecting 0, []⟩
  refine ⟨?_, hend.result, hend.configMaps, ?_⟩
  · -- no call of the first phase is about a pool's status
    intro e he haside
    rw [hlog', hsettling, List.nil_append] at he
    rcases List.mem_append.mp he with he | he
    · exact absurd haside (hcalls e he).not_isAside
    · exact hend.fine e he
  · intro key hspared
    refine hend.observations fun e he => hspared e ?_
    rw [hlog]
    exact List.mem_append_right _ he

/-- Surroundings in which one pool cannot be read, and another one is never up to date. -/
def Surroundings.faulty : Surroundings := fun _ call =>
  { edits := if call.IsAbout ⟨"x", "b"⟩ then [.orderStatusConflicts 1] else []
    failure := if call.IsAbout ⟨"x", "a"⟩ then some (.kindNotRegistered "") else none }

theorem Surroundings.disturbReports_faulty : faulty.DisturbReports where
  edits log call e he := by
    unfold faulty at he
    split at he
    · exact ⟨1, List.mem_singleton.mp he⟩
    · cases he
  failure log call h := if_neg fun habout => h habout.isAside
  order log call pools := .refl pools

theorem Task.aggregate_ignores_report_faults_spared :
    let s := ({} : Store).edits
      [.addPool { metadata := { name := some "a", ns := some "x" }, spec := ⟨"layer2", [], none⟩ },
        .addPool { metadata := { name := some "b", ns := some "x" }, spec := ⟨"bgp", [], none⟩ },
        .addPool { metadata := { name := some "c", ns := some "x" }, spec := ⟨"bgp", [], none⟩ }]
    let faulty := (aggregate "now" 2 "x").run (Scene.answer .faulty (.ok .ready)) ⟨s, []⟩
    let clean := (aggregate "then" 2 "x").run (Scene.answer (fun _ _ => {}) (.ok .ready)) ⟨s, []⟩
    (faulty.2.log.filter fun e => !e.reply.isOk).map (·.call.method) =
        [.getPool, .patchPoolStatus, .patchPoolStatus] ∧
      faulty.1 = .ok .created ∧ clean.1 = .ok .created ∧
      faulty.2.store.configMaps = clean.2.store.configMaps ∧
      faulty.2.store.observations ⟨"x", "c"⟩ = clean.2.store.observations ⟨"x", "c"⟩ := by
  intro s faulty clean
  have hresult : faulty.1 = .ok .created := by decide +kernel
  obtain ⟨-, hsame, hconfigMaps, hpools⟩ := aggregate_ignores_report_faults (s := s) ⟨_, rfl⟩
    Surroundings.disturbReports_faulty
    (show Surroundings.Quiet fun _ _ => {} from
      ⟨fun _ _ => rfl, fun _ _ => rfl, fun _ _ pools => .refl pools⟩) (.ok .ready) "now" "then" 2 "x"
  exact ⟨by decide +kernel, hresult, hsame.symm.trans hresult, hconfigMaps,
    hpools ⟨"x", "c"⟩ (by decide +kernel)⟩

end TwoRuns

end PoolOperator
