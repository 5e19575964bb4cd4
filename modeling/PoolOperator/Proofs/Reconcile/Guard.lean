import PoolOperator.Proofs.Reconcile.Phases
import PoolOperator.Proofs.Scene
import PoolOperator.Proofs.Store.ConfigMap

/-!
# Guarded writes

Amid others, a merge writes the config map once at most. A write stands right behind the listing and
the reading of its own attempt, and it only succeeds while the config map is still the one that was
read.
-/

namespace PoolOperator

/-! ## What is written -/

/-- What a call has done to a config map, if it was a write that succeeded. -/
def Exchange.written? : Exchange → Option AggregateOutcome
  | ⟨.createConfigMap _, _, .ok _⟩ => some .created
  | ⟨.replaceConfigMap _, _, .ok _⟩ => some .updated
  | ⟨.deleteConfigMap _ _, _, .ok _⟩ => some .deleted
  | _ => none

/-- Whether a call is to write a config map. -/
def StoreCall.isConfigMapWrite : StoreCall → Bool
  | .createConfigMap _ | .replaceConfigMap _ | .deleteConfigMap _ _ => true
  | _ => false

/-- The writes that the result of a merge tells of. -/
def writesOf : Except OperatorError AggregateOutcome → List AggregateOutcome
  | .ok .created => [.created]
  | .ok .updated => [.updated]
  | .ok .deleted => [.deleted]
  | .ok .unchanged | .ok .absent | .error _ => []

/-- The write that is due when some pools have been listed and a config map has been read, and its
outcome. -/
inductive Due (ns : String) (pools : List AddressPool) :
    Option ConfigMap → StoreCall → AggregateOutcome → Prop where
  | create (hvalid : ∃ p ∈ pools, p.isBeingDeleted = false ∧ ∃ e, PoolEntry.ofPool p = .ok e) :
      Due ns pools none
        (.createConfigMap (Artifact.newConfigMap ns (Artifact.ofPools pools).encode)) .created
  | replace (hvalid : ∃ p ∈ pools, p.isBeingDeleted = false ∧ ∃ e, PoolEntry.ofPool p = .ok e)
      (current : ConfigMap) :
      Due ns pools (some current)
        (.replaceConfigMap (Artifact.updateConfigMap current (Artifact.ofPools pools).encode))
        .updated
  | delete (hnone : ∀ p ∈ pools, p.isBeingDeleted = false → ∃ e, PoolEntry.ofPool p = .error e)
      (current : ConfigMap) :
      Due ns pools (some current)
        (.deleteConfigMap (Artifact.keyIn ns) current.metadata.resourceVersion) .deleted

theorem Artifact.isEmpty_ofPools {pools : List AddressPool} :
    (Artifact.ofPools pools).isEmpty = true ↔
      ∀ p ∈ pools, p.isBeingDeleted = false → ∃ e, PoolEntry.ofPool p = .error e := by
  have hempty : (Artifact.ofPools pools).isEmpty =
    ((livePools pools).filterMap fun p => (PoolEntry.ofPool p).toOption).isEmpty :=
      (List.mergeSort_perm _ _).isEmpty_eq
  rw [hempty, List.isEmpty_iff, List.filterMap_eq_nil_iff]
  have hnone (p : AddressPool) :
      (PoolEntry.ofPool p).toOption = none ↔ ∃ e, PoolEntry.ofPool p = .error e := by
    cases PoolEntry.ofPool p with
    | error e => exact ⟨fun _ => ⟨e, rfl⟩, fun _ => rfl⟩
    | ok e => exact ⟨nofun, nofun⟩
  simp only [hnone, livePools, List.mem_filter, Bool.not_eq_true', and_imp]

theorem Artifact.exists_of_isEmpty_ofPools {pools : List AddressPool}
    (h : (Artifact.ofPools pools).isEmpty = false) :
    ∃ p ∈ pools, p.isBeingDeleted = false ∧ ∃ e, PoolEntry.ofPool p = .ok e := by
  by_contra hno
  have hempty : (Artifact.ofPools pools).isEmpty = true := by
    rw [Artifact.isEmpty_ofPools]
    intro p hp hlive
    cases hentry : PoolEntry.ofPool p with
    | error e => exact ⟨e, rfl⟩
    | ok e => exact absurd ⟨p, hp, hlive, e, hentry⟩ hno
  rw [h] at hempty
  cases hempty

/-! ## Logs -/

/-- Whether every write in a log stands right behind the listing and the reading that it is due to,
and has succeeded only if the config map was the one that was read. -/
def Guarded (ns : String) (L : List Exchange) : Prop :=
  ∀ earlier x later, L = earlier ++ x :: later → x.call.isConfigMapWrite = true →
    ∃ before pools s current t outcome,
      earlier = before ++ [⟨.listPools ns, s, .ok pools⟩,
        ⟨.getConfigMap (Artifact.keyIn ns), t, .ok current⟩] ∧
      Due ns pools current x.call outcome ∧
      (x.reply.isOk = true → x.store.configMaps.get? (Artifact.keyIn ns) = current)

section Logs

variable {ns : String} {L L' : List Exchange}

theorem guarded_of_none (h : ∀ x ∈ L, x.call.isConfigMapWrite = false) : Guarded ns L := by
  intro earlier x later hL hwrite
  have hx : x.call.isConfigMapWrite = false := h x (by simp [hL])
  rw [hx] at hwrite
  cases hwrite

theorem Guarded.append (h : Guarded ns L) (h' : Guarded ns L') : Guarded ns (L ++ L') := by
  intro earlier x later hL hwrite
  rcases List.append_eq_append_iff.mp hL with ⟨mid, rfl, hmid⟩ | ⟨mid, rfl, hmid⟩
  · obtain ⟨before, pools, s, current, t, outcome, rfl, hrest⟩ := h' mid x later hmid hwrite
    exact ⟨L ++ before, pools, s, current, t, outcome, by rw [List.append_assoc], hrest⟩
  · cases mid with
    | nil =>
      -- nothing stands before the first call of the second log
      obtain ⟨before, pools, s, current, t, outcome, hnil, -⟩ := h' [] x later hmid.symm hwrite
      simp at hnil
    | cons y mid =>
      rw [List.cons_append, List.cons.injEq] at hmid
      obtain ⟨rfl, -⟩ := hmid
      exact h earlier x mid rfl hwrite

theorem written?_of_not_isConfigMapWrite {x : Exchange} (h : x.call.isConfigMapWrite = false) :
    x.written? = none := by
  obtain ⟨call, s, reply⟩ := x
  cases call with
  | createConfigMap | replaceConfigMap | deleteConfigMap => cases h
  | _ => rfl

theorem filterMap_written?_of_none (h : ∀ x ∈ L, x.call.isConfigMapWrite = false) :
    L.filterMap Exchange.written? = [] :=
  List.filterMap_eq_nil_iff.mpr fun x hx => written?_of_not_isConfigMapWrite (h x hx)

end Logs

/-! ## Settling the artifact -/

/-- What is called to write an artifact, and the result. -/
inductive Settles (ns : String) (pools : List AddressPool) :
    List Exchange → Except OperatorError AggregateOutcome → Prop where
  | unread (t : Store) (e : StoreError) :
      Settles ns pools [⟨.getConfigMap (Artifact.keyIn ns), t, .error e⟩] (.error (.store e))
  | idle (t : Store) (current : Option ConfigMap) {outcome : AggregateOutcome}
      (houtcome : outcome = .absent ∨ outcome = .unchanged) :
      Settles ns pools [⟨.getConfigMap (Artifact.keyIn ns), t, .ok current⟩] (.ok outcome)
  | refused (t : Store) {current : Option ConfigMap} {call : StoreCall}
      {outcome : AggregateOutcome} (hdue : Due ns pools current call outcome) (u : Store)
      (e : StoreError) {result : Except OperatorError AggregateOutcome}
      (hresult : result = .error (.store e) ∨ result = .ok .absent) :
      Settles ns pools
        [⟨.getConfigMap (Artifact.keyIn ns), t, .ok current⟩, ⟨call, u, .error e⟩] result
  | written (t : Store) {current : Option ConfigMap} {call : StoreCall}
      {outcome : AggregateOutcome} (hdue : Due ns pools current call outcome) (u : Store)
      (reply : call.Reply) (hcurrent : u.configMaps.get? (Artifact.keyIn ns) = current) :
      Settles ns pools
        [⟨.getConfigMap (Artifact.keyIn ns), t, .ok current⟩, ⟨call, u, .ok reply⟩] (.ok outcome)

section Settles

variable {ns : String} {pools : List AddressPool} {L : List Exchange}
  {result : Except OperatorError AggregateOutcome}

/-- The result tells of the writes that have succeeded. -/
theorem Settles.filterMap_written? (h : Settles ns pools L result) :
    L.filterMap Exchange.written? = writesOf result := by
  cases h with
  | unread t e => rfl
  | idle t current houtcome => rcases houtcome with rfl | rfl <;> rfl
  | refused t hdue u e hresult => cases hdue <;> rcases hresult with rfl | rfl <;> rfl
  | written t hdue u reply hcurrent => cases hdue <;> rfl

/-- A write is guarded behind the listing and the reading that it is due to. -/
theorem Due.guarded {current : Option ConfigMap} {call : StoreCall} {outcome : AggregateOutcome}
    (h : Due ns pools current call outcome) {s t u : Store} {reply : Except StoreError call.Reply}
    (hcurrent : reply.isOk = true → u.configMaps.get? (Artifact.keyIn ns) = current) :
    Guarded ns [⟨.listPools ns, s, .ok pools⟩,
      ⟨.getConfigMap (Artifact.keyIn ns), t, .ok current⟩, ⟨call, u, reply⟩] := by
  intro earlier x later hL hwrite
  rcases earlier with _ | ⟨a, _ | ⟨b, _ | ⟨c, earlier⟩⟩⟩
  · cases hL
    cases hwrite
  · cases hL
    cases hwrite
  · cases hL
    exact ⟨[], pools, s, current, t, outcome, rfl, h, hcurrent⟩
  · simp at hL

theorem Settles.guarded (h : Settles ns pools L result) (s : Store) :
    Guarded ns (⟨.listPools ns, s, .ok pools⟩ :: L) := by
  cases h with
  | unread t e =>
    refine guarded_of_none fun x hx => ?_
    simp only [List.mem_cons, List.not_mem_nil, or_false] at hx
    rcases hx with rfl | rfl <;> rfl
  | idle t current houtcome =>
    refine guarded_of_none fun x hx => ?_
    simp only [List.mem_cons, List.not_mem_nil, or_false] at hx
    rcases hx with rfl | rfl <;> rfl
  | refused t hdue u e hresult =>
    apply hdue.guarded
    intro hok
    cases hok
  | written t hdue u reply hcurrent =>
    apply hdue.guarded
    intro _
    exact hcurrent

end Settles

section Runs

variable {others : Surroundings} {readiness : Except OperatorError Readiness} {x : Scene}
  {ns : String} {pools : List AddressPool}

open Scene (answer)

/-- **A write that succeeds finds what was read.** Nobody has changed the config map since, nor
deleted it and created it again. -/
theorem Due.current_of_ok {current : Option ConfigMap} {call : StoreCall}
    {outcome : AggregateOutcome} (h : Due ns pools current call outcome)
    (hx : x.store.Reachable) (hread : x.store.configMaps.get? (Artifact.keyIn ns) = current)
    {reply : call.Reply} {s : Store} (hok : x.resultOf others readiness call = (.ok reply, s)) :
    (x.storeAt others call).configMaps.get? (Artifact.keyIn ns) = current := by
  have hserve := Scene.serve_of_resultOf_eq_ok hok
  have hchanges : Store.Changes x.store (x.storeAt others call) :=
    Scene.changes_storeAt hx.keyed call
  -- what is stored in the version that was read is what was read
  have hsame {c stored : ConfigMap} (hc : x.store.configMaps.get? (Artifact.keyIn ns) = some c)
      (hstored : (x.storeAt others call).configMaps.get? (Artifact.keyIn ns) = some stored)
      (hversion : c.metadata.resourceVersion = none ∨
        c.metadata.resourceVersion = stored.metadata.resourceVersion) : stored = c := by
    obtain ⟨v, -, hv⟩ := hx.version (α := ConfigMap) hc
    have hv : c.metadata.resourceVersion = some (toString v) := hv
    rcases hversion with hnone | heq
    · rw [hv] at hnone
      cases hnone
    · exact hx.eq_of_version_eq (α := ConfigMap) hchanges hc hstored heq.symm
  cases h with
  | create hvalid =>
    have hkey : (Artifact.newConfigMap ns (Artifact.ofPools pools).encode).metadata.HasKey
      (Artifact.keyIn ns) := ⟨rfl, rfl⟩
    exact Store.free_of_createConfigMap hkey hserve
  | replace hvalid c =>
    have hkey := hx.keyed.configMaps hread
    have hkey' : (Artifact.updateConfigMap c (Artifact.ofPools pools).encode).metadata.HasKey
      (Artifact.keyIn ns) := ⟨hkey.1, hkey.2⟩
    obtain ⟨stored, hstored, hversion⟩ := Store.stored_of_replaceConfigMap hkey' hserve
    rw [hstored, hsame hread hstored hversion]
  | delete hnone c =>
    obtain ⟨stored, hstored, hversion⟩ := Store.stored_of_deleteConfigMap hserve
    rw [hstored, hsame hread hstored hversion]

/-- What a scene has to show once a task has settled an artifact behind a reading. -/
def SettledBehind (ns : String) (pools : List AddressPool) (read : Exchange) (x : Scene)
    (r : Except OperatorError AggregateOutcome × Scene) : Prop :=
  ∃ L, r.2.log = x.log ++ L ∧ Settles ns pools (read :: L) r.1

theorem SettledBehind.with_reading {read : Exchange} {y : Scene}
    {r : Except OperatorError AggregateOutcome × Scene} (h : SettledBehind ns pools read y r)
    (hy : y.log = x.log ++ [read]) :
    ∃ L, r.2.log = x.log ++ L ∧ Settles ns pools L r.1 := by
  obtain ⟨L, hlog, hsettles⟩ := h
  refine ⟨read :: L, ?_, hsettles⟩
  rw [hlog, hy, List.append_assoc]
  rfl

namespace Task

section Writes

variable {t : Store} {current : Option ConfigMap}

theorem settles_createArtifact (hx : x.store.Reachable)
    (hread : x.store.configMaps.get? (Artifact.keyIn ns) = none)
    (hsome : (Artifact.ofPools pools).isEmpty = false) :
    SettledBehind ns pools ⟨.getConfigMap (Artifact.keyIn ns), t, .ok none⟩ x
      ((createArtifact ns (Artifact.ofPools pools).encode).run (answer others readiness) x) := by
  have hdue : Due ns pools none (.createConfigMap (Artifact.newConfigMap ns
    (Artifact.ofPools pools).encode)) .created :=
      .create (Artifact.exists_of_isEmpty_ofPools hsome)
  rcases hwrite : x.resultOf others readiness (.createConfigMap (Artifact.newConfigMap ns
    (Artifact.ofPools pools).encode)) with ⟨e | reply, s⟩
  · rw [createArtifact, run_call_bind (Scene.answer_of_resultOf hwrite)]
    exact ⟨_, rfl, .refused t hdue _ e (.inl rfl)⟩
  · rw [createArtifact, run_call_bind (Scene.answer_of_resultOf hwrite)]
    exact ⟨_, rfl, .written t hdue _ reply (hdue.current_of_ok hx hread hwrite)⟩

theorem settles_replaceArtifact (hx : x.store.Reachable) {c : ConfigMap}
    (hread : x.store.configMaps.get? (Artifact.keyIn ns) = some c)
    (hsome : (Artifact.ofPools pools).isEmpty = false) :
    SettledBehind ns pools ⟨.getConfigMap (Artifact.keyIn ns), t, .ok (some c)⟩ x
      ((replaceArtifact c (Artifact.ofPools pools).encode).run (answer others readiness) x) := by
  have hdue : Due ns pools (some c) (.replaceConfigMap (Artifact.updateConfigMap c
    (Artifact.ofPools pools).encode)) .updated :=
      .replace (Artifact.exists_of_isEmpty_ofPools hsome) c
  rcases hwrite : x.resultOf others readiness (.replaceConfigMap (Artifact.updateConfigMap c
    (Artifact.ofPools pools).encode)) with ⟨e | reply, s⟩
  · rw [replaceArtifact, run_call_bind (Scene.answer_of_resultOf hwrite)]
    exact ⟨_, rfl, .refused t hdue _ e (.inl rfl)⟩
  · rw [replaceArtifact, run_call_bind (Scene.answer_of_resultOf hwrite)]
    exact ⟨_, rfl, .written t hdue _ reply (hdue.current_of_ok hx hread hwrite)⟩

theorem settles_deleteArtifact (hx : x.store.Reachable) {c : ConfigMap}
    (hread : x.store.configMaps.get? (Artifact.keyIn ns) = some c)
    (hempty : (Artifact.ofPools pools).isEmpty = true) :
    SettledBehind ns pools ⟨.getConfigMap (Artifact.keyIn ns), t, .ok (some c)⟩ x
      ((deleteArtifact ns c).run (answer others readiness) x) := by
  have hdue : Due ns pools (some c) (.deleteConfigMap (Artifact.keyIn ns)
    c.metadata.resourceVersion) .deleted := .delete (Artifact.isEmpty_ofPools.mp hempty) c
  rcases hwrite : x.resultOf others readiness (.deleteConfigMap (Artifact.keyIn ns)
    c.metadata.resourceVersion) with ⟨e | reply, s⟩
  · rw [deleteArtifact, run_call_bind (Scene.answer_of_resultOf hwrite)]
    -- what is not there any more is as good as deleted, but nothing has been written
    cases e with
    | notFound detail => exact ⟨_, rfl, .refused t hdue _ _ (.inr rfl)⟩
    | _ => exact ⟨_, rfl, .refused t hdue _ _ (.inl rfl)⟩
  · rw [deleteArtifact, run_call_bind (Scene.answer_of_resultOf hwrite)]
    exact ⟨_, rfl, .written t hdue _ reply (hdue.current_of_ok hx hread hwrite)⟩

end Writes

variable (others readiness)

theorem settles_writeArtifact (hx : x.store.Reachable) (ns : String) (pools : List AddressPool) :
    ∃ L, ((writeArtifact ns (.ofPools pools)).run (answer others readiness) x).2.log = x.log ++ L ∧
      Settles ns pools L
        ((writeArtifact ns (.ofPools pools)).run (answer others readiness) x).1 := by
  rcases hget : x.resultOf others readiness (.getConfigMap (Artifact.keyIn ns)) with
    ⟨e | current, s⟩
  · rw [writeArtifact, run_call_bind (Scene.answer_of_resultOf hget)]
    exact ⟨_, rfl, .unread _ e⟩
  rw [writeArtifact, run_call_bind (Scene.answer_of_resultOf hget)]
  have hs : (x.resultOf others readiness (.getConfigMap (Artifact.keyIn ns))).2.Reachable :=
    Scene.reachable_resultOf hx _
  rw [hget] at hs
  have hread : s.configMaps.get? (Artifact.keyIn ns) = current := by
    have hserve := Scene.serve_of_resultOf_eq_ok hget
    cases hserve
    rfl
  cases current with
  | none =>
    cases hempty : (Artifact.ofPools pools).isEmpty with
    | true => exact ⟨_, rfl, .idle _ none (.inl rfl)⟩
    | false => exact (settles_createArtifact hs hread hempty).with_reading rfl
  | some current =>
    cases hempty : (Artifact.ofPools pools).isEmpty with
    | true => exact (settles_deleteArtifact hs hread hempty).with_reading rfl
    | false =>
      simp only [Bool.false_eq_true, if_false]
      cases hdescribed : (Artifact.ofPools pools).isDescribedBy (Artifact.storedText current) with
      | true => exact ⟨_, rfl, .idle _ (some current) (.inr rfl)⟩
      | false => exact (settles_replaceArtifact hs hread hempty).with_reading rfl

/-! ## Whole runs -/

/-- What a scene has to show once a task of a merge has ended: what it has written is what its
result tells of, behind listings and readings of its own. -/
def Accounted (ns : String) (x : Scene) (result : Except OperatorError AggregateOutcome)
    (y : Scene) : Prop :=
  ∃ L, y.log = x.log ++ L ∧ L.filterMap Exchange.written? = writesOf result ∧ Guarded ns L

theorem Accounted.trans {y z : Scene} {e : OperatorError}
    {result : Except OperatorError AggregateOutcome} (h : Accounted ns x (.error e) y)
    (h' : Accounted ns y result z) : Accounted ns x result z := by
  obtain ⟨L, hlog, hwritten, hguarded⟩ := h
  obtain ⟨L', hlog', hwritten', hguarded'⟩ := h'
  refine ⟨L ++ L', ?_, ?_, hguarded.append hguarded'⟩
  · rw [hlog', hlog, List.append_assoc]
  · rw [List.filterMap_append, hwritten, hwritten']
    rfl

theorem accounted_settleOnce (hx : x.store.Reachable) (ns : String) :
    Accounted ns x (((settleOnce ns).run (answer others readiness) x).1.map Prod.snd)
      ((settleOnce ns).run (answer others readiness) x).2 := by
  rcases hlist : x.resultOf others readiness (.listPools ns) with ⟨e | pools, s⟩
  · rw [settleOnce, run_call_bind (Scene.answer_of_resultOf hlist)]
    refine ⟨_, rfl, rfl, guarded_of_none fun y hy => ?_⟩
    rw [List.mem_singleton.mp hy]
    rfl
  have hs : (x.resultOf others readiness (.listPools ns)).2.Reachable :=
    Scene.reachable_resultOf hx _
  rw [hlist] at hs
  rw [settleOnce, run_call_bind (Scene.answer_of_resultOf hlist)]
  dsimp only
  rw [run_bind]
  obtain ⟨L, hlog, hsettles⟩ := settles_writeArtifact others readiness
    (x := ⟨s, x.log ++ [⟨.listPools ns, x.storeAt others (.listPools ns), .ok pools⟩]⟩) hs ns pools
  rcases hwrite : (writeArtifact ns (.ofPools pools)).run (answer others readiness)
    ⟨s, x.log ++ [⟨.listPools ns, x.storeAt others (.listPools ns), .ok pools⟩]⟩ with ⟨result, y⟩
  rw [hwrite] at hlog hsettles ⊢
  have haccounted : Accounted ns x result y := by
    refine ⟨⟨.listPools ns, x.storeAt others (.listPools ns), .ok pools⟩ :: L, ?_,
      hsettles.filterMap_written?, hsettles.guarded _⟩
    rw [hlog, List.append_assoc]
    rfl
  cases result with
  | error e => exact haccounted
  | ok outcome => exact haccounted

/-- **Only the last attempt can have written anything.** -/
theorem accounted_settleWithin (total : Nat) (ns : String) (left : Nat) :
    ∀ {x : Scene}, x.store.Reachable →
      Accounted ns x (((settleWithin total ns left).run (answer others readiness) x).1.map Prod.snd)
        ((settleWithin total ns left).run (answer others readiness) x).2 := by
  induction left with
  | zero =>
    intro x _
    show Accounted ns x (.error _) x
    exact ⟨[], (List.append_nil _).symm, rfl, guarded_of_none (fun y hy => nomatch hy)⟩
  | succ left ih =>
    intro x hx
    have honce := accounted_settleOnce others readiness hx ns
    have hreach := Scene.reachable_run others readiness hx (settleOnce ns)
    rw [settleWithin, run_bind]
    rcases hrun : (settleOnce ns).run (answer others readiness) x with ⟨result, y⟩
    rw [hrun] at honce hreach
    dsimp only
    split
    · -- an attempt that ends in a conflict has written nothing
      exact honce.trans (ih hreach)
    · exact honce

/-- Reports write no config map. -/
theorem accounted_conclude (now : String) (attempts : Nat) {y : Scene} {settled : Settled}
    (h : Accounted ns x (settled.map Prod.snd) y) :
    Accounted ns x ((conclude now attempts ns settled).run (answer others readiness) y).1
      ((conclude now attempts ns settled).run (answer others readiness) y).2 := by
  cases settled with
  | error e => exact h
  | ok settled =>
    obtain ⟨pools, outcome⟩ := settled
    obtain ⟨L, hlog, hwritten, hguarded⟩ := h
    rw [run_conclude]
    obtain ⟨L', hlog', haside⟩ := Scene.exists_log_run others readiness
      (isAside_reportVerdicts attempts ns (PoolVerdict.ofPools now pools)) y
    have hnone : ∀ e ∈ L', e.call.isConfigMapWrite = false := by
      rintro ⟨call, s, reply⟩ he
      have h := haside _ he
      cases call with
      | createConfigMap | replaceConfigMap | deleteConfigMap => exact h.elim
      | _ => rfl
    refine ⟨L ++ L', ?_, ?_, hguarded.append (guarded_of_none hnone)⟩
    · rw [hlog', hlog, List.append_assoc]
    · rw [List.filterMap_append, filterMap_written?_of_none hnone, List.append_nil]
      exact hwritten

end Task

end Runs

/-! ## The guard -/

/-- **A merge writes once at most, and overtakes nobody.** Whatever others do between its calls and
whichever calls fail, it has written just what its result tells of. A write says what follows from
the listing right before it, and it has succeeded only if the config map was the one that was read
right before it. -/
theorem Task.aggregate_writes_guarded {s : Store} (hreach : s.Reachable) (others : Surroundings)
    (readiness : Except OperatorError Readiness) (now : String) (attempts : Nat) (ns : String) :
    let r := (aggregate now attempts ns).run (Scene.answer others readiness) ⟨s, []⟩
    r.2.log.filterMap Exchange.written? = writesOf r.1 ∧
      ∀ earlier x later, r.2.log = earlier ++ x :: later → x.call.isConfigMapWrite = true →
        ∃ before pools t current u outcome,
          earlier = before ++ [⟨.listPools ns, t, .ok pools⟩,
            ⟨.getConfigMap (Artifact.keyIn ns), u, .ok current⟩] ∧
          Due ns pools current x.call outcome ∧
          (x.reply.isOk = true → x.store.configMaps.get? (Artifact.keyIn ns) = current) := by
  intro r
  have h : Accounted ns ⟨s, []⟩ r.1 r.2 := by
    have hr : r = ((settleWithin attempts ns attempts >>= conclude now attempts ns).run
        (Scene.answer others readiness) ⟨s, []⟩) := by
      rw [← aggregateWithin_eq]
      rfl
    rw [hr, run_bind]
    exact accounted_conclude others readiness now attempts
      (accounted_settleWithin others readiness attempts ns attempts (x := ⟨s, []⟩) hreach)
  obtain ⟨L, hlog, hwritten, hguarded⟩ := h
  rw [List.nil_append] at hlog
  rw [hlog]
  exact ⟨hwritten, hguarded⟩

/-- Surroundings in which the config map is deleted and created again just before the third call. -/
def Surroundings.recreating : Surroundings := fun log _ =>
  if log.length = 2 then
    { edits := [.call (.deleteConfigMap (Artifact.keyIn "x") none),
        .call (.createConfigMap (Artifact.newConfigMap "x" "mine"))] }
  else {}

theorem Task.aggregate_writes_guarded_recreated :
    let s := ({} : Store).edits
      [.addPool { metadata := { name := some "a", ns := some "x" }, spec := ⟨"layer2", [], none⟩ },
        .addConfigMap (Artifact.newConfigMap "x" "old")]
    let r := (aggregate "now" 2 "x").run (Scene.answer .recreating (.ok .ready)) ⟨s, []⟩
    r.1 = .ok .updated ∧ r.2.log.filterMap Exchange.written? = [.updated] ∧
      (r.2.log.map fun e => (e.call.method, e.reply.isOk)).take 6 =
        [(.listPools, true), (.getConfigMap, true), (.replaceConfigMap, false),
          (.listPools, true), (.getConfigMap, true), (.replaceConfigMap, true)] := by
  intro s r
  have hresult : r.1 = .ok .updated := by decide +kernel
  obtain ⟨hwritten, -⟩ := aggregate_writes_guarded (s := s) ⟨_, rfl⟩ .recreating (.ok .ready) "now"
    2 "x"
  refine ⟨hresult, ?_, by decide +kernel⟩
  calc r.2.log.filterMap Exchange.written? = writesOf r.1 := hwritten
    _ = [.updated] := by rw [hresult]; rfl

end PoolOperator
