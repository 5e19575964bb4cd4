import PoolOperator.Proofs.Condition.Merge
import PoolOperator.Proofs.Reconcile.Report
import PoolOperator.Proofs.Scene
import PoolOperator.Proofs.Store.Status

/-!
# Reports that may fail

A report asks for one pool and writes the status of this pool. Whatever becomes of it, config maps
and other pools stay as they are. If none of its calls fails, the pool has its verdict merged into
the conditions that it had.
-/

namespace PoolOperator

/-- Whether a call reads a pool or writes its status. -/
def StoreCall.IsAbout (key : ObjectKey) : StoreCall → Prop
  | .getPool key' => key' = key
  | .patchPoolStatus p => p.metadata.HasKey key
  | _ => False

instance (key : ObjectKey) : (call : StoreCall) → Decidable (call.IsAbout key)
  | .getPool key' => inferInstanceAs (Decidable (key' = key))
  | .patchPoolStatus p =>
    inferInstanceAs (Decidable (p.metadata.ns = some key.ns ∧ p.metadata.name = some key.name))
  | .listPools _ | .createPool _ | .replacePool _ | .deletePool _ | .getConfigMap _
  | .createConfigMap _ | .replaceConfigMap _ | .deleteConfigMap .. | .listInstances _
  | .getInstance _ | .createInstance _ | .deleteInstance _ | .patchInstanceStatus _ =>
    .isFalse id

theorem StoreCall.IsAbout.isAside {call : StoreCall} {key : ObjectKey} (h : call.IsAbout key) :
    (Request.store call).IsAside := by
  cases call with
  | getPool | patchPoolStatus => exact trivial
  | _ => exact h.elim

/-! ## Surroundings -/

/-- Surroundings in which reports may fail, by themselves or by conflicts ordered for them, and
nothing else happens. -/
structure Surroundings.DisturbReports (others : Surroundings) : Prop where
  edits (log : List Exchange) (call : StoreCall) :
    ∀ e ∈ (others log call).edits, ∃ count, e = .orderStatusConflicts count
  failure (log : List Exchange) {call : StoreCall} (h : ¬(Request.store call).IsAside) :
    (others log call).failure = none
  order (log : List Exchange) (call : StoreCall) (pools : List AddressPool) :
    ((others log call).order pools).Perm pools

/-- Surroundings in which nothing happens. -/
structure Surroundings.Quiet (others : Surroundings) : Prop where
  edits (log : List Exchange) (call : StoreCall) : (others log call).edits = []
  failure (log : List Exchange) (call : StoreCall) : (others log call).failure = none
  order (log : List Exchange) (call : StoreCall) (pools : List AddressPool) :
    ((others log call).order pools).Perm pools

theorem Surroundings.Quiet.disturbReports {others : Surroundings} (h : others.Quiet) :
    others.DisturbReports where
  edits log call e he := by
    rw [h.edits] at he
    cases he
  failure log call _ := h.failure log call
  order := h.order

theorem Store.edits_orderStatusConflicts {es : List StoreEdit}
    (h : ∀ e ∈ es, ∃ count, e = .orderStatusConflicts count) :
    ∀ s : Store, ∃ count, s.edits es = s.expecting count := by
  induction es with
  | nil =>
    intro s
    exact ⟨s.statusConflicts, rfl⟩
  | cons e es ih =>
    intro s
    obtain ⟨count, rfl⟩ := h e List.mem_cons_self
    obtain ⟨count', hcount'⟩ := ih (fun e he => h e (List.mem_cons_of_mem _ he))
      (s.expecting count)
    exact ⟨count', hcount'⟩

section Scenes

variable {others : Surroundings} {readiness : Except OperatorError Readiness} {x y z : Scene}
  {key : ObjectKey} {desired : List Condition}

namespace Scene

open Store (StatusWrite)

theorem storeAt_expecting (h : others.DisturbReports) (x : Scene) (call : StoreCall) :
    ∃ count, x.storeAt others call = x.store.expecting count :=
  Store.edits_orderStatusConflicts (h.edits x.log call) x.store

theorem storeAt_of_quiet (h : others.Quiet) (x : Scene) (call : StoreCall) :
    x.storeAt others call = x.store := by
  rw [storeAt, h.edits]
  rfl

theorem resultOf_of_failure_none {call : StoreCall} (h : (others x.log call).failure = none) :
    x.resultOf others readiness call =
      (x.storeAt others call).serve (others x.log call).order readiness (.store call) := by
  rw [resultOf, h]

/-! ## Single calls -/

/-- Reading a pool changes nothing but what is ordered, and shows the pool if it does not fail. -/
theorem exists_resultOf_getPool (hothers : others.DisturbReports)
    (readiness : Except OperatorError Readiness) (x : Scene) (key : ObjectKey) :
    ∃ count reply, x.resultOf others readiness (.getPool key) =
        (reply, x.store.expecting count) ∧
      ∀ found, reply = .ok found → found = x.store.pools.get? key := by
  obtain ⟨count, hcount⟩ := storeAt_expecting hothers x (.getPool key)
  rw [resultOf, hcount]
  split
  · refine ⟨count, _, rfl, fun found hfound => ?_⟩
    cases hfound
  · refine ⟨count, (x.store.expecting count).get AddressPool key, rfl, fun found hfound => ?_⟩
    unfold Store.get at hfound
    cases hkind : Store.checkKind AddressPool (x.store.expecting count) with
    | error e =>
      rw [hkind] at hfound
      cases hfound
    | ok _ =>
      rw [hkind] at hfound
      cases hfound
      rfl

/-- A status is written as a store has it that nobody else has changed, or not at all. -/
theorem exists_resultOf_patchPoolStatus (hothers : others.DisturbReports)
    (readiness : Except OperatorError Readiness) (x : Scene) {p : AddressPool}
    (hkey : p.metadata.HasKey key) :
    ∃ count reply s, x.resultOf others readiness (.patchPoolStatus p) = (reply, s) ∧
      StatusWrite (x.store.expecting count) key p reply s := by
  obtain ⟨count, hcount⟩ := storeAt_expecting hothers x (.patchPoolStatus p)
  have hserve (s : Store) (order : List AddressPool → List AddressPool) :
    s.serve order readiness (.store (.patchPoolStatus p)) = s.patchStatus p := rfl
  rw [resultOf, hcount]
  split
  · exact ⟨count, _, _, rfl, .refused _⟩
  · rw [hserve]
    exact ⟨count, _, _, rfl, Store.statusWrite_patchStatus hkey⟩

theorem resultOf_getPool_of_quiet (readiness : Except OperatorError Readiness)
    (hothers : others.Quiet) (hkind : x.store.hasPoolKind = true) (key : ObjectKey) :
    x.resultOf others readiness (.getPool key) = (.ok (x.store.pools.get? key), x.store) := by
  rw [resultOf_of_failure_none (hothers.failure _ _), storeAt_of_quiet hothers,
    Store.serve_getPool hkind]

/-- In quiet surroundings a status is written as soon as the pool has been read. -/
theorem resultOf_patchPoolStatus_of_quiet (readiness : Except OperatorError Readiness)
    (hothers : others.Quiet) (hx : x.store.Keyed) (hkind : x.store.hasPoolKind = true)
    (hconflicts : x.store.statusConflicts = 0) {current : AddressPool}
    (hstored : x.store.pools.get? key = some current) (cs : List Condition) :
    ∃ updated s, x.resultOf others readiness (.patchPoolStatus (withConditions current cs)) =
        (.ok updated, s) ∧ s.statusConflicts = 0 := by
  obtain ⟨updated, s, hpatch, -, -⟩ := Store.patchStatus_eq_ok hx hkind hconflicts hstored
    (some { current.status.getD {} with conditions := cs })
  change x.store.patchStatus (withConditions current cs) = (.ok updated, s) at hpatch
  have hless : (x.store.patchStatus (withConditions current cs)).2.statusConflicts ≤
      x.store.statusConflicts :=
    (x.store.statusOnly_patchStatus (withConditions current cs)).statusConflicts
  rw [hpatch, hconflicts] at hless
  refine ⟨updated, s, ?_, Nat.le_zero.mp hless⟩
  rw [resultOf_of_failure_none (hothers.failure _ _), storeAt_of_quiet hothers]
  exact hpatch

end Scene

/-! ## What a report touches -/

/-- A part of a run that is about the pool under one key and leaves all else as it is. -/
structure Touches (key : ObjectKey) (x : Scene) (L : List Exchange) (y : Scene) : Prop where
  log : y.log = x.log ++ L
  about : ∀ e ∈ L, e.call.IsAbout key
  configMaps : y.store.configMaps = x.store.configMaps
  hasPoolKind : y.store.hasPoolKind = x.store.hasPoolKind
  pools : ∀ k, k ≠ key → y.store.pools.get? k = x.store.pools.get? k

theorem Touches.refl (key : ObjectKey) (x : Scene) : Touches key x [] x :=
  ⟨(List.append_nil _).symm, (fun _ he => nomatch he), rfl, rfl, fun _ _ => rfl⟩

theorem Touches.trans {L L' : List Exchange} (h : Touches key x L y) (h' : Touches key y L' z) :
    Touches key x (L ++ L') z where
  log := by rw [h'.log, h.log, List.append_assoc]
  about e he := (List.mem_append.mp he).elim (h.about e) (h'.about e)
  configMaps := h'.configMaps.trans h.configMaps
  hasPoolKind := h'.hasPoolKind.trans h.hasPoolKind
  pools k hk := (h'.pools k hk).trans (h.pools k hk)

theorem Touches.of_call {s : Store} {e : Exchange} (habout : e.call.IsAbout key)
    (hconfigMaps : s.configMaps = x.store.configMaps) (hkind : s.hasPoolKind = x.store.hasPoolKind)
    (hpools : ∀ k, k ≠ key → s.pools.get? k = x.store.pools.get? k) :
    Touches key x [e] ⟨s, x.log ++ [e]⟩ := by
  refine ⟨rfl, ?_, hconfigMaps, hkind, hpools⟩
  intro e' he'
  rw [List.mem_singleton.mp he']
  exact habout

/-- Whether a pool, if it was there, has observations merged into its conditions. -/
def Told (key : ObjectKey) (desired : List Condition) (x y : Scene) : Prop :=
  ∀ p, x.store.pools.get? key = some p →
    ∃ q, y.store.pools.get? key = some q ∧ q.conditions = Condition.merged p.conditions desired

/-- A pool is told by what follows a reading, if this writes what is merged. -/
theorem Touches.told {L : List Exchange} (hget : Touches key x L y) {current : AddressPool}
    {merged : List Condition} (hcurrent : x.store.pools.get? key = some current)
    (hmerge : Condition.merge? current.conditions desired = some merged)
    (h : ∃ L', Touches key y L' z ∧ ((∀ e ∈ L', e.reply.isOk = true) →
      ∃ q, z.store.pools.get? key = some q ∧ q.conditions = merged)) {left : Nat} :
    ∃ L, Touches key x L z ∧
      (0 < left → (∀ e ∈ L, e.reply.isOk = true) → Told key desired x z) := by
  obtain ⟨L', htouches, hwritten⟩ := h
  refine ⟨L ++ L', hget.trans htouches, fun _ hok p hp => ?_⟩
  rw [hcurrent] at hp
  cases hp
  obtain ⟨q, hq, hconditions⟩ := hwritten fun e he => hok e (List.mem_append_right L he)
  exact ⟨q, hq, hconditions.trans (Condition.merged_of_eq_some hmerge).symm⟩

theorem Store.StatusWrite.touches {s s' : Store} {p : AddressPool}
    {reply : Except StoreError AddressPool} (h : StatusWrite s key p reply s') :
    s'.configMaps = s.configMaps ∧ s'.hasPoolKind = s.hasPoolKind ∧
      ∀ k, k ≠ key → s'.pools.get? k = s.pools.get? k := by
  cases h with
  | refused e => exact ⟨rfl, rfl, fun _ _ => rfl⟩
  | overtaken message _ =>
    unfold bump
    split
    · refine ⟨rfl, rfl, fun k hk => ?_⟩
      show (SortedMap.insert _ _ _).get? k = _
      rw [SortedMap.get?_insert, if_neg hk]
      rfl
    · exact ⟨rfl, rfl, fun _ _ => rfl⟩
  | written _ _ =>
    refine ⟨rfl, rfl, fun k hk => ?_⟩
    show (SortedMap.insert _ _ _).get? k = _
    rw [SortedMap.get?_insert, if_neg hk]
    rfl

/-- A status that has been written is there. -/
theorem Store.StatusWrite.conditions_of_ok {s s' : Store} {p updated : AddressPool}
    (h : StatusWrite s key p (.ok updated) s') :
    ∃ q, s'.pools.get? key = some q ∧ q.conditions = p.conditions := by
  cases h with
  | written _ _ => exact ⟨_, SortedMap.get?_insert_self _ _ _, rfl⟩

/-! ## One report -/

namespace Task

/-- A write of a status and what follows a refusal are about the pool only, if the latter is. -/
theorem touches_patchPoolStatus (hothers : others.DisturbReports) (hx : x.store.Keyed)
    {p : AddressPool} (hkey : p.metadata.HasKey key)
    {next : Except StoreError AddressPool → Task (Except OperatorError Bool)}
    (hok : ∀ updated, next (.ok updated) = done (.ok true))
    (herror : ∀ (e : StoreError) {y : Scene}, y.store.Keyed →
      ∃ L, Touches key y L ((next (.error e)).run (Scene.answer others readiness) y).2) :
    ∃ L, Touches key x L
        ((call (.patchPoolStatus p) >>= next).run (Scene.answer others readiness) x).2 ∧
      ((∀ e ∈ L, e.reply.isOk = true) → ∃ q,
        ((call (.patchPoolStatus p) >>= next).run
          (Scene.answer others readiness) x).2.store.pools.get? key = some q ∧
        q.conditions = p.conditions) := by
  obtain ⟨count, reply, s, hwrite, hstatus⟩ :=
    Scene.exists_resultOf_patchPoolStatus hothers readiness x hkey
  have hs : (x.resultOf others readiness (.patchPoolStatus p)).2.Keyed :=
    hx.changes (Scene.changes_resultOf hx _)
  obtain ⟨hconfigMaps, hkind, hpools⟩ := hstatus.touches
  rw [hwrite] at hs
  rw [run_call_bind (Scene.answer_of_resultOf hwrite)]
  generalize hread : (⟨.patchPoolStatus p, x.storeAt others (.patchPoolStatus p), reply⟩ :
    Exchange) = written
  have hpatch : Touches key x [written] ⟨s, x.log ++ [written]⟩ := by
    rw [← hread]
    exact .of_call hkey hconfigMaps hkind hpools
  rcases reply with e | updated
  · obtain ⟨L, htouches⟩ := herror e (y := ⟨s, x.log ++ [written]⟩) hs
    refine ⟨[written] ++ L, hpatch.trans htouches, fun hfine => ?_⟩
    have h := hfine written List.mem_cons_self
    rw [← hread] at h
    cases h
  · rw [hok]
    exact ⟨[written], hpatch, fun _ => hstatus.conditions_of_ok⟩

variable (readiness)

/-- **A report is about its pool only.** If none of its calls fails, the pool has been told. -/
theorem touches_reportWithin (hothers : others.DisturbReports) (key : ObjectKey)
    (desired : List Condition) (total left : Nat) :
    ∀ {x : Scene}, x.store.Keyed → ∃ L,
      Touches key x L ((reportWithin AddressPool key desired total left).run
        (Scene.answer others readiness) x).2 ∧
      (0 < left → (∀ e ∈ L, e.reply.isOk = true) →
        Told key desired x ((reportWithin AddressPool key desired total left).run
          (Scene.answer others readiness) x).2) := by
  have hfetch : Reported.fetch (α := AddressPool) key = call (.getPool key) := rfl
  have hwriteStatus (p : AddressPool) : Reported.writeStatus p = call (.patchPoolStatus p) := rfl
  induction left with
  | zero =>
    intro x _
    exact ⟨[], .refl key x, fun h => absurd h (Nat.lt_irrefl 0)⟩
  | succ left ih =>
    intro x hx
    obtain ⟨count, reply, hread, hfound⟩ := Scene.exists_resultOf_getPool hothers readiness x key
    rw [reportWithin, hfetch, run_call_bind (Scene.answer_of_resultOf hread)]
    have hget : Touches key x [⟨.getPool key, x.storeAt others (.getPool key), reply⟩]
        ⟨x.store.expecting count,
          x.log ++ [⟨.getPool key, x.storeAt others (.getPool key), reply⟩]⟩ :=
      .of_call rfl rfl rfl fun _ _ => rfl
    rcases reply with e | _ | current
    · refine ⟨_, hget, fun _ hok => ?_⟩
      cases hok _ List.mem_cons_self
    · refine ⟨_, hget, fun _ _ p hp => ?_⟩
      rw [← hfound none rfl] at hp
      cases hp
    have hcurrent : x.store.pools.get? key = some current := (hfound (some current) rfl).symm
    dsimp only
    cases hmerge : Condition.merge? (conditionsOf current) desired with
    | none =>
      refine ⟨_, hget, fun _ _ p hp => ?_⟩
      rw [hcurrent] at hp
      cases hp
      exact ⟨current, hcurrent, (Condition.merged_of_eq_none hmerge).symm⟩
    | some merged =>
      have hkey : current.metadata.HasKey key := hx.pools hcurrent
      have hkeyed : (x.store.expecting count).Keyed := ⟨hx.pools, hx.configMaps, hx.instances⟩
      dsimp only
      rw [hwriteStatus]
      refine hget.told hcurrent hmerge ?_
      refine touches_patchPoolStatus (p := withConditions current merged) hothers hkeyed hkey ?_ ?_
      · intro updated
        rfl
      · -- a refusal is followed by another attempt or by nothing
        intro e y hy
        cases e with
        | conflict detail =>
          obtain ⟨L, htouches, -⟩ := ih hy
          exact ⟨L, htouches⟩
        | _ => exact ⟨[], .refl key y⟩

/-- In quiet surroundings nothing that a report calls fails. -/
theorem isOk_reportWithin (hothers : others.Quiet) (hx : x.store.Keyed)
    (hkind : x.store.hasPoolKind = true) (hconflicts : x.store.statusConflicts = 0)
    (key : ObjectKey) (desired : List Condition) (total left : Nat) :
    ∃ L, ((reportWithin AddressPool key desired total left).run
        (Scene.answer others readiness) x).2.log = x.log ++ L ∧
      (∀ e ∈ L, e.reply.isOk = true) ∧
      ((reportWithin AddressPool key desired total left).run
        (Scene.answer others readiness) x).2.store.statusConflicts = 0 := by
  have hfetch : Reported.fetch (α := AddressPool) key = call (.getPool key) := rfl
  have hwriteStatus (p : AddressPool) : Reported.writeStatus p = call (.patchPoolStatus p) := rfl
  cases left with
  | zero => exact ⟨[], (List.append_nil _).symm, (fun _ he => nomatch he), hconflicts⟩
  | succ left =>
    have hread := Scene.resultOf_getPool_of_quiet readiness hothers hkind key
    rw [reportWithin, hfetch, run_call_bind (Scene.answer_of_resultOf hread)]
    generalize hmade : (⟨.getPool key, x.storeAt others (.getPool key),
      .ok (x.store.pools.get? key)⟩ : Exchange) = read
    have hfine : read.reply.isOk = true := by
      rw [← hmade]
      rfl
    cases hstored : x.store.pools.get? key with
    | none => exact ⟨[read], rfl, List.forall_mem_singleton.mpr hfine, hconflicts⟩
    | some current =>
      dsimp only
      cases Condition.merge? (conditionsOf current) desired with
      | none => exact ⟨[read], rfl, List.forall_mem_singleton.mpr hfine, hconflicts⟩
      | some merged =>
        obtain ⟨updated, s, hwrite, hnone⟩ := Scene.resultOf_patchPoolStatus_of_quiet readiness
          (x := ⟨x.store, x.log ++ [read]⟩) hothers hx hkind hconflicts hstored merged
        dsimp only
        rw [hwriteStatus, run_call_bind (Scene.answer_of_resultOf hwrite)]
        refine ⟨[read, ⟨.patchPoolStatus (withConditions current merged), _, .ok updated⟩],
          List.append_assoc _ _ _, ?_, hnone⟩
        exact List.forall_mem_cons.mpr ⟨hfine, List.forall_mem_singleton.mpr rfl⟩

end Task

/-! ## All reports -/

section Verdicts

variable {vs : List PoolVerdict} {attempts : Nat}

/-- A part of a run that is about the pools of some verdicts and tells each of them, unless one of
the calls about it fails. -/
structure ToldAll (ns : String) (vs : List PoolVerdict) (x : Scene) (L : List Exchange)
    (y : Scene) : Prop where
  log : y.log = x.log ++ L
  configMaps : y.store.configMaps = x.store.configMaps
  pools : ∀ key, (∀ v ∈ vs, key ≠ ⟨ns, v.name⟩) →
    y.store.pools.get? key = x.store.pools.get? key
  told : ∀ v ∈ vs, (∀ e ∈ L, e.call.IsAbout ⟨ns, v.name⟩ → e.reply.isOk = true) →
    Told ⟨ns, v.name⟩ v.conditions x y

namespace Task

variable (readiness)

/-- **A failed report concerns no other pool.** -/
theorem toldAll_reportVerdicts (hothers : others.DisturbReports) (hattempts : 0 < attempts)
    (hnames : (vs.map (·.name)).Nodup) (ns : String) :
    ∀ {x : Scene}, x.store.Keyed → ∃ L, ToldAll ns vs x L
      ((reportVerdicts attempts ns vs).run (Scene.answer others readiness) x).2 := by
  induction vs with
  | nil =>
    intro x _
    exact ⟨[], (List.append_nil _).symm, rfl, (fun _ _ => rfl), fun _ hv => nomatch hv⟩
  | cons v vs ih =>
    intro x hx
    rw [List.map_cons, List.nodup_cons] at hnames
    have hne {v' : PoolVerdict} (hv' : v' ∈ vs) : v'.name ≠ v.name := by
      intro heq
      rw [← heq] at hnames
      exact hnames.1 (List.mem_map_of_mem hv')
    obtain ⟨L, hfirst, htold⟩ := touches_reportWithin readiness hothers ⟨ns, v.name⟩
      v.conditions attempts attempts hx
    have hkeyed := Scene.keyed_run others readiness hx
      (reportWithin AddressPool ⟨ns, v.name⟩ v.conditions attempts attempts)
    rw [reportVerdicts, run_bind]
    show ∃ L, ToldAll ns (v :: vs) x L ((reportVerdicts attempts ns vs).run _ ((reportWithin
      AddressPool ⟨ns, v.name⟩ v.conditions attempts attempts).run _ x).2).2
    generalize ((reportWithin AddressPool ⟨ns, v.name⟩ v.conditions attempts attempts).run
      (Scene.answer others readiness) x).2 = y at hfirst htold hkeyed ⊢
    obtain ⟨L', hrest⟩ := ih hnames.2 hkeyed
    refine ⟨L ++ L', ?_, hrest.configMaps.trans hfirst.configMaps, ?_, ?_⟩
    · rw [hrest.log, hfirst.log, List.append_assoc]
    · intro key hkey
      rw [hrest.pools key fun v' hv' => hkey v' (List.mem_cons_of_mem v hv'),
        hfirst.pools key (hkey v List.mem_cons_self)]
    · intro v' hv' hfine p hp
      rcases List.mem_cons.mp hv' with rfl | hv'
      · -- the pool is named like none of those that are told later
        obtain ⟨q, hq, hconditions⟩ := htold hattempts
          (fun e he => hfine e (List.mem_append_left L' he) (hfirst.about e he)) p hp
        refine ⟨q, ?_, hconditions⟩
        rw [hrest.pools _ fun w hw heq => hne hw (congrArg ObjectKey.name heq).symm]
        exact hq
      · rw [← hfirst.pools _ fun heq => hne hv' (congrArg ObjectKey.name heq)] at hp
        exact hrest.told v' hv' (fun e he => hfine e (List.mem_append_right L he)) p hp

theorem isOk_reportVerdicts (hothers : others.Quiet) (attempts : Nat) (ns : String)
    (vs : List PoolVerdict) :
    ∀ {x : Scene}, x.store.Keyed → x.store.hasPoolKind = true → x.store.statusConflicts = 0 →
      ∃ L, ((reportVerdicts attempts ns vs).run (Scene.answer others readiness) x).2.log =
          x.log ++ L ∧ ∀ e ∈ L, e.reply.isOk = true := by
  induction vs with
  | nil =>
    intro x _ _ _
    exact ⟨[], (List.append_nil _).symm, fun _ he => nomatch he⟩
  | cons v vs ih =>
    intro x hx hkind hconflicts
    obtain ⟨L, hlog, hfine, hconflicts'⟩ := isOk_reportWithin readiness hothers hx
      hkind hconflicts ⟨ns, v.name⟩ v.conditions attempts attempts
    obtain ⟨_, hfirst, -⟩ := touches_reportWithin readiness hothers.disturbReports
      ⟨ns, v.name⟩ v.conditions attempts attempts hx
    have hkeyed := Scene.keyed_run others readiness hx
      (reportWithin AddressPool ⟨ns, v.name⟩ v.conditions attempts attempts)
    rw [reportVerdicts, run_bind]
    obtain ⟨L', hlog', hfine'⟩ := ih hkeyed (hfirst.hasPoolKind.trans hkind) hconflicts'
    refine ⟨L ++ L', ?_, ?_⟩
    · rw [← List.append_assoc, ← hlog]
      exact hlog'
    · intro e he
      exact (List.mem_append.mp he).elim (hfine e) (hfine' e)

end Task

end Verdicts

end Scenes

/-! ## Calm surroundings -/

section Calm

variable {order : List AddressPool → List AddressPool}
  {readiness : Except OperatorError Readiness}

open Store (serve)

/-- A store alone serves a task as it would in a scene in which nothing happens. -/
theorem Task.run_serve_eq {α : Type} (t : Task α) (order : List AddressPool → List AddressPool)
    (readiness : Except OperatorError Readiness) (x : Scene) :
    t.run (serve order readiness) x.store =
      ((t.run (Scene.answer (fun _ _ => { order := order }) readiness) x).1,
        (t.run (Scene.answer (fun _ _ => { order := order }) readiness) x).2.store) := by
  refine t.only_true.run_view Scene.store ?_ x
  intro request y _
  cases request <;> rfl

/-- When nobody interferes, every pool is told its verdict. -/
theorem Task.told_run_reportVerdicts (horder : ∀ pools, (order pools).Perm pools)
    (readiness : Except OperatorError Readiness) {s : Store} (hs : s.Keyed)
    (hkind : s.hasPoolKind = true) (hconflicts : s.statusConflicts = 0) {attempts : Nat}
    (hattempts : 0 < attempts) {ns : String} {vs : List PoolVerdict}
    (hnames : (vs.map (·.name)).Nodup) {v : PoolVerdict} (hv : v ∈ vs) {p : AddressPool}
    (hp : s.pools.get? ⟨ns, v.name⟩ = some p) :
    ∃ q, ((reportVerdicts attempts ns vs).run (serve order readiness) s).2.pools.get?
        ⟨ns, v.name⟩ = some q ∧ q.conditions = Condition.merged p.conditions v.conditions := by
  have hquiet : Surroundings.Quiet fun _ _ => { order := order } :=
    ⟨fun _ _ => rfl, fun _ _ => rfl, fun _ _ => horder⟩
  obtain ⟨L, htold⟩ := toldAll_reportVerdicts readiness hquiet.disturbReports hattempts hnames ns
    (x := ⟨s, []⟩) hs
  obtain ⟨M, hlog, hfine⟩ := isOk_reportVerdicts readiness hquiet attempts ns vs (x := ⟨s, []⟩) hs
    hkind hconflicts
  obtain rfl : L = M := List.append_cancel_left (htold.log.symm.trans hlog)
  have hserve := run_serve_eq (reportVerdicts attempts ns vs) order readiness ⟨s, []⟩
  rw [show s = (⟨s, []⟩ : Scene).store from rfl, hserve]
  exact htold.told v hv (fun e he _ => hfine e he) p hp

/-- After the verdicts on different pools have been reported all of them hold. -/
theorem Task.isReported_run_reportVerdicts (horder : ∀ pools, (order pools).Perm pools)
    (readiness : Except OperatorError Readiness) {s : Store} (hs : s.Keyed)
    (hkind : s.hasPoolKind = true) (hconflicts : s.statusConflicts = 0) {attempts : Nat}
    (hattempts : 0 < attempts) {ns : String} {vs : List PoolVerdict}
    (hnames : (vs.map (·.name)).Nodup) (htypes : ∀ v ∈ vs, (v.conditions.map (·.type)).Nodup) :
    ∀ v ∈ vs,
      v.IsReported ((reportVerdicts attempts ns vs).run (serve order readiness) s).2 ns := by
  intro v hv q hq
  -- reports create no pools
  have hbare := (statusOnly_run (isAside_reportVerdicts attempts ns vs) order readiness s).pools
    ⟨ns, v.name⟩
  rw [hq] at hbare
  obtain ⟨p, hp, -⟩ := Option.map_eq_some_iff.mp hbare.symm
  obtain ⟨q', hq', hconditions⟩ :=
    told_run_reportVerdicts horder readiness hs hkind hconflicts hattempts hnames hv hp
  rw [hq] at hq'
  cases hq'
  rw [hconditions]
  exact Condition.holds_merge? (htypes v hv) p.conditions

end Calm

end PoolOperator
