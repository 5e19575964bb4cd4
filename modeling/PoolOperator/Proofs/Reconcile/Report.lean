import PoolOperator.Proofs.Artifact.Merge
import PoolOperator.Proofs.Condition
import PoolOperator.Proofs.Reconcile.Serve

/-!
# Reporting verdicts

Verdicts are written to the statuses of pools and to nothing else. Once a verdict has been reported
it holds, and then it is not written again, at whatever time it is reported.
-/

namespace PoolOperator

open Store (serve)

/-! ## What a report may change -/

/-- A pool without its version and its status. -/
def AddressPool.bare (p : AddressPool) : AddressPool :=
  { p with metadata := { p.metadata with resourceVersion := none }, status := none }

/-- Whether two stores differ in the versions and statuses of pools only, and in what is counted and
logged. -/
structure Store.StatusOnly (s s' : Store) : Prop where
  configMaps : s'.configMaps = s.configMaps
  pools : ∀ key, (s'.pools.get? key).map AddressPool.bare = (s.pools.get? key).map AddressPool.bare
  hasPoolKind : s'.hasPoolKind = s.hasPoolKind
  configMapConflicts : s'.configMapConflicts = s.configMapConflicts
  statusConflicts : s'.statusConflicts ≤ s.statusConflicts

namespace Store

theorem StatusOnly.refl (s : Store) : s.StatusOnly s := ⟨rfl, fun _ => rfl, rfl, rfl, Nat.le_refl _⟩

theorem StatusOnly.trans {s s' s'' : Store} (h : s.StatusOnly s') (h' : s'.StatusOnly s'') :
    s.StatusOnly s'' :=
  ⟨h'.configMaps.trans h.configMaps, fun key => (h'.pools key).trans (h.pools key),
    h'.hasPoolKind.trans h.hasPoolKind, h'.configMapConflicts.trans h.configMapConflicts,
    Nat.le_trans h'.statusConflicts h.statusConflicts⟩

theorem StatusOnly.put {s : Store} {key : ObjectKey} {p stored : AddressPool}
    (hstored : s.pools.get? key = some stored) (hbare : p.bare = stored.bare) :
    s.StatusOnly (s.put key p) := by
  refine ⟨rfl, ?_, rfl, rfl, Nat.le_refl _⟩
  intro key'
  show ((s.pools.insert key p).get? key').map _ = _
  rw [SortedMap.get?_insert]
  by_cases h : key' = key
  · rw [if_pos h, h, hstored, Option.map_some, Option.map_some, hbare]
  · rw [if_neg h]

theorem statusOnly_bump (s : Store) (key : ObjectKey) : s.StatusOnly (s.bump AddressPool key) := by
  unfold bump
  split
  · rename_i p hp
    exact .put hp rfl
  · exact .refl s

/-- A status is written to one pool and to nothing else, whether this succeeds or not. -/
theorem statusOnly_patchStatus (s : Store) (p : AddressPool) : s.StatusOnly (s.patchStatus p).2 := by
  unfold patchStatus
  refine guarded_snd (.refl s) fun _ _ => guarded_snd (.refl s) fun key _ =>
    guarded_snd (.refl s) fun stored hstored => ?_
  split
  · have hless : s.StatusOnly { s with statusConflicts := s.statusConflicts - 1 } :=
      ⟨rfl, fun _ => rfl, rfl, rfl, Nat.sub_le _ _⟩
    exact hless.trans (statusOnly_bump _ key)
  · refine guarded_snd (.refl s) fun _ _ => ?_
    have hput : s.StatusOnly (s.put key (withVersion (Watched.withStatus stored p.status)
      s.nextVersion)) := .put (find_eq_ok.mp hstored) rfl
    exact ⟨hput.configMaps, hput.pools, hput.hasPoolKind, hput.configMapConflicts,
      hput.statusConflicts⟩

end Store

/-! ## What reports ask for -/

/-- The requests that leave artifacts aside: those about a single pool, and counts. -/
def Request.IsAside : Request → Prop
  | .store (.getPool _) | .store (.patchPoolStatus _) | .countWrite _ => True
  | _ => False

theorem Store.statusOnly_serve {order : List AddressPool → List AddressPool}
    {readiness : Except OperatorError Readiness} {request : Request} (h : request.IsAside)
    (s : Store) : s.StatusOnly (s.serve order readiness request).2 := by
  rcases request with call | object | operation
  · cases call with
    | getPool key => exact .refl s
    | patchPoolStatus pool => exact s.statusOnly_patchStatus pool
    | _ => exact h.elim
  · exact h.elim
  · exact .refl s

namespace Task

/-- A report asks for what fetching and writing a status ask for. -/
theorem only_reportWithin {α : Type} [Reported α] {P : Request → Prop} {key : ObjectKey}
    (hfetch : (Reported.fetch (α := α) key).Only P)
    (hwrite : ∀ x : α, (Reported.writeStatus x).Only P) (desired : List Condition) (total left : Nat) :
    (reportWithin α key desired total left).Only P := by
  induction left with
  | zero => exact trivial
  | succ left ih =>
    refine hfetch.bind fun reply => ?_
    rcases reply with e | _ | current
    · exact trivial
    · exact trivial
    · dsimp only
      split
      · exact trivial
      · refine (hwrite _).bind fun reply => ?_
        split
        · exact trivial
        · exact ih
        · exact trivial
        · exact trivial

theorem only_reportVerdicts {P : Request → Prop} (hfetch : ∀ key, P (.store (.getPool key)))
    (hwrite : ∀ p, P (.store (.patchPoolStatus p))) (attempts : Nat) (ns : String)
    (vs : List PoolVerdict) : (reportVerdicts attempts ns vs).Only P := by
  induction vs with
  | nil => exact trivial
  | cons v vs ih =>
    have hreport : (report AddressPool attempts ⟨ns, v.name⟩ v.conditions).Only P :=
      only_reportWithin (only_call (hfetch _)) (fun p => only_call (hwrite p)) _ _ _
    exact hreport.bind fun _ => ih

theorem isAside_reportVerdicts (attempts : Nat) (ns : String) (vs : List PoolVerdict) :
    (reportVerdicts attempts ns vs).Only Request.IsAside :=
  only_reportVerdicts (fun _ => trivial) (fun _ => trivial) attempts ns vs

/-- Reporting changes versions and statuses of pools only. -/
theorem statusOnly_run {α : Type} {t : Task α} (h : t.Only Request.IsAside)
    (order : List AddressPool → List AddressPool) (readiness : Except OperatorError Readiness)
    (s : Store) : s.StatusOnly (t.run (serve order readiness) s).2 :=
  h.run (fun _ s' hrequest hs' => hs'.trans (s'.statusOnly_serve hrequest)) (.refl s)

end Task

/-! ## One report -/

section Report

variable {order : List AddressPool → List AddressPool}
  {readiness : Except OperatorError Readiness} {s : Store} {key : ObjectKey} {p : AddressPool}
  {desired merged : List Condition}

theorem Store.checkKind_pool (hkind : s.hasPoolKind = true) :
    checkKind AddressPool s = .ok () := by
  show (if s.hasPoolKind = true then _ else _) = _
  rw [if_pos hkind]

theorem Store.serve_getPool (hkind : s.hasPoolKind = true) (key : ObjectKey) :
    s.serve order readiness (.store (.getPool key)) = (.ok (s.pools.get? key), s) := by
  show ((checkKind AddressPool s).bind fun _ => .ok (s.pools.get? key), s) = _
  rw [checkKind_pool hkind]
  rfl

/-- A status is written in the version that is stored. -/
theorem Store.patchStatus_eq_ok (hs : s.Keyed) (hkind : s.hasPoolKind = true)
    (hconflicts : s.statusConflicts = 0) (hstored : s.pools.get? key = some p)
    (status : Option Status) :
    ∃ updated s', s.patchStatus { p with status := status } = (.ok updated, s') ∧
      updated.status = status ∧ s'.pools = s.pools.insert key updated := by
  have hmetadata : p.metadata.HasKey key := hs.pools hstored
  have hkey : keyOf { p with status := status } = .ok key := keyOf_eq_ok.mpr hmetadata
  have hfind : s.find (α := AddressPool) key = .ok p := find_eq_ok.mpr hstored
  have hcheck : checkVersion key p p.metadata.resourceVersion = .ok () := checkVersion_self key p
  unfold patchStatus
  rw [checkKind_pool hkind, hkey]
  show ∃ updated s', guarded s (s.find key) _ = _ ∧ _
  rw [hfind]
  show ∃ updated s', (if 0 < s.statusConflicts then _ else guarded s (checkVersion key p
    p.metadata.resourceVersion) _) = _ ∧ _
  rw [hconflicts, if_neg (Nat.lt_irrefl 0), hcheck]
  exact ⟨_, _, rfl, rfl, rfl⟩

namespace Task

theorem run_report_of_free (hkind : s.hasPoolKind = true) (hfree : s.pools.get? key = none)
    (attempts : Nat) (desired : List Condition) :
    ((report AddressPool attempts key desired).run (serve order readiness) s).2 = s := by
  cases attempts with
  | zero => rfl
  | succ left =>
    rw [report, reportWithin]
    show ((call (.getPool key) >>= _).run _ _).2 = s
    rw [run_call_bind (Store.serve_getPool hkind key), hfree]
    rfl

theorem run_report_of_merged (hkind : s.hasPoolKind = true) (hstored : s.pools.get? key = some p)
    (hmerge : Condition.merge? p.conditions desired = none) (attempts : Nat) :
    ((report AddressPool attempts key desired).run (serve order readiness) s).2 = s := by
  cases attempts with
  | zero => rfl
  | succ left =>
    rw [report, reportWithin]
    show ((call (.getPool key) >>= _).run _ _).2 = s
    have hmerge' : Condition.merge? (conditionsOf p) desired = none := hmerge
    rw [run_call_bind (Store.serve_getPool hkind key), hstored]
    dsimp only
    rw [hmerge']
    rfl

end Task

end Report

/-! ## Verdicts that hold -/

/-- Whether a pool, if it is there, has the conditions of a verdict already. -/
def PoolVerdict.IsReported (v : PoolVerdict) (s : Store) (ns : String) : Prop :=
  ∀ p, s.pools.get? ⟨ns, v.name⟩ = some p → ∀ c ∈ v.conditions, Condition.Holds c p.conditions

section Verdicts

variable {order : List AddressPool → List AddressPool}
  {readiness : Except OperatorError Readiness} {s : Store} {ns : String} {v v' : PoolVerdict}
  {vs : List PoolVerdict} {attempts : Nat}

namespace Task

/-- A verdict that holds is not written. -/
theorem run_report_of_isReported (hkind : s.hasPoolKind = true) (h : v.IsReported s ns)
    (attempts : Nat) :
    ((report AddressPool attempts ⟨ns, v.name⟩ v.conditions).run (serve order readiness) s).2 =
      s := by
  cases hget : s.pools.get? ⟨ns, v.name⟩ with
  | none => exact run_report_of_free hkind hget attempts v.conditions
  | some p =>
    exact run_report_of_merged hkind hget (Condition.merge?_eq_none_of_holds (h p hget)) attempts

theorem run_reportVerdicts_of_isReported (hkind : s.hasPoolKind = true)
    (h : ∀ v ∈ vs, v.IsReported s ns) (attempts : Nat) :
    ((reportVerdicts attempts ns vs).run (serve order readiness) s).2 = s := by
  induction vs with
  | nil => rfl
  | cons v vs ih =>
    rw [reportVerdicts, run_bind, run_report_of_isReported hkind (h v List.mem_cons_self)]
    exact ih fun v' hv' => h v' (List.mem_cons_of_mem v hv')

end Task

end Verdicts

end PoolOperator
