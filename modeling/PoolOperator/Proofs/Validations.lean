import Mathlib.Data.List.Infix
import PoolOperator.Proofs.Reconcile.Validate

/-!
# Validations of one store

Any number of validations share a store with users. At every request somebody else may come first.
At any time each instance has no status, or one that records a state in full; what has been found to
have a wrong name is not written to any more.
-/

namespace PoolOperator

/-- A validation that has got somewhere. -/
abbrev Validation := Task (Except OperatorError (Option IdentityState))

/-- A store and the validations that share it, in the order in which they have been started. -/
structure Validations where
  store : Store
  tasks : List Validation := []

namespace Validations

/-- One step: a change from outside, the start of a validation, or the next request of the
validation with a number. -/
inductive Step where
  | edit (e : StoreEdit)
  | start (now : String) (attempts : Nat) (key : ObjectKey)
  | request (n : Nat) (fate : Fate) (readiness : Except OperatorError Readiness)

/-- Whether a step sets the status of no instance, unless a validation asks for it. -/
def Step.IsPlain : Step → Prop
  | .edit e => e.SetsNoStatus
  | .start .. | .request .. => True

/-- A request of the validation with a number is answered. -/
def answer (v : Validations) (n : Nat) (fate : Fate) (readiness : Except OperatorError Readiness)
    (request : Request) (next : request.Reply → Validation) : Validations where
  store := (v.store.reply fate readiness request).2
  tasks := v.tasks.set n (next (v.store.reply fate readiness request).1)

/-- Validations after a step. One that is done makes no more requests. -/
def step (v : Validations) : Step → Validations
  | .edit e => { v with store := v.store.edit e }
  | .start now attempts key => { v with tasks := v.tasks ++ [.validate now attempts key] }
  | .request n fate readiness =>
    match v.tasks[n]? with
    | some (.ask request next) => v.answer n fate readiness request next
    | _ => v

/-- One step after another. -/
def run (v : Validations) (steps : List Step) : Validations := steps.foldl step v

variable {v : Validations} {key : ObjectKey} {i : Instance}

theorem step_request (v : Validations) (n : Nat) (fate : Fate)
    (readiness : Except OperatorError Readiness) :
    v.step (.request n fate readiness) = v ∨ ∃ request next,
      v.tasks[n]? = some (.ask request next) ∧
        v.step (.request n fate readiness) = v.answer n fate readiness request next := by
  unfold step
  dsimp only
  split
  · rename_i request next htask
    exact .inr ⟨request, next, htask, rfl⟩
  · exact .inl rfl

/-! ## What all steps keep -/

/-- A proper store with validations that ask for what is fit only. -/
structure IsSound (v : Validations) : Prop where
  store : v.store.IsProper
  tasks : ∀ t ∈ v.tasks, ∃ key, t.Fits (Request.IsFit key) Store.IsProper v.store

theorem IsSound.answer (hv : v.IsSound) {n : Nat} {request : Request}
    {next : request.Reply → Validation} (htask : v.tasks[n]? = some (.ask request next))
    (fate : Fate) (readiness : Except OperatorError Readiness) :
    (v.answer n fate readiness request next).IsSound := by
  obtain ⟨key, hfits⟩ := hv.tasks _ (List.mem_of_getElem? htask)
  obtain ⟨hfit, hnext⟩ := hfits v.store .refl hv.store
  refine ⟨hfit.isProper fate readiness hv.store, ?_⟩
  intro t ht
  rcases List.mem_or_eq_of_mem_set ht with hold | heq
  · obtain ⟨key', hfits'⟩ := hv.tasks t hold
    exact ⟨key', hfits'.later
      (Store.changes_reply fate readiness hv.store.reachable.keyed request)⟩
  · rw [heq]
    exact ⟨key, hnext fate readiness⟩

theorem IsSound.step (hv : v.IsSound) {step : Step} (hplain : step.IsPlain) :
    (v.step step).IsSound := by
  cases step with
  | edit e =>
    refine ⟨hv.store.edit hplain, ?_⟩
    intro t ht
    obtain ⟨key, hfits⟩ := hv.tasks t ht
    exact ⟨key, hfits.later (Store.changes_edit hv.store.reachable.keyed e)⟩
  | start now attempts key =>
    refine ⟨hv.store, ?_⟩
    intro t ht
    rcases List.mem_append.mp ht with hold | hnew
    · exact hv.tasks t hold
    · rw [List.mem_singleton.mp hnew]
      exact ⟨key, Task.fits_validate now attempts key v.store⟩
  | request n fate readiness =>
    rcases step_request v n fate readiness with heq | ⟨request, next, htask, heq⟩
    · rw [heq]
      exact hv
    · rw [heq]
      exact hv.answer htask fate readiness

theorem IsSound.run {steps : List Step} (hplain : ∀ step ∈ steps, step.IsPlain) :
    ∀ {v : Validations}, v.IsSound → (v.run steps).IsSound := by
  induction steps with
  | nil =>
    intro v hv
    exact hv
  | cons step steps ih =>
    intro v hv
    obtain ⟨hstep, hsteps⟩ := List.forall_mem_cons.mp hplain
    exact ih hsteps (hv.step hstep)

/-! ## What is kept once an instance has been judged -/

/-- Whether an instance is still stored, but for its version, and will not be written to by any
validation from a number on. -/
structure Spares (v : Validations) (key : ObjectKey) (i : Instance) (n : Nat) : Prop where
  stored : ∃ j, v.store.instances.get? key = some j ∧ i.SameButVersion j
  tasks : ∀ k t, n ≤ k → v.tasks[k]? = some t →
    t.Fits (fun request _ => ¬request.IsWriteTo key) (Store.IsJudged key) v.store

variable {n : Nat}

theorem Spares.isJudged (h : v.Spares key i n) (hv : v.IsSound) (hstatus : i.status ≠ none) :
    v.store.IsJudged key := by
  obtain ⟨j, hj, hsame⟩ := h.stored
  refine ⟨hv.store, j, hj, ?_⟩
  rw [hsame.status]
  exact hstatus

theorem Spares.answer (h : v.Spares key i n) (hv : v.IsSound)
    (hname : key.name ≠ Instance.canonicalName) (hstatus : i.status ≠ none) {m : Nat}
    {request : Request} {next : request.Reply → Validation}
    (htask : v.tasks[m]? = some (.ask request next)) (fate : Fate)
    (readiness : Except OperatorError Readiness) :
    (v.answer m fate readiness request next).Spares key i n := by
  have hjudged := h.isJudged hv hstatus
  constructor
  · obtain ⟨key', hfits⟩ := hv.tasks _ (List.mem_of_getElem? htask)
    obtain ⟨hfit, -⟩ := hfits v.store .refl hv.store
    obtain ⟨j, hj, hsame⟩ := h.stored
    have hjstatus : j.status ≠ none := by
      rw [hsame.status]
      exact hstatus
    obtain ⟨j', hj', hsame'⟩ := hfit.spares fate readiness hname hj hjstatus
    exact ⟨j', hj', hsame.trans hsame'⟩
  · intro k t hk ht
    change (v.tasks.set m _)[k]? = some t at ht
    rw [List.getElem?_set] at ht
    by_cases hmk : m = k
    · rw [if_pos hmk] at ht
      split at ht
      · cases ht
        rw [hmk] at htask
        exact (h.tasks k _ hk htask v.store .refl hjudged).2 fate readiness
      · cases ht
    · rw [if_neg hmk] at ht
      exact (h.tasks k t hk ht).later
        (Store.changes_reply fate readiness hv.store.reachable.keyed request)

theorem Spares.step (h : v.Spares key i n) (hv : v.IsSound)
    (hname : key.name ≠ Instance.canonicalName) (hstatus : i.status ≠ none) {step : Step}
    (hplain : step.IsPlain) (hstill : (v.step step).store.instances.get? key ≠ none) :
    (v.step step).Spares key i n := by
  cases step with
  | edit e =>
    obtain ⟨j, hj, hsame⟩ := h.stored
    constructor
    · obtain ⟨j', hj'⟩ := Option.ne_none_iff_exists'.mp hstill
      rcases Store.bareComers_edit hplain v.store key j' hj' with hold | ⟨hnone, -⟩
      · rw [hj] at hold
        cases hold
        exact ⟨j, hj', hsame⟩
      · rw [hj] at hnone
        cases hnone
    · intro k t hk ht
      exact (h.tasks k t hk ht).later (Store.changes_edit hv.store.reachable.keyed e)
  | start now attempts key' =>
    refine ⟨h.stored, ?_⟩
    intro k t hk ht
    change (v.tasks ++ [Task.validate now attempts key'])[k]? = some t at ht
    by_cases hold : k < v.tasks.length
    · rw [List.getElem?_append_left hold] at ht
      exact h.tasks k t hk ht
    · rw [List.getElem?_append_right (by omega)] at ht
      rw [List.mem_singleton.mp (List.mem_of_getElem? ht)]
      exact Task.spares_validate hname now attempts key' v.store
  | request m fate readiness =>
    rcases step_request v m fate readiness with heq | ⟨request, next, htask, heq⟩
    · rw [heq]
      exact h
    · rw [heq]
      exact h.answer hv hname hstatus htask fate readiness

theorem Spares.run (hname : key.name ≠ Instance.canonicalName) (hstatus : i.status ≠ none)
    {steps : List Step} (hplain : ∀ step ∈ steps, step.IsPlain) :
    ∀ {v : Validations}, v.Spares key i n → v.IsSound →
      (∀ before, before <+: steps → (v.run before).store.instances.get? key ≠ none) →
      (v.run steps).Spares key i n := by
  induction steps with
  | nil =>
    intro v h _ _
    exact h
  | cons step steps ih =>
    intro v h hv hstill
    obtain ⟨hstep, hsteps⟩ := List.forall_mem_cons.mp hplain
    have hfirst : (v.step step).store.instances.get? key ≠ none :=
      hstill [step] (List.prefix_cons_inj step |>.mpr (List.nil_prefix))
    refine ih hsteps (h.step hv hname hstatus hstep hfirst) (hv.step hstep) ?_
    intro before hbefore
    exact hstill (step :: before) ((List.prefix_cons_inj step).mpr hbefore)

/-! ## States of instances -/

/-- **The table of states.** Whatever happens to a store without instances, validations that take
turns leave every instance without a status or with a whole row of conditions: the degraded one just
if the name is wrong. Once such an instance has it, nothing but its version is changed as long as it
is stored, and no validation that starts later asks for a change of it. -/
theorem state_table {s : Store} (hs : s.Reachable) (hempty : s.instances = ∅) {steps : List Step}
    (hplain : ∀ step ∈ steps, step.IsPlain) :
    let v := (⟨s, []⟩ : Validations).run steps
    ∀ key i, v.store.instances.get? key = some i →
      i.metadata.name = some key.name ∧
      (i.status = none ∨ ∃ status state, i.status = some status ∧
        Condition.row status.conditions = state.row ∧
        IdentityState.ofConditions status.conditions = state ∧
        (state = .degraded ↔ key.name ≠ Instance.canonicalName)) ∧
      (key.name ≠ Instance.canonicalName → i.status ≠ none →
        ∀ later : List Step, (∀ step ∈ later, step.IsPlain) →
          (∀ before, before <+: later → (v.run before).store.instances.get? key ≠ none) →
          (∃ j, (v.run later).store.instances.get? key = some j ∧ i.SameButVersion j) ∧
            ∀ n request next, v.tasks.length ≤ n →
              (v.run later).tasks[n]? = some (.ask request next) → ¬request.IsWriteTo key) := by
  intro v key i hi
  have hstart : (⟨s, []⟩ : Validations).IsSound :=
    ⟨Store.isProper_of_isEmpty hs hempty, fun _ ht => nomatch ht⟩
  have hv : v.IsSound := hstart.run hplain
  refine ⟨(hv.store.reachable.keyed.instances hi).2, ?_, ?_⟩
  · cases hstatus : i.status with
    | none => exact .inl rfl
    | some status =>
      obtain ⟨state, hrow, hstate⟩ := (hv.store.instances hi status hstatus).exists_row
      exact .inr ⟨status, state, rfl, hrow, IdentityState.ofConditions_of_row hrow, hstate⟩
  · intro hname hstatus later hlater hstill
    have hspares : v.Spares key i v.tasks.length := by
      refine ⟨⟨i, hi, .refl i⟩, ?_⟩
      intro k t hk ht
      rw [List.getElem?_eq_none hk] at ht
      cases ht
    have hend := hspares.run hname hstatus hlater hv hstill
    refine ⟨hend.stored, ?_⟩
    intro n request next hn htask
    exact (hend.tasks n _ hn htask (v.run later).store .refl
      (hend.isJudged (hv.run hlater) hstatus)).1

/-- An instance without a status. -/
def bareInstance (name : String) : Instance where
  metadata := { name := some name, ns := some "x" }
  spec := {}

/-- Two validations of an instance with a wrong name, both of which find it without a status, and
one of the canonical instance. The first one meets a conflict and writes nevertheless. -/
def crossing : List Step :=
  [.edit (.call (.createInstance (bareInstance "spare"))),
    .edit (.addInstance (bareInstance "metallb")),
    .start "1" 2 ⟨"x", "spare"⟩, .start "2" 2 ⟨"x", "spare"⟩, .start "3" 1 ⟨"x", "metallb"⟩,
    .request 0 .answered (.ok .ready), .request 0 .answered (.ok .ready),
    .request 1 .answered (.ok .ready), .request 1 .answered (.ok .ready),
    .edit (.orderStatusConflicts 1)] ++
  List.replicate 3 (.request 0 .answered (.ok .ready)) ++
  List.replicate 4 (.request 2 .answered (.ok (.notReady "soon")))

/-- The second validation of the instance comes too late, and another one starts. -/
def afterwards : List Step :=
  [.request 1 .answered (.ok .ready), .edit (.call (.deleteInstance ⟨"x", "metallb"⟩)),
    .request 1 .answered (.ok .ready), .start "4" 1 ⟨"x", "spare"⟩,
    .edit (.orderStatusConflicts 1), .request 3 .answered (.ok .ready)]

theorem state_table_crossing :
    let v := (⟨{}, []⟩ : Validations).run crossing
    (∃ i status, v.store.instances.get? ⟨"x", "metallb"⟩ = some i ∧ i.status = some status ∧
      Condition.row status.conditions = IdentityState.pending.row) ∧
    ∃ i j, v.store.instances.get? ⟨"x", "spare"⟩ = some i ∧ i.status ≠ none ∧
      (v.run afterwards).store.instances.get? ⟨"x", "spare"⟩ = some j ∧ i.SameButVersion j := by
  intro v
  have hplain : ∀ step ∈ crossing, step.IsPlain := by
    simp [crossing, Step.IsPlain, StoreEdit.SetsNoStatus, bareInstance]
  have hlater : ∀ step ∈ afterwards, step.IsPlain := by
    simp [afterwards, Step.IsPlain, StoreEdit.SetsNoStatus]
  have hstill : ∀ before ∈ afterwards.inits,
      (v.run before).store.instances.get? ⟨"x", "spare"⟩ ≠ none := by
    decide +kernel
  obtain ⟨hpending, hjudged⟩ :
      (v.store.instances.get? ⟨"x", "metallb"⟩).any (fun i => i.status.isSome &&
          IdentityState.ofConditions i.conditions == .pending) = true ∧
        (v.store.instances.get? ⟨"x", "spare"⟩).any (fun i => i.status.isSome) = true := by
    decide +kernel
  have htable := state_table ⟨[], rfl⟩ rfl hplain
  constructor
  · obtain ⟨i, hi, hi'⟩ := (Option.any_eq_true _ _).mp hpending
    obtain ⟨-, hnone | ⟨status, state, hsome, hrow, hstate, -⟩, -⟩ := htable _ i hi
    · rw [hnone] at hi'
      cases hi'
    · have hconditions : i.conditions = status.conditions := by
        rw [Instance.conditions, hsome]
      rw [hconditions, hstate, hsome] at hi'
      have hpending : state = .pending := by simpa using hi'
      rw [hpending] at hrow
      exact ⟨i, status, hi, hsome, hrow⟩
  · obtain ⟨i, hi, hsome⟩ := (Option.any_eq_true _ _).mp hjudged
    have hstatus : i.status ≠ none := Option.isSome_iff_ne_none.mp hsome
    obtain ⟨-, -, hspared⟩ := htable _ i hi
    obtain ⟨⟨j, hj, hsame⟩, -⟩ := hspared (by decide) hstatus afterwards hlater
      fun before hbefore => hstill before (List.mem_inits _ _ |>.mpr hbefore)
    exact ⟨i, j, hi, hstatus, hj, hsame⟩

end Validations

end PoolOperator
