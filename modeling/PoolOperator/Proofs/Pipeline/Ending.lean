import Mathlib.Data.List.Perm.Basic
import PoolOperator.Operator
import PoolOperator.Pipeline.Result
import PoolOperator.Proofs.SortedMap

/-!
# How pipelines end

A pipeline ends with the error of its first result that no repetition can mend, or for want of
results. Only then does it note anything, and only under its own name. So it makes no difference in
which order pipelines end, and those that have ended are those that something is noted of.
-/

namespace PoolOperator

/-! ## Results that end a pipeline -/

namespace PipelineResult

/-- The results that end a pipeline, and the errors that they end it with: a turn that has failed
for good, and the first list of objects of a kind that is not there. -/
inductive Ends : PipelineResult → OperatorError → Prop where
  | failed {e : OperatorError} (h : e.isFatal = true) : Ends (.failed e) e
  | unregistered {e : Api.ApiError} (h : e.code = 404) :
      Ends (.interrupted (.initialList (.api e)))
        (.store (.kindNotRegistered (Api.WatchFailure.initialList (.api e)).message))

variable {r : PipelineResult} {e : OperatorError}

theorem fatal?_eq_some_iff : r.fatal? = some e ↔ r.Ends e := by
  constructor
  · intro h
    unfold fatal? at h
    split at h
    · obtain ⟨hfatal, heq⟩ := Option.ite_none_right_eq_some.mp h
      cases heq
      exact .failed hfatal
    · rename_i failure
      obtain ⟨hcode, heq⟩ := Option.ite_none_right_eq_some.mp h
      cases heq
      -- of all failures of a watch only the first list has a code that counts
      rcases failure with (failure | _) | _ | _ | _ | _
      · exact .unregistered (eq_of_beq hcode)
      all_goals cases hcode
    all_goals cases h
  · intro h
    cases h with
    | failed hfatal => rw [fatal?, if_pos hfatal]
    | unregistered hcode => exact if_pos (beq_iff_eq.mpr hcode)

theorem fatal?_eq_none_iff : r.fatal? = none ↔ ∀ e, ¬r.Ends e := by
  rw [Option.eq_none_iff_forall_ne_some]
  simp only [ne_eq, fatal?_eq_some_iff]

end PipelineResult

/-! ## One pipeline -/

section One

variable {pipeline : String} {rs : List PipelineResult} {e : OperatorError}

/-- The error that a pipeline ends with. -/
def endOf (pipeline : String) (rs : List PipelineResult) : OperatorError :=
  (rs.findSome? PipelineResult.fatal?).getD (streamEnded pipeline)

/-- Whatever has been noted before, a pipeline notes its error and nothing else. -/
theorem supervise_eq (pipeline : String) (rs : List PipelineResult) (h : Health) :
    supervise pipeline rs h = (endOf pipeline rs, h.stop pipeline (endOf pipeline rs)) := by
  induction rs with
  | nil => rfl
  | cons r rs ih =>
    rw [supervise, endOf, List.findSome?_cons]
    cases r.fatal? with
    | some e => rfl
    | none => exact ih

/-- The first result that ends a pipeline is the one that counts. -/
theorem endOf_append_cons {before later : List PipelineResult} {r : PipelineResult}
    (hbefore : ∀ r ∈ before, ∀ e, ¬r.Ends e) (hr : r.Ends e) :
    endOf pipeline (before ++ r :: later) = e := by
  have hnone : before.findSome? PipelineResult.fatal? = none :=
    List.findSome?_eq_none_iff.mpr fun r hr =>
      PipelineResult.fatal?_eq_none_iff.mpr (hbefore r hr)
  rw [endOf, List.findSome?_append, hnone, Option.none_or, List.findSome?_cons,
    PipelineResult.fatal?_eq_some_iff.mpr hr]
  rfl

theorem endOf_of_forall (h : ∀ r ∈ rs, ∀ e, ¬r.Ends e) :
    endOf pipeline rs = streamEnded pipeline := by
  have hnone : rs.findSome? PipelineResult.fatal? = none :=
    List.findSome?_eq_none_iff.mpr fun r hr => PipelineResult.fatal?_eq_none_iff.mpr (h r hr)
  rw [endOf, hnone]
  rfl

theorem get?_stop (h : Health) (pipeline : String) (e : OperatorError) (name : String) :
    (h.stop pipeline e).failures.get? name =
      if name = pipeline then some e.message else h.failures.get? name :=
  SortedMap.get?_insert h.failures pipeline name e.message

end One

/-! ## Several pipelines -/

/-- The health after some pipelines have ended, one after the other. -/
def Health.after (h : Health) (ended : List (String × List PipelineResult)) : Health :=
  ended.foldl (fun h run => (supervise run.1 run.2 h).2) h

section Several

variable {ended ended' : List (String × List PipelineResult)}

/-- Pipelines of different names may end in either order. -/
theorem supervise_comm (h : Health) {p q : String} (hne : p ≠ q)
    (rs rs' : List PipelineResult) :
    (supervise q rs' (supervise p rs h).2).2 = (supervise p rs (supervise q rs' h).2).2 := by
  simp only [supervise_eq]
  exact congrArg Health.mk (h.failures.insert_comm hne _ _)

theorem Health.after_perm (hnames : (ended.map (·.1)).Nodup) (hperm : ended.Perm ended')
    (h : Health) : h.after ended = h.after ended' := by
  refine hperm.foldl_eq' (fun x hx y hy h => ?_) h
  by_cases hname : x.1 = y.1
  · -- two runs of one name are the same run
    rw [List.inj_on_of_nodup_map hnames hx hy hname]
  · exact supervise_comm h hname x.2 y.2

/-- Something is noted of the pipelines that have ended, besides what was noted before. -/
theorem Health.mem_keys_after (h : Health) (name : String) :
    name ∈ (h.after ended).failures.keys ↔ name ∈ ended.map (·.1) ∨ name ∈ h.failures.keys := by
  induction ended generalizing h with
  | nil => simp [after]
  | cons run ended ih =>
    have hfirst : name ∈ (supervise run.1 run.2 h).2.failures.keys ↔
        name = run.1 ∨ name ∈ h.failures.keys := by
      rw [supervise_eq, SortedMap.mem_keys_iff, get?_stop, SortedMap.mem_keys_iff]
      split <;> simp [*]
    show name ∈ ((supervise run.1 run.2 h).2.after ended).failures.keys ↔ _
    rw [ih, hfirst, List.map_cons, List.mem_cons, or_left_comm, or_assoc]

theorem Health.isReady_iff (h : Health) : h.isReady = true ↔ ∀ name, name ∉ h.failures.keys := by
  rw [isReady, List.isEmpty_iff, ← List.eq_nil_iff_forall_not_mem, SortedMap.keys,
    List.map_eq_nil_iff]

end Several

/-! ## Any results -/

/-- **A pipeline ends with its first fatal result.** What follows has no effect, whatever it is, and
what comes before has none either. Without such a result a pipeline ends when there are no more. In
any case the text of the error is noted under the name of the pipeline, and what is noted under
other names stays. So the two pipelines may end in either order, and the pipelines that have ended
are just those that something is noted of, if nothing was at the start. -/
theorem first_fatal_ends (pipeline : String) (h : Health) :
    (∀ before r later e, (∀ r ∈ before, ∀ e, ¬PipelineResult.Ends r e) → r.Ends e →
      supervise pipeline (before ++ r :: later) h = (e, h.stop pipeline e)) ∧
    (∀ rs, (∀ r ∈ rs, ∀ e, ¬PipelineResult.Ends r e) →
      (supervise pipeline rs h).1 = .watch s!"{pipeline} controller stream ended") ∧
    (∀ rs name, (supervise pipeline rs h).2.failures.get? name =
      if name = pipeline then some (supervise pipeline rs h).1.message
      else h.failures.get? name) ∧
    (∀ rs rs', (supervise instancePipeline rs' (supervise poolPipeline rs {}).2).2.failures =
      (supervise poolPipeline rs (supervise instancePipeline rs' {}).2).2.failures) ∧
    ∀ ended : List (String × List PipelineResult), (ended.map (·.1)).Nodup →
      let left := ({} : Health).after ended
      (∀ ended', ended.Perm ended' → ({} : Health).after ended' = left) ∧
        (∀ name, name ∈ left.failures.keys ↔ name ∈ ended.map (·.1)) ∧
        (left.isReady = true ↔ ended = []) := by
  refine ⟨?_, ?_, ?_, ?_, ?_⟩
  · intro before r later e hbefore hr
    rw [supervise_eq, endOf_append_cons hbefore hr]
  · intro rs hrs
    rw [supervise_eq, endOf_of_forall hrs]
    rfl
  · intro rs name
    rw [supervise_eq]
    exact get?_stop h pipeline _ name
  · intro rs rs'
    have hne : poolPipeline ≠ instancePipeline := by decide
    rw [supervise_comm {} hne rs rs']
  · intro ended hnames left
    have hkeys (name : String) : name ∈ left.failures.keys ↔ name ∈ ended.map (·.1) := by
      have hnothing : name ∉ ({} : Health).failures.keys := List.not_mem_nil
      rw [Health.mem_keys_after, or_iff_left hnothing]
    refine ⟨fun ended' hperm => (Health.after_perm hnames hperm {}).symm, hkeys, ?_⟩
    rw [Health.isReady_iff]
    simp only [hkeys]
    rw [← List.eq_nil_iff_forall_not_mem, List.map_eq_nil_iff]

/-- Failures that look like the one that ends a pipeline: another code, another request, and a
failure of the runner. -/
def lookAlikes : List PipelineResult :=
  [.interrupted (.initialList (.api { code := 403 })), .interrupted (.watch (.api { code := 404 })),
    .failed (.watch "gone"), .runnerFailed "gone"]

/-- The pools' pipeline meets nothing but look-alikes. That of the instances ends before its last
two results. -/
theorem first_fatal_ends_look_alikes :
    let gone : PipelineResult :=
      .interrupted (.initialList (.api { message := "gone", code := 404 }))
    let ended := [(poolPipeline, lookAlikes), (instancePipeline, lookAlikes ++ gone :: lookAlikes)]
    (∃ e h, supervise instancePipeline (lookAlikes ++ gone :: lookAlikes) {} = (e, h) ∧
      e.isFatal = true) ∧
    (supervise poolPipeline lookAlikes {}).1 = .watch "addresspool controller stream ended" ∧
    (({} : Health).after ended.reverse = ({} : Health).after ended) ∧
    ∀ name, name ∈ (({} : Health).after ended).failures.keys ↔
      name = poolPipeline ∨ name = instancePipeline := by
  intro gone ended
  have halike : ∀ r ∈ lookAlikes, ∀ e, ¬r.Ends e := by
    intro r hr
    rw [← PipelineResult.fatal?_eq_none_iff]
    exact (by decide : ∀ r ∈ lookAlikes, r.fatal? = none) r hr
  obtain ⟨hfirst, -, -, -, hended⟩ := first_fatal_ends instancePipeline {}
  obtain ⟨-, hnone, -⟩ := first_fatal_ends poolPipeline {}
  obtain ⟨hperm, hkeys, -⟩ := hended ended (by decide)
  refine ⟨⟨_, _, hfirst _ _ _ _ halike (.unregistered rfl), rfl⟩, hnone _ halike,
    hperm _ (List.reverse_perm ended).symm, fun name => (hkeys name).trans ?_⟩
  simp [ended]

end PoolOperator
