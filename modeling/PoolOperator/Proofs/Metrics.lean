import PoolOperator.Proofs.Reconcile.Company
import PoolOperator.Proofs.Reconcile.Convergence
import PoolOperator.Proofs.Reconcile.Guard
import PoolOperator.Proofs.Retries
import PoolOperator.Proofs.Store.Atomic

/-!
# What is counted

A turn is counted once, under its pipeline and its result. A merge counts the write that its result
tells of, and the store counts the same write. So after any turns the counters are what a reader of
their results would have counted.
-/

namespace PoolOperator

/-! ## Counters -/

namespace Metrics

/-- The turns that have been counted for a pipeline and a result. -/
def turnsCounted (m : Metrics) (pipeline result : String) : Nat :=
  (m.turns.get? ⟨pipeline, result⟩).getD 0

/-- The writes of artifacts that have been counted for an operation. -/
def writesCounted (m : Metrics) (operation : String) : Nat :=
  (m.artifactWrites.get? operation).getD 0

variable {m : Metrics}

theorem turnsCounted_countTurn (m : Metrics) (pipeline result pipeline' result' : String) :
    (m.countTurn pipeline' result').turnsCounted pipeline result =
      m.turnsCounted pipeline result +
        if pipeline' = pipeline ∧ result' = result then 1 else 0 := by
  show ((m.turns.insert _ _).get? _).getD 0 = _
  rw [SortedMap.get?_insert]
  by_cases h : pipeline' = pipeline ∧ result' = result
  · obtain ⟨rfl, rfl⟩ := h
    rw [if_pos rfl, if_pos ⟨rfl, rfl⟩]
    rfl
  · rw [if_neg h, if_neg, Nat.add_zero]
    · rfl
    · intro heq
      rw [TurnLabels.mk.injEq] at heq
      exact h ⟨heq.1.symm, heq.2.symm⟩

/-- Counted writes are noted one by one. -/
theorem writesCounted_foldl (operations : List String) (operation : String) :
    ∀ m : Metrics, (operations.foldl countArtifactWrite m).writesCounted operation =
      m.writesCounted operation + operations.count operation := by
  induction operations with
  | nil => exact fun m => rfl
  | cons o operations ih =>
    intro m
    have hfirst : (m.countArtifactWrite o).writesCounted operation =
        m.writesCounted operation + if o = operation then 1 else 0 := by
      show ((m.artifactWrites.insert _ _).get? _).getD 0 = _
      rw [SortedMap.get?_insert]
      by_cases h : operation = o
      · rw [if_pos h, if_pos h.symm, h]
        rfl
      · rw [if_neg h, if_neg (Ne.symm h)]
        rfl
    rw [List.foldl_cons, ih, hfirst, List.count_cons, Nat.add_assoc, Nat.add_comm (List.count _ _)]
    simp only [beq_iff_eq]

theorem turns_foldl (operations : List String) :
    ∀ m : Metrics, (operations.foldl countArtifactWrite m).turns = m.turns := by
  induction operations with
  | nil => exact fun m => rfl
  | cons o operations ih => exact fun m => ih _

end Metrics

/-- The operations that the result of a merge tells of. -/
def operationsOf : Except OperatorError AggregateOutcome → List String
  | .ok .created => ["create"]
  | .ok .updated => ["replace"]
  | .ok .deleted => ["delete"]
  | .ok .unchanged | .ok .absent | .error _ => []

/-- The operations that merges tell of are as many as those that have written. -/
theorem count_operationsOf (merges : List (Except OperatorError AggregateOutcome)) :
    let operations := merges.flatMap operationsOf
    operations.count "create" = merges.count (.ok .created) ∧
      operations.count "replace" = merges.count (.ok .updated) ∧
      operations.count "delete" = merges.count (.ok .deleted) ∧
      operations.length =
        operations.count "create" + operations.count "replace" + operations.count "delete" := by
  intro operations
  induction merges with
  | nil => exact ⟨rfl, rfl, rfl, rfl⟩
  | cons result merges ih =>
    obtain ⟨hcreated, hupdated, hdeleted, hlength⟩ := ih
    rw [hcreated, hupdated, hdeleted] at hlength
    simp only [operations, List.flatMap_cons, List.count_append, List.length_append,
      List.count_cons, hcreated, hupdated, hdeleted, hlength]
    rcases result with e | outcome
    · simp [operationsOf]
    · cases outcome <;> simp [operationsOf] <;> omega

/-! ## Calls -/

theorem StoreEdit.isConfigMapWrite_call (c : StoreCall) :
    (StoreEdit.call c).isConfigMapWrite = c.isConfigMapWrite := by
  cases c <;> rfl

theorem Store.successes_of_none {sort : StoreEdit → Bool} {es : List StoreEdit}
    (h : ∀ e ∈ es, sort e = false) : ∀ s : Store, successes sort s es = 0 := by
  induction es with
  | nil => exact fun s => rfl
  | cons e es ih =>
    intro s
    obtain ⟨he, hes⟩ := List.forall_mem_cons.mp h
    rw [successes, he, ih hes]
    rfl

theorem Store.configMapWrites_edits {s : Store} (hs : s.Reachable) {es : List StoreEdit}
    (h : ∀ e ∈ es, e.isConfigMapWrite = false) :
    (s.edits es).configMapWrites = s.configMapWrites := by
  have hwrites := congrArg Prod.fst (writes_edits es hs)
  rw [successes_of_none h] at hwrites
  exact hwrites

theorem Store.configMapWrites_answer {s : Store} (hs : s.Reachable) (c : StoreCall) :
    (s.answer c).2.configMapWrites = s.configMapWrites +
      if c.isConfigMapWrite && (s.answer c).1.isOk then 1 else 0 := by
  have hwrites := congrArg Prod.fst (writes_edit hs (.call c))
  have houtcome : (s.outcome (.call c)).isOk = (s.answer c).1.isOk := by
    show ((s.answer c).1.map fun _ => ()).isOk = _
    cases (s.answer c).1 <;> rfl
  rw [houtcome] at hwrites
  refine hwrites.trans ?_
  rw [← StoreEdit.isConfigMapWrite_call]
  cases hcounted : (StoreEdit.call c).isConfigMapWrite <;>
    cases (s.answer c).1.isOk <;> simp [StoreEdit.counts, hcounted, writes]

namespace World

/-- Whether the store is one that changes lead to, and others will make none that it counts as a
write of a config map. -/
structure IsUncounted (w : World) : Prop where
  reachable : w.store.Reachable
  others : ∀ d ∈ w.disturbances, ∀ e ∈ d.2.edits, e.isConfigMapWrite = false

variable {w v : World}

/-- Only a write of a config map that succeeds is counted. -/
theorem IsUncounted.answerCall (h : w.IsUncounted) (c : StoreCall) :
    (w.answerCall c).2.IsUncounted ∧ (w.answerCall c).2.operator = w.operator ∧
      (w.answerCall c).2.store.configMapWrites = w.store.configMapWrites +
        if c.isConfigMapWrite && (w.answerCall c).1.isOk then 1 else 0 := by
  obtain ⟨ds, hanswer, hds, -⟩ := w.answerCall_eq c
  have hothers := disturbanceAt_of_forall (P := fun d => ∀ e ∈ d.edits, e.isConfigMapWrite = false)
    (fun e he => nomatch he) h.others c.method 0
  have hds' : ∀ d ∈ ds, ∀ e ∈ d.2.edits, e.isConfigMapWrite = false := by
    intro d hd
    exact h.others d (hds hd)
  refine ⟨?_, w.operator_answerCall c, ?_⟩
  all_goals rw [hanswer]
  all_goals generalize disturbanceAt w.disturbances c.method 0 = d at hothers ⊢
  · cases d with
    | fail e => exact ⟨h.reachable, hds'⟩
    | meanwhile es => exact ⟨(h.reachable.edits es).answer c, hds'⟩
  · cases d with
    | fail e =>
      have hfailed : (w.served (.fail e) ds c).1.isOk = false := rfl
      rw [hfailed, Bool.and_false]
      rfl
    | meanwhile es =>
      have hmeanwhile := Store.configMapWrites_edits h.reachable hothers
      rw [← hmeanwhile]
      exact Store.configMapWrites_answer (h.reachable.edits es) c

/-- What is counted on the way from one world to another: by the operator these operations, and by
the store as many writes. -/
structure Tallied (w : World) (operations : List String) (v : World) : Prop where
  uncounted : v.IsUncounted
  metrics : v.operator.metrics =
    operations.foldl Metrics.countArtifactWrite w.operator.metrics
  writes : v.store.configMapWrites = w.store.configMapWrites + operations.length

theorem Tallied.refl (h : w.IsUncounted) : w.Tallied [] w := ⟨h, rfl, rfl⟩

/-- A call that writes no config map, or fails, is not counted. -/
theorem Tallied.answerCall {operations : List String} (h : w.Tallied operations v) {c : StoreCall}
    (hcall : c.isConfigMapWrite = false ∨ (v.answerCall c).1.isOk = false) :
    w.Tallied operations (v.answerCall c).2 := by
  obtain ⟨huncounted, hoperator, hwrites⟩ := h.uncounted.answerCall c
  refine ⟨huncounted, ?_, ?_⟩
  · rw [hoperator, h.metrics]
  · rw [hwrites, if_neg, h.writes, Nat.add_zero]
    rcases hcall with hcall | hcall <;> simp [hcall]

/-- A write of a config map and the count that follows it are one operation. -/
theorem Tallied.countWrite {operations : List String} (h : w.Tallied operations v) {c : StoreCall}
    (hcall : c.isConfigMapWrite = true) (hok : (v.answerCall c).1.isOk = true)
    (operation : String) :
    w.Tallied (operations ++ [operation])
      (answer (.countWrite operation) (v.answerCall c).2).2 := by
  obtain ⟨huncounted, hoperator, hwrites⟩ := h.uncounted.answerCall c
  refine ⟨⟨huncounted.reachable, huncounted.others⟩, ?_, ?_⟩
  · rw [List.foldl_append, ← h.metrics, ← hoperator]
    rfl
  · rw [hcall, hok] at hwrites
    rw [List.length_append, ← Nat.add_assoc, ← h.writes]
    exact hwrites

end World

/-! ## Tasks -/

/-- The requests that have no part in what is counted of config maps. -/
def Request.IsUncounted : Request → Prop
  | .store c => c.isConfigMapWrite = false
  | .probe _ => True
  | .countWrite _ => False

namespace Task

variable {α β : Type} {before : List String}

/-- Whether a task that is run when some operations have been counted ends when those have been that
its value tells of, in whatever order pools are listed and whatever happens at its calls. -/
def Tallies (t : Task α) (before : List String) (after : α → List String) : Prop :=
  ∀ ⦃w v : World⦄, w.Tallied before v → ∀ order : List AddressPool → List AddressPool,
    w.Tallied (after (t.run (World.answerIn order) v).1) (t.run (World.answerIn order) v).2

theorem tallies_done {a : α} {after : α → List String} (h : after a = before) :
    (done a).Tallies before after := by
  intro w v hv order
  rw [← h] at hv
  exact hv

theorem Tallies.bind {t : Task α} {f : α → Task β} {after : α → List String}
    {after' : β → List String} (h : t.Tallies before after)
    (hf : ∀ a, (f a).Tallies (after a) after') : (t >>= f).Tallies before after' := by
  intro w v hv order
  rw [run_bind]
  exact hf _ (h hv order) order

theorem Only.tallies {t : Task α} (h : t.Only Request.IsUncounted) (before : List String) :
    t.Tallies before fun _ => before := by
  intro w v hv order
  refine h.run (Q := fun u => w.Tallied before u) (fun request u hrequest hu => ?_) hv
  cases request with
  | store c =>
    rw [World.answerIn_store]
    exact hu.answerCall (.inl hrequest)
  | probe object => exact hu
  | countWrite operation => exact hrequest.elim

theorem tallies_call {c : StoreCall} (hcall : c.isConfigMapWrite = false) :
    (call c).Tallies before fun _ => before :=
  Only.tallies (only_call (P := Request.IsUncounted) hcall) before

/-- A write that is counted just if it succeeds. -/
theorem tallies_write {c : StoreCall} (hcall : c.isConfigMapWrite = true)
    {operation : String} {outcome : AggregateOutcome}
    (houtcome : operationsOf (.ok outcome) = [operation])
    {next : Except StoreError c.Reply → Task (Except OperatorError AggregateOutcome)}
    (hok : ∀ reply, next (.ok reply) = countWrite operation >>= fun _ => done (.ok outcome))
    (herror : ∀ e, ∃ result, next (.error e) = done result ∧ operationsOf result = []) :
    (call c >>= next).Tallies [] operationsOf := by
  intro w v hv order
  have hisOk := c.isOk_ordered order (v.answerCall c).1
  rw [run_call_bind (World.answerIn_store order c v)]
  cases hreply : c.ordered order (v.answerCall c).1 with
  | ok reply =>
    rw [hok, run_bind]
    have hcounted := hv.countWrite hcall (by rw [← hisOk, hreply]; rfl) operation
    rw [List.nil_append, ← houtcome] at hcounted
    exact hcounted
  | error e =>
    obtain ⟨result, hresult, hnone⟩ := herror e
    rw [hresult, run_done, hnone]
    exact hv.answerCall (.inr (by rw [← hisOk, hreply]; rfl))

theorem tallies_writeArtifact (ns : String) (desired : Artifact) :
    (writeArtifact ns desired).Tallies [] operationsOf := by
  refine (tallies_call (c := .getConfigMap _) rfl).bind fun reply => ?_
  rcases reply with e | _ | current
  · exact tallies_done rfl
  · dsimp only
    split
    · exact tallies_done rfl
    · exact tallies_write rfl rfl (fun _ => rfl) fun e => ⟨_, rfl, rfl⟩
  · dsimp only
    split
    · refine tallies_write rfl rfl (fun _ => rfl) fun e => ?_
      cases e <;> exact ⟨_, rfl, rfl⟩
    · split
      · exact tallies_done rfl
      · exact tallies_write rfl rfl (fun _ => rfl) fun e => ⟨_, rfl, rfl⟩

/-- The operations that the first phase of a merge tells of. -/
def settledOperations (settled : Settled) : List String := operationsOf (settled.map Prod.snd)

theorem tallies_settleOnce (ns : String) : (settleOnce ns).Tallies [] settledOperations := by
  refine (tallies_call (c := .listPools ns) rfl).bind fun reply => ?_
  cases reply with
  | error e => exact tallies_done rfl
  | ok pools =>
    refine (tallies_writeArtifact ns (.ofPools pools)).bind fun result => ?_
    cases result with
    | error e => exact tallies_done rfl
    | ok outcome => exact tallies_done rfl

/-- An attempt that is followed by another one has counted nothing. -/
theorem tallies_settleWithin (total : Nat) (ns : String) (left : Nat) :
    (settleWithin total ns left).Tallies [] settledOperations := by
  induction left with
  | zero => exact tallies_done rfl
  | succ left ih =>
    refine (tallies_settleOnce ns).bind fun settled => ?_
    -- only a conflict leads to another attempt, and then no write has succeeded
    split
    · exact ih
    · exact tallies_done rfl

/-- **A merge counts what its result tells of.** -/
theorem tallies_aggregate (now : String) (attempts : Nat) (ns : String) :
    (aggregate now attempts ns).Tallies [] operationsOf := by
  rw [aggregate, aggregateWithin_eq]
  refine (tallies_settleWithin attempts ns attempts).bind fun settled => ?_
  rcases settled with e | ⟨pools, outcome⟩
  · exact tallies_done rfl
  · have hreports := only_reportVerdicts (P := Request.IsUncounted) (fun _ => rfl) (fun _ => rfl)
      attempts ns (PoolVerdict.ofPools now pools)
    exact (hreports.tallies _).bind fun _ => tallies_done rfl

theorem tallies_validate (now : String) (attempts : Nat) (key : ObjectKey) :
    (validate now attempts key).Tallies [] fun _ => [] :=
  (only_validate (P := Request.IsUncounted) rfl (fun _ => trivial) (fun _ => rfl) now
    attempts).tallies []

end Task

/-! ## Turns -/

/-- The result that a turn is counted under. -/
def Turn.label (t : Turn) : String :=
  match t.result with
  | .ok _ => "success"
  | .error e => if e.isFatal then "fatal" else "error"

theorem Turn.label_cases (t : Turn) :
    t.label = "success" ∧ t.result.isOk = true ∧ t.isFatal = false ∨
      t.label = "error" ∧ t.result.isOk = false ∧ t.isFatal = false ∨
      t.label = "fatal" ∧ t.result.isOk = false ∧ t.isFatal = true := by
  rw [label, isFatal]
  cases t.result with
  | ok u => exact .inl ⟨rfl, rfl, rfl⟩
  | error e =>
    dsimp only
    cases e.isFatal with
    | false => exact .inr (.inl ⟨rfl, rfl, rfl⟩)
    | true => exact .inr (.inr ⟨rfl, rfl, rfl⟩)

/-- Every turn is counted under one of three results. -/
theorem Turn.countP_label (turns : List Turn) :
    turns.countP (·.label = "success") = turns.countP (·.result.isOk) ∧
      turns.countP (·.label = "fatal") = turns.countP isFatal ∧
      turns.countP (·.label = "success") + turns.countP (·.label = "error") +
        turns.countP (·.label = "fatal") = turns.length := by
  induction turns with
  | nil => exact ⟨rfl, rfl, rfl⟩
  | cons t turns ih =>
    simp only [List.countP_cons, List.length_cons]
    rcases t.label_cases with ⟨hlabel, hok, hfatal⟩ | ⟨hlabel, hok, hfatal⟩ | ⟨hlabel, hok, hfatal⟩
    all_goals
      simp only [hlabel, hok, hfatal]
      simp
      omega

namespace World

variable {w v : World} {operations : List String}

/-- Whether a turn has been counted, and the writes that were made in it. -/
structure Scored (w : World) (t : Turn) (operations : List String) (v : World) : Prop where
  uncounted : v.IsUncounted
  metrics : v.operator.metrics =
    (operations.foldl Metrics.countArtifactWrite w.operator.metrics).countTurn
      t.subject.pipeline t.label
  writes : v.store.configMapWrites = w.store.configMapWrites + operations.length

theorem Tallied.scored_of_error (h : w.Tallied operations v) (x : Subject) (e : OperatorError) :
    w.Scored ⟨x, .error e⟩ operations (conclude x.pipeline x.text (.error e, v)).2.2 := by
  refine ⟨⟨h.uncounted.reachable, h.uncounted.others⟩, ?_, h.writes⟩
  rw [← h.metrics]
  show (v.operator.afterFailure x.pipeline x.text e).2.metrics = v.operator.metrics.countTurn
    x.pipeline (if e.isFatal then "fatal" else "error")
  unfold Operator.afterFailure
  split <;> rfl

theorem Tallied.scored_of_ok (h : w.Tallied operations v) (x : Subject) (action : Action) :
    w.Scored ⟨x, .ok ()⟩ operations (conclude x.pipeline x.text (.ok action,
      { v with operator := v.operator.afterSuccess x.pipeline x.text })).2.2 := by
  refine ⟨⟨h.uncounted.reachable, h.uncounted.others⟩, ?_, h.writes⟩
  rw [← h.metrics]
  rfl

theorem scored_turnOnNamespaceIn (h : w.IsUncounted) (order : List AddressPool → List AddressPool)
    (now : String) (n : Namespace) :
    w.Scored ⟨.poolsOf n.metadata.anyName, (w.turnOnNamespaceIn order now n).1⟩
      (operationsOf ((Task.aggregate now w.attempts n.metadata.anyName).run (answerIn order) w).1)
      (w.turnOnNamespaceIn order now n).2.2 := by
  have htallied := Task.tallies_aggregate now w.attempts n.metadata.anyName (Tallied.refl h) order
  rcases w.turnOnNamespaceIn_cases order now n with ⟨e, -, hturn⟩ | ⟨outcome, -, hturn⟩
  · rw [hturn]
    exact htallied.scored_of_error (.poolsOf n.metadata.anyName) e
  · rw [hturn]
    exact htallied.scored_of_ok (.poolsOf n.metadata.anyName) _

theorem scored_turnOnInstance (h : w.IsUncounted) (now : String) (i : Instance) :
    w.Scored ⟨.instanceAt (w.keyOfInstance i), (w.turnOnInstance now i).1⟩ []
      (w.turnOnInstance now i).2.2 := by
  have htallied := Task.tallies_validate now w.attempts (w.keyOfInstance i) (Tallied.refl h) id
  rw [← perform_eq] at htallied
  rcases w.turnOnInstance_cases now i with ⟨e, -, hturn⟩ | ⟨state, -, hturn⟩
  · rw [hturn]
    exact htallied.scored_of_error (.instanceAt (w.keyOfInstance i)) e
  · rw [hturn]
    exact htallied.scored_of_ok (.instanceAt (w.keyOfInstance i)) _

/-! ## Any number of turns -/

/-- What a world may become by turns, with the results of the merges made in them. Each merge may
list pools in an order of its own. Between two turns others may make changes that are not counted,
and it is up to them what comes at the next calls. -/
inductive After (w : World) :
    List Turn → List (Except OperatorError AggregateOutcome) → World → Prop where
  | start : After w [] [] w
  | onNamespace {turns : List Turn} {merges : List (Except OperatorError AggregateOutcome)}
      {v : World} (h : After w turns merges v) (order : List AddressPool → List AddressPool)
      (now : String) (n : Namespace) :
      After w (turns ++ [⟨.poolsOf n.metadata.anyName, (v.turnOnNamespaceIn order now n).1⟩])
        (merges ++
          [((Task.aggregate now v.attempts n.metadata.anyName).run (answerIn order) v).1])
        (v.turnOnNamespaceIn order now n).2.2
  | onInstance {turns : List Turn} {merges : List (Except OperatorError AggregateOutcome)}
      {v : World} (h : After w turns merges v) (now : String) (i : Instance) :
      After w (turns ++ [⟨.instanceAt (v.keyOfInstance i), (v.turnOnInstance now i).1⟩]) merges
        (v.turnOnInstance now i).2.2
  | between {turns : List Turn} {merges : List (Except OperatorError AggregateOutcome)}
      {v : World} (h : After w turns merges v) (es : List StoreEdit)
      (ds : List (StoreMethod × Disturbance)) (readiness : Except OperatorError Readiness)
      (hes : ∀ e ∈ es, e.isConfigMapWrite = false)
      (hds : ∀ d ∈ ds, ∀ e ∈ d.2.edits, e.isConfigMapWrite = false) :
      After w turns merges
        { v with store := v.store.edits es, disturbances := ds, readiness := readiness }

/-- Whether the counters say of some turns, and of the merges made in them, what is to be said. -/
structure Counts (w : World) (turns : List Turn)
    (merges : List (Except OperatorError AggregateOutcome)) (v : World) : Prop where
  uncounted : v.IsUncounted
  turns (pipeline result : String) : v.operator.metrics.turnsCounted pipeline result =
    (turns.filter (·.subject.pipeline = pipeline)).countP (·.label = result)
  artifactWrites (operation : String) : v.operator.metrics.writesCounted operation =
    (merges.flatMap operationsOf).count operation
  writes : v.store.configMapWrites =
    w.store.configMapWrites + (merges.flatMap operationsOf).length

variable {turns : List Turn} {merges : List (Except OperatorError AggregateOutcome)}

theorem Counts.scored {v' : World} (h : Counts w turns merges v) {t : Turn}
    (merges' : List (Except OperatorError AggregateOutcome))
    (hscored : v.Scored t (merges'.flatMap operationsOf) v') :
    Counts w (turns ++ [t]) (merges ++ merges') v' := by
  refine ⟨hscored.uncounted, fun pipeline result => ?_, fun operation => ?_, ?_⟩
  · have hcounted : v'.operator.metrics.turnsCounted pipeline result =
        v.operator.metrics.turnsCounted pipeline result +
          if t.subject.pipeline = pipeline ∧ t.label = result then 1 else 0 := by
      rw [hscored.metrics, Metrics.turnsCounted_countTurn, Metrics.turnsCounted,
        Metrics.turns_foldl]
      rfl
    rw [hcounted, h.turns, List.filter_append, List.countP_append]
    by_cases hpipeline : t.subject.pipeline = pipeline <;>
      by_cases hlabel : t.label = result <;> simp [hpipeline, hlabel]
  · have hcounted : v'.operator.metrics.writesCounted operation =
        v.operator.metrics.writesCounted operation +
          (merges'.flatMap operationsOf).count operation := by
      rw [hscored.metrics, ← Metrics.writesCounted_foldl]
      rfl
    rw [hcounted, h.artifactWrites, List.flatMap_append, List.count_append]
  · rw [hscored.writes, h.writes, List.flatMap_append, List.length_append, Nat.add_assoc]

theorem After.counts (h : w.After turns merges v) (huncounted : w.IsUncounted)
    (hfresh : w.operator.metrics = {}) : Counts w turns merges v := by
  induction h with
  | start =>
    refine ⟨huncounted, ?_, ?_, rfl⟩
    · rw [hfresh]
      exact fun _ _ => rfl
    · rw [hfresh]
      exact fun _ => rfl
  | @onNamespace turns merges v _ order now n ih =>
    refine ih.scored [_] ?_
    rw [List.flatMap_singleton]
    exact scored_turnOnNamespaceIn ih.uncounted order now n
  | @onInstance turns merges v _ now i ih =>
    have hcounts := ih.scored [] (scored_turnOnInstance ih.uncounted now i)
    rwa [List.append_nil] at hcounts
  | between _ es ds readiness hes hds ih =>
    refine ⟨⟨ih.uncounted.reachable.edits es, hds⟩, ih.turns, ih.artifactWrites, ?_⟩
    exact (Store.configMapWrites_edits ih.uncounted.reachable hes).trans ih.writes

/-- **Metrics count what happened.** Among others who make no writes of config maps that the store
counts, in whatever order pools are listed, and whatever faults and conflicts there are, an operator
that has counted nothing yet counts every turn of a pipeline once: as a success, as an error, or as
an error for good. It counts as many creations, replacements and deletions of artifacts as there were
merges that say so, and as many as the store. Turns on instances count no such write. -/
theorem metrics_count_turns (h : w.After turns merges v) (huncounted : w.IsUncounted)
    (hfresh : w.operator.metrics = {}) :
    let m := v.operator.metrics
    (∀ pipeline,
      let own := turns.filter (·.subject.pipeline = pipeline)
      m.turnsCounted pipeline "success" = own.countP (·.result.isOk) ∧
      m.turnsCounted pipeline "fatal" = own.countP Turn.isFatal ∧
      m.turnsCounted pipeline "success" + m.turnsCounted pipeline "error" +
        m.turnsCounted pipeline "fatal" = own.length) ∧
    m.writesCounted "create" = merges.count (.ok .created) ∧
    m.writesCounted "replace" = merges.count (.ok .updated) ∧
    m.writesCounted "delete" = merges.count (.ok .deleted) ∧
    v.store.configMapWrites = w.store.configMapWrites +
      (m.writesCounted "create" + m.writesCounted "replace" + m.writesCounted "delete") ∧
    ∀ now i, (v.turnOnInstance now i).2.2.operator.metrics.artifactWrites = m.artifactWrites := by
  intro m
  have hcounts := h.counts huncounted hfresh
  obtain ⟨hcreated, hupdated, hdeleted, hlength⟩ := count_operationsOf merges
  refine ⟨fun pipeline => ?_, ?_, ?_, ?_, ?_, fun now i => ?_⟩
  · simp only [m, hcounts.turns]
    exact Turn.countP_label _
  · rw [hcounts.artifactWrites, hcreated]
  · rw [hcounts.artifactWrites, hupdated]
  · rw [hcounts.artifactWrites, hdeleted]
  · rw [hcounts.writes, hcounts.artifactWrites, hcounts.artifactWrites, hcounts.artifactWrites,
      hlength]
  · rw [(scored_turnOnInstance hcounts.uncounted now i).metrics]
    rfl

/-- A merge that lists pools in the reverse of their order, one that finds no kind of pools, and a
turn on an instance that is not there. -/
theorem metrics_count_turns_crowded :
    ∃ turns merges v, crowded.After turns merges v ∧
      turns.map (·.label) = ["success", "fatal", "success"] ∧ merges.length = 2 ∧
      v.operator.metrics.turnsCounted poolPipeline "success" = 1 ∧
      v.operator.metrics.turnsCounted poolPipeline "fatal" = 1 ∧
      v.operator.metrics.turnsCounted instancePipeline "success" = 1 ∧
      v.operator.metrics.writesCounted "replace" = 1 ∧ v.store.configMapWrites = 1 := by
  let n : Namespace := { metadata := { name := some "x" } }
  let i : Instance := { metadata := { name := some "metallb", ns := some "x" }, spec := {} }
  have hafter := ((After.start (w := crowded).onNamespace List.reverse "now" n).between
    [.setPoolKind false] [] (.ok .ready) (by decide) nofun).onNamespace id "now" n
      |>.onInstance "now" i
  obtain ⟨hturns, hcreate, hreplace, hdelete, hwrites, -⟩ :=
    metrics_count_turns hafter ⟨⟨_, rfl⟩, nofun⟩ rfl
  obtain ⟨hsuccess, hfatal, -⟩ := hturns poolPipeline
  obtain ⟨hsuccess', -, -⟩ := hturns instancePipeline
  rw [hcreate, hreplace, hdelete] at hwrites
  refine ⟨_, _, _, hafter, by decide +kernel, rfl, hsuccess.trans ?_, hfatal.trans ?_,
    hsuccess'.trans ?_, hreplace.trans ?_, hwrites.trans ?_⟩
  all_goals decide +kernel

end World

end PoolOperator
