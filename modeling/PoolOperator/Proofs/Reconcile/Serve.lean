import PoolOperator.Proofs.Store.Change
import PoolOperator.Proofs.Task
import PoolOperator.Turn

/-!
# How tasks are served

The order in which pools are listed is left open, for a task and for the turn that it is part of.
When nothing fails and nobody else acts, a task is served by the store alone.
-/

namespace PoolOperator

/-! ## Answers -/

/-- The reply to a call, if pools are listed in an order of choice. -/
def StoreCall.ordered (order : List AddressPool → List AddressPool) (call : StoreCall)
    (reply : Except StoreError call.Reply) : Except StoreError call.Reply :=
  match call, reply with
  | .listPools _, reply => reply.map order
  | _, reply => reply

/-- An error is the same in any order. -/
@[simp] theorem StoreCall.ordered_error (order : List AddressPool → List AddressPool)
    (call : StoreCall) (e : StoreError) : call.ordered order (.error e) = .error e := by
  cases call <;> rfl

theorem StoreCall.ordered_id (call : StoreCall) (reply : Except StoreError call.Reply) :
    call.ordered id reply = reply := by
  cases call <;> cases reply <;> rfl

@[simp] theorem StoreCall.isOk_ordered (order : List AddressPool → List AddressPool)
    (call : StoreCall) (reply : Except StoreError call.Reply) :
    (call.ordered order reply).isOk = reply.isOk := by
  cases call <;> cases reply <;> rfl

/-- The answer to a request, if pools are listed in an order of choice. -/
def World.answerIn (order : List AddressPool → List AddressPool) (request : Request) (w : World) :
    request.Reply × World :=
  match request with
  | .store (.listPools ns) =>
    let (pools, w) := w.answerCall (.listPools ns)
    (pools.map order, w)
  | request => w.answer request

/-- The order has no part in what an answer leaves. -/
theorem World.answerIn_store (order : List AddressPool → List AddressPool) (call : StoreCall)
    (w : World) : w.answerIn order (.store call) =
      (call.ordered order (w.answerCall call).1, (w.answerCall call).2) := by
  cases call <;> rfl

/-- The same as an answer of a store, without a world around it. -/
def Store.serve (order : List AddressPool → List AddressPool)
    (readiness : Except OperatorError Readiness) (request : Request) (s : Store) :
    request.Reply × Store :=
  match request with
  | .store (.listPools ns) => ((s.list AddressPool ns).map order, s)
  | .store call => s.answer call
  | .probe _ => (readiness, s)
  | .countWrite _ => ((), s)

theorem Store.serve_store (order : List AddressPool → List AddressPool)
    (readiness : Except OperatorError Readiness) (call : StoreCall) (s : Store) :
    s.serve order readiness (.store call) =
      (call.ordered order (s.answer call).1, (s.answer call).2) := by
  cases call <;> rfl

theorem Store.serve_getConfigMap (s : Store) (order : List AddressPool → List AddressPool)
    (readiness : Except OperatorError Readiness) (key : ObjectKey) :
    s.serve order readiness (.store (.getConfigMap key)) = (.ok (s.configMaps.get? key), s) := rfl

/-- With the pools in the order of their keys, this is how the world answers by itself. -/
theorem World.answerIn_id (request : Request) (w : World) :
    w.answerIn id request = w.answer request := by
  cases request with
  | store call =>
    rw [answerIn_store, StoreCall.ordered_id]
    rfl
  | probe object => rfl
  | countWrite operation => rfl

/-- Pools listed in the order of their keys are a case of any order. -/
theorem World.perform_eq {α : Type} (w : World) (t : Task α) :
    w.perform t = t.run (answerIn id) w := by
  have hanswer : World.answer = answerIn id :=
    funext fun request => funext fun w => (answerIn_id request w).symm
  rw [perform, hanswer]

/-! ## Runs -/

section Keyed

variable {s : Store} (order : List AddressPool → List AddressPool)
  (readiness : Except OperatorError Readiness)

theorem Store.Keyed.serve (hs : s.Keyed) (request : Request) :
    (s.serve order readiness request).2.Keyed := by
  cases request with
  | store call =>
    rw [serve_store]
    exact hs.changes (changes_answer hs call)
  | probe object => exact hs
  | countWrite operation => exact hs

/-- Whatever a task asks for, objects stay under their keys. -/
theorem Store.Keyed.run {α : Type} (hs : s.Keyed) (t : Task α) :
    (t.run (Store.serve order readiness) s).2.Keyed :=
  t.only_true.run (fun request _ _ hs' => hs'.serve order readiness request) hs

end Keyed

/-- A world in which nothing fails and nobody else acts. -/
structure World.Calm (w : World) (readiness : Except OperatorError Readiness)
    (settings : Settings) : Prop where
  disturbances : w.disturbances = []
  readiness : w.readiness = readiness
  settings : w.operator.settings = settings

section Runs

variable {order : List AddressPool → List AddressPool}
  {readiness : Except OperatorError Readiness} {settings : Settings} {w : World}

theorem World.Calm.answerCall (h : w.Calm readiness settings) (call : StoreCall) :
    w.answerCall call = ((w.store.answer call).1, { w with store := (w.store.answer call).2 }) := by
  rw [World.answerCall, h.disturbances]
  rfl

/-- A calm world answers as its store does, and stays calm. -/
theorem World.Calm.answerIn (h : w.Calm readiness settings)
    (order : List AddressPool → List AddressPool) (request : Request) :
    (w.answerIn order request).1 = (w.store.serve order readiness request).1 ∧
      (w.answerIn order request).2.store = (w.store.serve order readiness request).2 ∧
      (w.answerIn order request).2.Calm readiness settings := by
  have hcalm : ∀ s : Store, { w with store := s }.Calm readiness settings :=
    fun _ => ⟨h.disturbances, h.readiness, h.settings⟩
  cases request with
  | store call =>
    rw [World.answerIn_store, Store.serve_store, h.answerCall]
    exact ⟨rfl, rfl, hcalm _⟩
  | probe object => exact ⟨h.readiness, rfl, h⟩
  | countWrite operation => exact ⟨rfl, rfl, h.disturbances, h.readiness, h.settings⟩

/-- A task in a calm world is served by the store alone. -/
theorem World.Calm.run {α : Type} (h : w.Calm readiness settings)
    (order : List AddressPool → List AddressPool) (t : Task α) :
    ∃ w', t.run (World.answerIn order) w =
        ((t.run (Store.serve order readiness) w.store).1, w') ∧
      w'.store = (t.run (Store.serve order readiness) w.store).2 ∧ w'.Calm readiness settings := by
  induction t generalizing w with
  | done a => exact ⟨w, rfl, rfl, h⟩
  | ask request next ih =>
    obtain ⟨hreply, hstore, hcalm⟩ := h.answerIn order request
    obtain ⟨w', hrun, hstore', hcalm'⟩ := ih _ hcalm
    refine ⟨w', ?_, ?_, hcalm'⟩
    · rw [Task.run_ask, hrun, Task.run_ask, hreply, hstore]
    · rw [Task.run_ask, hstore', hreply, hstore]

theorem World.Calm.perform {α : Type} (h : w.Calm readiness settings) (t : Task α) :
    ∃ w', w.perform t = ((t.run (Store.serve id readiness) w.store).1, w') ∧
      w'.store = (t.run (Store.serve id readiness) w.store).2 ∧ w'.Calm readiness settings := by
  rw [World.perform_eq]
  exact h.run id t

end Runs

/-! ## Turns -/

namespace World

/-- A turn of the pipeline of pools on a namespace, if pools are listed in an order of choice. -/
def turnOnNamespaceIn (order : List AddressPool → List AddressPool) (now : String)
    (w : World) (n : Namespace) : Except OperatorError Unit × Action × World :=
  let name := n.metadata.anyName
  let merge : Task (Except OperatorError AggregateOutcome) := .aggregate now w.attempts name
  conclude poolPipeline name (afterMerge name (merge.run (answerIn order) w))

theorem turnOnNamespaceIn_id (now : String) (w : World) (n : Namespace) :
    w.turnOnNamespaceIn id now n = w.turnOnNamespace now n := by
  rw [turnOnNamespace, runNamespace, perform_eq]
  rfl

/-- What a turn on a namespace comes to: its merge fails, or it is due again after the usual
delay. -/
theorem turnOnNamespaceIn_cases (order : List AddressPool → List AddressPool) (now : String)
    (w : World) (n : Namespace) :
    let name := n.metadata.anyName
    let merge := (Task.aggregate now w.attempts name).run (answerIn order) w
    (∃ e, merge.1 = .error e ∧
      w.turnOnNamespaceIn order now n = conclude poolPipeline name (.error e, merge.2)) ∨
    ∃ outcome, merge.1 = .ok outcome ∧
      w.turnOnNamespaceIn order now n = conclude poolPipeline name
        (.ok (.requeue merge.2.operator.settings.resync),
          { merge.2 with operator := merge.2.operator.afterSuccess poolPipeline name }) := by
  unfold turnOnNamespaceIn
  dsimp only
  rcases (Task.aggregate now w.attempts n.metadata.anyName).run (answerIn order) w with
    ⟨e | outcome, v⟩
  · exact .inl ⟨e, rfl, rfl⟩
  · exact .inr ⟨outcome, rfl, rfl⟩

/-- What a turn on an instance comes to: its validation fails, or the state of the instance decides
when it is due again, if it is there. -/
theorem turnOnInstance_cases (now : String) (w : World) (i : Instance) :
    let key := w.keyOfInstance i
    let validation := w.perform (.validate now w.attempts key)
    (∃ e, validation.1 = .error e ∧
      w.turnOnInstance now i = conclude instancePipeline key.display (.error e, validation.2)) ∨
    ∃ state, validation.1 = .ok state ∧
      w.turnOnInstance now i = conclude instancePipeline key.display
        (.ok (state.elim .awaitChange (·.action validation.2.operator.settings.resync)),
          { validation.2 with
            operator := validation.2.operator.afterSuccess instancePipeline key.display }) := by
  unfold turnOnInstance runInstance
  dsimp only
  rcases w.perform (.validate now w.attempts (w.keyOfInstance i)) with ⟨e | state, v⟩
  · exact .inl ⟨e, rfl, rfl⟩
  · refine .inr ⟨state, rfl, ?_⟩
    cases state <;> rfl

end World

end PoolOperator
