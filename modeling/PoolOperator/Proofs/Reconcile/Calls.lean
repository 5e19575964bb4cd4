import PoolOperator.Proofs.Reconcile.Serve

/-!
# Calls in a world

What happens at a call in a world is what comes next for its method, and waits in one list with what
comes for other methods. Of what the operator remembers, a task changes what it counts only.
-/

namespace PoolOperator

/-! ## What happens at a call -/

/-- What becomes of a call. -/
inductive Fate where
  | answered
  /-- The call ends with an error before it gets to the store. -/
  | failed (e : StoreError)
  /-- The store acts on the call, but an error takes the place of the answer. -/
  | lost (e : StoreError)

/-- The reply to a request, and the store afterwards. -/
def Store.reply (fate : Fate) (readiness : Except OperatorError Readiness) (request : Request)
    (s : Store) : request.Reply × Store :=
  match request with
  | .store call =>
    match fate with
    | .answered => s.answer call
    | .failed e => (.error e, s)
    | .lost e => (.error e, (s.answer call).2)
  | .probe _ => (readiness, s)
  | .countWrite _ => ((), s)

namespace Disturbance

/-- What others do at a call. -/
def edits : Disturbance → List StoreEdit
  | .fail _ => []
  | .meanwhile es => es

/-- What becomes of the call. -/
def fate : Disturbance → Fate
  | .fail e => .failed e
  | .meanwhile _ => .answered

end Disturbance

/-- What waits for the calls of a method, the first one first. -/
def waiting {α : Type} (ds : List (StoreMethod × α)) (method : StoreMethod) : List α :=
  (ds.filter (·.1 == method)).map (·.2)

/-- What happens at the call of a method that comes behind so many others; nobody comes if nothing
else is said. -/
def disturbanceAt (ds : List (StoreMethod × Disturbance)) (method : StoreMethod) (n : Nat) :
    Disturbance :=
  (waiting ds method).getD n (.meanwhile [])

theorem waiting_cons {α : Type} (m : StoreMethod) (a : α) (ds : List (StoreMethod × α))
    (method : StoreMethod) : waiting ((m, a) :: ds) method =
      if m = method then a :: waiting ds method else waiting ds method := by
  rw [waiting, List.filter_cons]
  by_cases h : m = method
  · rw [if_pos h, if_pos (beq_iff_eq.mpr h)]
    rfl
  · rw [if_neg h, if_neg (by simpa using h)]
    rfl

/-- What is taken out of a list is the first one that waits for its method. -/
theorem takeFirst_eq {α : Type} (method : StoreMethod) (ds : List (StoreMethod × α)) :
    (takeFirst method ds).1 = (waiting ds method).head? ∧
      ∀ m, waiting (takeFirst method ds).2 m =
        if m = method then (waiting ds method).tail else waiting ds m := by
  induction ds with
  | nil => exact ⟨rfl, fun m => (ite_self _).symm⟩
  | cons d ds ih =>
    obtain ⟨m', a⟩ := d
    rw [takeFirst, waiting_cons]
    by_cases hm' : m' = method
    · rw [if_pos hm', if_pos hm']
      refine ⟨rfl, fun m => ?_⟩
      rw [waiting_cons]
      split
      · rename_i hm
        rw [hm]
        rfl
      · rename_i hm
        rw [if_neg fun h => hm (h.symm.trans hm')]
    · rw [if_neg hm', if_neg hm']
      refine ⟨ih.1, fun m => ?_⟩
      dsimp only
      rw [waiting_cons, waiting_cons, ih.2]
      by_cases hm : m = method
      · rw [if_pos hm, if_pos hm, if_neg fun h => hm' (h.trans hm)]
      · rw [if_neg hm, if_neg hm]

theorem takeFirst_subset {α : Type} (method : StoreMethod) (ds : List (StoreMethod × α)) :
    (takeFirst method ds).2 ⊆ ds := by
  induction ds with
  | nil => exact List.Subset.refl []
  | cons d ds ih =>
    obtain ⟨m, a⟩ := d
    rw [takeFirst]
    split
    · exact List.subset_cons_self _ _
    · exact List.cons_subset_cons _ ih

/-- What is true of all that waits, and of nothing, is true of what happens at any call. -/
theorem disturbanceAt_of_forall {P : Disturbance → Prop} {ds : List (StoreMethod × Disturbance)}
    (hnothing : P (.meanwhile [])) (h : ∀ d ∈ ds, P d.2) (method : StoreMethod) (n : Nat) :
    P (disturbanceAt ds method n) := by
  rw [disturbanceAt, List.getD_eq_getElem?_getD]
  cases hget : (waiting ds method)[n]? with
  | none => exact hnothing
  | some d =>
    obtain ⟨d', hmem, rfl⟩ := List.mem_map.mp (List.mem_of_getElem? hget)
    exact h d' (List.mem_filter.mp hmem).1

/-! ## In a world -/

/-- The answer to a call at which something happens, if some disturbances are left. -/
def World.served (w : World) (d : Disturbance) (ds : List (StoreMethod × Disturbance))
    (c : StoreCall) : Except StoreError c.Reply × World :=
  let (reply, s) := (w.store.edits d.edits).reply d.fate w.readiness (.store c)
  (reply, { w with store := s, disturbances := ds })

/-- What happens at a call is what comes next for its method. -/
theorem World.answerCall_eq (w : World) (c : StoreCall) : ∃ ds,
    w.answerCall c = w.served (disturbanceAt w.disturbances c.method 0) ds c ∧
      ds ⊆ w.disturbances ∧ ∀ m n, disturbanceAt ds m n =
        disturbanceAt w.disturbances m (if m = c.method then n + 1 else n) := by
  obtain ⟨hfirst, hrest⟩ := takeFirst_eq c.method w.disturbances
  have hmem := takeFirst_subset c.method w.disturbances
  have hlater (ds : List (StoreMethod × Disturbance))
      (hds : ∀ m, waiting ds m = if m = c.method then (waiting w.disturbances c.method).tail
        else waiting w.disturbances m) (m : StoreMethod) (n : Nat) : disturbanceAt ds m n =
          disturbanceAt w.disturbances m (if m = c.method then n + 1 else n) := by
    rw [disturbanceAt, disturbanceAt, hds]
    split
    · rename_i heq
      rw [heq]
      cases waiting w.disturbances c.method <;> rfl
    · rfl
  have hnow : disturbanceAt w.disturbances c.method 0 =
      (waiting w.disturbances c.method).head?.getD (.meanwhile []) := by
    rw [disturbanceAt]
    cases waiting w.disturbances c.method <;> rfl
  rw [hnow, ← hfirst, World.answerCall]
  rcases htake : takeFirst c.method w.disturbances with ⟨_ | e | es, ds⟩
  all_goals rw [htake] at hfirst hrest hmem
  · refine ⟨w.disturbances, rfl, List.Subset.refl _, hlater _ fun m => ?_⟩
    split
    · rename_i heq
      rw [heq, List.head?_eq_none_iff.mp hfirst.symm]
      rfl
    · rfl
  · exact ⟨ds, rfl, hmem, hlater ds hrest⟩
  · exact ⟨ds, rfl, hmem, hlater ds hrest⟩

/-- Calls leave alone what the operator remembers. -/
theorem World.operator_answerCall (w : World) (c : StoreCall) :
    (w.answerCall c).2.operator = w.operator := by
  unfold World.answerCall
  split <;> rfl

/-- Whatever it asks for, a task changes no more of the operator than what has been counted. -/
theorem World.operator_run {α : Type} (order : List AddressPool → List AddressPool) (w : World)
    (t : Task α) : ∃ metrics,
      (t.run (answerIn order) w).2.operator = { w.operator with metrics := metrics } := by
  refine t.only_true.run (Q := fun v : World => ∃ metrics,
    v.operator = { w.operator with metrics := metrics }) ?_ ⟨_, rfl⟩
  rintro request v _ ⟨metrics, hv⟩
  cases request with
  | store c =>
    rw [answerIn_store]
    exact ⟨metrics, (v.operator_answerCall c).trans hv⟩
  | probe object => exact ⟨metrics, hv⟩
  | countWrite operation =>
    refine ⟨metrics.countArtifactWrite operation, ?_⟩
    show { v.operator with metrics := v.operator.metrics.countArtifactWrite operation } = _
    rw [hv]

theorem World.settings_run {α : Type} (order : List AddressPool → List AddressPool) (w : World)
    (t : Task α) : (t.run (answerIn order) w).2.operator.settings = w.operator.settings := by
  obtain ⟨metrics, h⟩ := w.operator_run order t
  rw [h]

theorem World.settings_perform {α : Type} (w : World) (t : Task α) :
    (w.perform t).2.operator.settings = w.operator.settings := by
  rw [perform_eq]
  exact w.settings_run id t

/-- A task that counts nothing leaves alone what the operator remembers. -/
theorem Task.Only.operator_perform {α : Type} {t : Task α}
    (h : t.Only fun request => ∀ operation, request ≠ .countWrite operation) (w : World) :
    (w.perform t).2.operator = w.operator := by
  refine h.run (Q := fun v : World => v.operator = w.operator) ?_ rfl
  intro request v hrequest hv
  refine Eq.trans ?_ hv
  cases request with
  | store c => exact v.operator_answerCall c
  | probe object => rfl
  | countWrite operation => exact absurd rfl (hrequest operation)

end PoolOperator
