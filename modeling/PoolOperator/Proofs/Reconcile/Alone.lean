import PoolOperator.Proofs.Reconcile.Calls

/-!
# Tasks without company

Nobody but the task writes to the store, but each of its calls may fail before it gets there, and
pools may be listed in any order. What a task leaves then is shown part by part, from what each part
leaves.
-/

namespace PoolOperator

/-- What holds at the end of a task that has the store to itself, whichever of its calls fail, if
pools are listed in an order of choice. -/
def Task.Ends {α : Type} (order : List AddressPool → List AddressPool) (Q : α → Store → Prop) :
    Task α → Store → Prop
  | .done a, s => Q a s
  | .ask (.store c) next, s =>
    (∀ e, (next (.error e)).Ends order Q s) ∧
      (next (c.ordered order (s.answer c).1)).Ends order Q (s.answer c).2
  | .ask (.probe _) next, s => ∀ readiness, (next readiness).Ends order Q s
  | .ask (.countWrite _) next, s => (next ()).Ends order Q s

namespace Task

variable {α β : Type} {order : List AddressPool → List AddressPool} {Q Q' : α → Store → Prop}
  {R : β → Store → Prop} {s : Store}

theorem ends_bind {t : Task α} {f : α → Task β} :
    (t >>= f).Ends order R s ↔ t.Ends order (fun a => (f a).Ends order R) s := by
  induction t generalizing s with
  | done a => exact Iff.rfl
  | ask request next ih =>
    cases request with
    | store c => exact and_congr (forall_congr' fun e => ih _) (ih _)
    | probe object => exact forall_congr' fun readiness => ih _
    | countWrite operation => exact ih ()

theorem Ends.mono {t : Task α} (h : t.Ends order Q s) (hQ : ∀ a s, Q a s → Q' a s) :
    t.Ends order Q' s := by
  induction t generalizing s with
  | done a => exact hQ a s h
  | ask request next ih =>
    cases request with
    | store c => exact ⟨fun e => ih _ (h.1 e), ih _ h.2⟩
    | probe object => exact fun readiness => ih _ (h readiness)
    | countWrite operation => exact ih () h

/-- A call either fails or is answered. -/
theorem ends_call_bind {c : StoreCall} {f : Except StoreError c.Reply → Task α}
    {reply : Except StoreError c.Reply} {s' : Store} (h : s.answer c = (reply, s')) :
    (call c >>= f).Ends order Q s ↔
      (∀ e, (f (.error e)).Ends order Q s) ∧ (f (c.ordered order reply)).Ends order Q s' := by
  show (∀ e, (f (.error e)).Ends order Q s) ∧
    (f (c.ordered order (s.answer c).1)).Ends order Q (s.answer c).2 ↔ _
  rw [h]

end Task

/-! ## In a world -/

/-- Whether nobody else acts at the calls of the operator. Its calls may fail. -/
def World.IsAlone (w : World) : Prop := ∀ d ∈ w.disturbances, ∃ e, d.2 = .fail e

/-- A call in a world without company fails, or is answered by the store. -/
theorem World.IsAlone.answerCall {w : World} (h : w.IsAlone) (c : StoreCall) :
    (w.answerCall c).2.IsAlone ∧
      ((∃ e, (w.answerCall c).1 = .error e ∧ (w.answerCall c).2.store = w.store) ∨
        (w.answerCall c).1 = (w.store.answer c).1 ∧
          (w.answerCall c).2.store = (w.store.answer c).2) := by
  obtain ⟨ds, hanswer, hds, -⟩ := w.answerCall_eq c
  rw [hanswer]
  refine ⟨fun d hd => h d (hds hd), ?_⟩
  have hcoming := disturbanceAt_of_forall (P := fun d => d = .meanwhile [] ∨ ∃ e, d = .fail e)
    (.inl rfl) (fun d hd => .inr (h d hd)) c.method 0
  rcases hcoming with hnothing | ⟨e, he⟩
  · rw [hnothing]
    exact .inr ⟨rfl, rfl⟩
  · rw [he]
    exact .inl ⟨e, rfl, rfl⟩

/-- What holds at the end of a task without company holds in a world without company. -/
theorem Task.Ends.run {α : Type} {order : List AddressPool → List AddressPool}
    {Q : α → Store → Prop} {t : Task α} {w : World} (hw : w.IsAlone)
    (h : t.Ends order Q w.store) :
    Q (t.run (World.answerIn order) w).1 (t.run (World.answerIn order) w).2.store := by
  induction t generalizing w with
  | done a => exact h
  | ask request next ih =>
    cases request with
    | store c =>
      rw [Task.run_ask, World.answerIn_store]
      obtain ⟨halone, ⟨e, hreply, hstore⟩ | ⟨hreply, hstore⟩⟩ := hw.answerCall c
      · refine ih _ halone ?_
        rw [hreply, hstore, StoreCall.ordered_error]
        exact h.1 e
      · refine ih _ halone ?_
        rw [hreply, hstore]
        exact h.2
    | probe object => exact ih _ hw (h w.readiness)
    | countWrite operation => exact ih () hw h

end PoolOperator
