import PoolOperator.Task

/-!
# What tasks ask for

A task that makes requests of some kind only, whatever it is answered, keeps what is kept by such
requests.
-/

namespace PoolOperator.Task

variable {α β σ : Type}

/-- The value of a task that makes no more requests. -/
def result? : Task α → Option α
  | .done a => some a
  | .ask .. => none

theorem result?_eq_some {t : Task α} {a : α} : t.result? = some a ↔ t = .done a := by
  cases t with
  | done b => simp [result?]
  | ask request next => exact ⟨nofun, nofun⟩

/-- Whether all requests of a task, whatever it is answered, satisfy a condition. -/
def Only (P : Request → Prop) : Task α → Prop
  | .done _ => True
  | .ask request next => P request ∧ ∀ reply, (next reply).Only P

theorem only_true (t : Task α) : t.Only fun _ => True := by
  induction t with
  | done a => exact trivial
  | ask request next ih => exact ⟨trivial, ih⟩

theorem only_call {P : Request → Prop} {c : StoreCall} (h : P (.store c)) : (call c).Only P :=
  ⟨h, fun _ => trivial⟩

theorem Only.mono {P P' : Request → Prop} {t : Task α} (h : t.Only P)
    (himp : ∀ request, P request → P' request) : t.Only P' := by
  induction t with
  | done a => exact trivial
  | ask request next ih => exact ⟨himp request h.1, fun reply => ih reply (h.2 reply)⟩

theorem Only.bind {P : Request → Prop} {t : Task α} (h : t.Only P) {f : α → Task β}
    (hf : ∀ a, (f a).Only P) : (t >>= f).Only P := by
  induction t with
  | done a => exact hf a
  | ask request next ih => exact ⟨h.1, fun reply => ih reply (h.2 reply)⟩

/-- A run of a task keeps what each of its requests keeps. -/
theorem Only.run {P : Request → Prop} {t : Task α} (h : t.Only P)
    {answer : (request : Request) → σ → request.Reply × σ} {Q : σ → Prop}
    (hkeep : ∀ request s, P request → Q s → Q (answer request s).2) :
    ∀ {s : σ}, Q s → Q (t.run answer s).2 := by
  induction t with
  | done a =>
    intro s hs
    exact hs
  | ask request next ih =>
    intro s hs
    exact ih _ (h.2 _) (hkeep request s h.1 hs)

/-- Two runs of a task stay related as states by a view, if each of its requests is answered in the
same way on both sides. -/
theorem Only.run_view {τ : Type} {P : Request → Prop} {t : Task α} (h : t.Only P)
    {answer : (request : Request) → σ → request.Reply × σ}
    {answer' : (request : Request) → τ → request.Reply × τ} (view : σ → τ)
    (hanswer : ∀ request s, P request →
      answer' request (view s) = ((answer request s).1, view (answer request s).2)) :
    ∀ s, t.run answer' (view s) = ((t.run answer s).1, view (t.run answer s).2) := by
  induction t with
  | done a =>
    intro s
    rfl
  | ask request next ih =>
    intro s
    rw [run_ask, run_ask, hanswer request s h.1]
    exact ih _ (h.2 _) _

theorem bind_assoc {γ : Type} (t : Task α) (f : α → Task β) (g : β → Task γ) :
    t >>= f >>= g = t >>= fun a => f a >>= g := by
  induction t with
  | done a => rfl
  | ask request next ih =>
    rw [ask_bind, ask_bind, ask_bind]
    congr 1
    funext reply
    exact ih reply

/-- A task goes on with the reply to its call. -/
theorem run_call_bind {answer : (request : Request) → σ → request.Reply × σ}
    {c : StoreCall} {s s' : σ} {reply : Except StoreError c.Reply}
    (h : answer (.store c) s = (reply, s')) (f : Except StoreError c.Reply → Task α) :
    (call c >>= f).run answer s = (f reply).run answer s' := by
  show (f (answer (.store c) s).1).run answer (answer (.store c) s).2 = _
  rw [h]

end PoolOperator.Task
