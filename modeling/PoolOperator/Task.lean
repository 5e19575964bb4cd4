import PoolOperator.Error
import PoolOperator.Identity
import PoolOperator.Store.Call

/-!
# Tasks

A task asks its surroundings one thing after the other, goes on with each reply, and ends with a
value. What answers is left open: a store in memory, replies of a server, or a schedule that
lets others act between two requests.
-/

namespace PoolOperator

/-- What a task may ask for. -/
inductive Request where
  | store (call : StoreCall)
  /-- Whether the dependencies of an instance are ready. -/
  | probe (object : Instance)
  /-- To count a write of an artifact. -/
  | countWrite (operation : String)

/-- What a request is answered with. -/
abbrev Request.Reply : Request → Type
  | .store call => Except StoreError call.Reply
  | .probe _ => Except OperatorError Readiness
  | .countWrite _ => Unit

/-- A value, or a request and what to do with the reply. -/
inductive Task (α : Type) where
  | done (value : α)
  | ask (request : Request) (next : request.Reply → Task α)

namespace Task

variable {α β σ : Type}

/-- A task that goes on where another one ends. -/
def bind (t : Task α) (f : α → Task β) : Task β :=
  match t with
  | done a => f a
  | ask request next => ask request fun reply => (next reply).bind f

instance : Monad Task where
  pure := done
  bind := bind

/-- Runs a task to its end. What answers may change with every request. -/
def run (answer : (request : Request) → σ → request.Reply × σ) : Task α → σ → α × σ
  | done a, s => (a, s)
  | ask request next, s =>
    let (reply, s) := answer request s
    run answer (next reply) s

/-- A call of the store. -/
def call (c : StoreCall) : Task (Except StoreError c.Reply) := ask (.store c) done

/-- The readiness of the dependencies of an instance. -/
def probe (object : Instance) : Task (Except OperatorError Readiness) := ask (.probe object) done

/-- Counts a write of an artifact. -/
def countWrite (operation : String) : Task Unit := ask (.countWrite operation) done

@[simp] theorem pure_eq (a : α) : (pure a : Task α) = done a := rfl

@[simp] theorem done_bind (a : α) (f : α → Task β) : done a >>= f = f a := rfl

@[simp] theorem ask_bind (request : Request) (next : request.Reply → Task α) (f : α → Task β) :
    ask request next >>= f = ask request fun reply => next reply >>= f := rfl

section Run

variable (answer : (request : Request) → σ → request.Reply × σ)

@[simp] theorem run_done (a : α) (s : σ) : run answer (done a) s = (a, s) := rfl

@[simp] theorem run_ask (request : Request) (next : request.Reply → Task α) (s : σ) :
    run answer (ask request next) s =
      run answer (next (answer request s).1) (answer request s).2 := rfl

@[simp] theorem run_bind (t : Task α) (f : α → Task β) (s : σ) :
    run answer (t >>= f) s = run answer (f (run answer t s).1) (run answer t s).2 := by
  induction t generalizing s with
  | done a => rfl
  | ask request next ih => exact ih _ _

end Run

end Task

end PoolOperator
