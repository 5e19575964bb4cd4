import PoolOperator.Proofs.Reconcile.Serve
import PoolOperator.Proofs.Store.Version

/-!
# Calls amid others

The operator shares a store with others. What these do before a call and whether the call fails is
up to them, and they may know all calls made so far. Every call is noted, with the store it was made
to and with the reply.
-/

namespace PoolOperator

/-- What surrounds a call. -/
structure Circumstances where
  /-- What others do just before the call. -/
  edits : List StoreEdit := []
  /-- The error that the call ends with before it gets to the store. -/
  failure : Option StoreError := none
  /-- The order in which pools are listed. -/
  order : List AddressPool → List AddressPool := id

/-- A call that has been made. -/
structure Exchange where
  call : StoreCall
  /-- The store at the time of the call. -/
  store : Store
  reply : Except StoreError call.Reply

/-- What decides about the circumstances of a call, by the calls made before. -/
abbrev Surroundings := List Exchange → StoreCall → Circumstances

/-- A store and the calls that the operator has made of it, the first one first. -/
structure Scene where
  store : Store
  log : List Exchange := []

namespace Scene

variable (others : Surroundings) (readiness : Except OperatorError Readiness)

/-- The store that a call is made to. -/
def storeAt (x : Scene) (call : StoreCall) : Store := x.store.edits (others x.log call).edits

/-- What a call comes to. -/
def resultOf (x : Scene) (call : StoreCall) : Except StoreError call.Reply × Store :=
  match (others x.log call).failure with
  | some e => (.error e, x.storeAt others call)
  | none => (x.storeAt others call).serve (others x.log call).order readiness (.store call)

/-- The answer to a request. A call is noted. -/
def answer (request : Request) (x : Scene) : request.Reply × Scene :=
  match request with
  | .store call =>
    let (reply, s) := x.resultOf others readiness call
    (reply, ⟨s, x.log ++ [⟨call, x.storeAt others call, reply⟩]⟩)
  | .probe _ => (readiness, x)
  | .countWrite _ => ((), x)

variable {others readiness} {x : Scene} {call : StoreCall}

/-! ## One call -/

theorem answer_store (others : Surroundings) (readiness : Except OperatorError Readiness)
    (x : Scene) (call : StoreCall) :
    answer others readiness (.store call) x = ((x.resultOf others readiness call).1,
      ⟨(x.resultOf others readiness call).2,
        x.log ++ [⟨call, x.storeAt others call, (x.resultOf others readiness call).1⟩]⟩) := rfl

theorem answer_of_resultOf {reply : Except StoreError call.Reply} {s : Store}
    (h : x.resultOf others readiness call = (reply, s)) :
    answer others readiness (.store call) x =
      (reply, ⟨s, x.log ++ [⟨call, x.storeAt others call, reply⟩]⟩) := by
  rw [answer_store, h]

theorem reachable_storeAt (hx : x.store.Reachable) (call : StoreCall) :
    (x.storeAt others call).Reachable := hx.edits _

theorem changes_storeAt (hx : x.store.Keyed) (call : StoreCall) :
    Store.Changes x.store (x.storeAt others call) := Store.changes_edits _ hx

theorem serve_of_resultOf_eq_ok {reply : call.Reply} {s : Store}
    (h : x.resultOf others readiness call = (.ok reply, s)) :
    (x.storeAt others call).serve (others x.log call).order readiness (.store call) =
      (.ok reply, s) := by
  unfold resultOf at h
  split at h
  · cases h
  · exact h

end Scene

namespace Store

variable {s : Store} {order : List AddressPool → List AddressPool}
  {readiness : Except OperatorError Readiness}

/-- Whatever order pools are listed in, an answer leaves the store that it would leave anyway. -/
theorem serve_store_snd (call : StoreCall) :
    (s.serve order readiness (.store call)).2 = (s.answer call).2 := by
  rw [serve_store]

end Store

namespace Scene

variable {others : Surroundings} {readiness : Except OperatorError Readiness} {x : Scene}

/-- A call either leaves the store that it is made to, or leaves what the store answers. -/
theorem resultOf_snd (others : Surroundings) (readiness : Except OperatorError Readiness)
    (x : Scene) (call : StoreCall) :
    (x.resultOf others readiness call).2 = x.storeAt others call ∨
      (x.resultOf others readiness call).2 = ((x.storeAt others call).answer call).2 := by
  unfold resultOf
  split
  · exact .inl rfl
  · exact .inr (Store.serve_store_snd call)

theorem reachable_resultOf (hx : x.store.Reachable) (call : StoreCall) :
    (x.resultOf others readiness call).2.Reachable := by
  have hat : (x.storeAt others call).Reachable := reachable_storeAt hx call
  rcases resultOf_snd others readiness x call with h | h
  · rw [h]
    exact hat
  · rw [h]
    exact hat.answer call

theorem changes_resultOf (hx : x.store.Keyed) (call : StoreCall) :
    Store.Changes x.store (x.resultOf others readiness call).2 := by
  have hat : Store.Changes x.store (x.storeAt others call) := changes_storeAt hx call
  rcases resultOf_snd others readiness x call with h | h
  · rw [h]
    exact hat
  · rw [h]
    exact hat.trans (Store.changes_answer (hx.changes hat) call)

theorem reachable_answer (hx : x.store.Reachable) (request : Request) :
    (answer others readiness request x).2.store.Reachable := by
  cases request with
  | store call => exact reachable_resultOf hx call
  | probe object => exact hx
  | countWrite operation => exact hx

/-! ## Runs -/

variable (others readiness)

theorem reachable_run {α : Type} (hx : x.store.Reachable) (t : Task α) :
    (t.run (answer others readiness) x).2.store.Reachable :=
  t.only_true.run (Q := fun y : Scene => y.store.Reachable)
    (fun request _ _ hy => reachable_answer hy request) hx

theorem keyed_run {α : Type} (hx : x.store.Keyed) (t : Task α) :
    (t.run (answer others readiness) x).2.store.Keyed := by
  refine t.only_true.run (Q := fun y : Scene => y.store.Keyed) ?_ hx
  intro request y _ hy
  cases request with
  | store call => exact hy.changes (changes_resultOf hy call)
  | probe object => exact hy
  | countWrite operation => exact hy

/-- A task notes what it calls behind what has been noted. -/
theorem exists_log_run {α : Type} {P : Request → Prop} {t : Task α} (h : t.Only P) (x : Scene) :
    ∃ L, (t.run (answer others readiness) x).2.log = x.log ++ L ∧
      ∀ e ∈ L, P (.store e.call) := by
  refine h.run (Q := fun y : Scene => ∃ L, y.log = x.log ++ L ∧ ∀ e ∈ L, P (.store e.call)) ?_
    ⟨[], by simp, fun e he => nomatch he⟩
  rintro request y hrequest ⟨L, hlog, hL⟩
  cases request with
  | store call =>
    refine ⟨L ++ [⟨call, y.storeAt others call, (y.resultOf others readiness call).1⟩], ?_, ?_⟩
    · rw [answer_store, hlog, List.append_assoc]
    · intro e he
      rcases List.mem_append.mp he with he | he
      · exact hL e he
      · rw [List.mem_singleton.mp he]
        exact hrequest
  | probe object => exact ⟨L, hlog, hL⟩
  | countWrite operation => exact ⟨L, hlog, hL⟩

end Scene

end PoolOperator
