import PoolOperator.Proofs.Reconcile.Faults
import PoolOperator.Proofs.Reconcile.Reporter
import PoolOperator.Reconcile.Validate

/-!
# How many attempts there are

An attempt at a merge starts with a list of the pools, and an attempt at a report with a look at its
object. Whatever the replies are, there is one attempt at least, and there are no more than allowed.
-/

namespace PoolOperator

namespace Task

variable {α β σ : Type} (answer : (request : Request) → σ → request.Reply × σ)

/-! ## The requests of a run -/

/-- The requests that a task makes on a run, in order. -/
def requests : Task α → σ → List Request
  | done _, _ => []
  | ask request next, s =>
    request :: requests (next (answer request s).1) (answer request s).2

theorem requests_bind (t : Task α) (f : α → Task β) (s : σ) :
    (t >>= f).requests answer s =
      t.requests answer s ++ (f (t.run answer s).1).requests answer (t.run answer s).2 := by
  induction t generalizing s with
  | done a => rfl
  | ask request next ih => exact congrArg (request :: ·) (ih _ _)

variable {answer} in
theorem Only.requests {P : Request → Prop} {t : Task α} (h : t.Only P) {s : σ} :
    ∀ request ∈ t.requests answer s, P request := by
  induction t generalizing s with
  | done a => exact List.forall_mem_nil _
  | ask request next ih => exact List.forall_mem_cons.mpr ⟨h.1, ih _ (h.2 _)⟩

/-- How many of some requests are a certain call. -/
def callsOf (c : StoreCall) (L : List Request) : Nat :=
  L.countP fun
    | .store c' => c' = c
    | _ => false

section CallsOf

variable {c c' : StoreCall} {L L' : List Request} {t : Task α} {P : Request → Prop} {s : σ}

theorem callsOf_append : callsOf c (L ++ L') = callsOf c L + callsOf c L' := List.countP_append

theorem callsOf_cons_self : callsOf c (.store c :: L) = callsOf c L + 1 :=
  List.countP_cons_of_pos (decide_eq_true rfl)

theorem callsOf_cons_of_ne (h : c' ≠ c) : callsOf c (.store c' :: L) = callsOf c L :=
  List.countP_cons_of_neg (by simpa using h)

variable {answer} in
/-- A call that a task never makes is none of its requests. -/
theorem Only.callsOf_eq_zero (h : t.Only P) (hc : ¬P (.store c)) :
    callsOf c (t.requests answer s) = 0 := by
  refine List.countP_eq_zero.mpr fun request hrequest => ?_
  have hP := h.requests request hrequest
  split
  · rename_i c'
    rw [decide_eq_true_eq]
    rintro rfl
    exact hc hP
  · exact Bool.false_ne_true

end CallsOf

/-- Whether some requests make a call at least once, and so many times at most. -/
def Tries (attempts : Nat) (c : StoreCall) (L : List Request) : Prop :=
  1 ≤ callsOf c L ∧ callsOf c L ≤ attempts

/-! ## Attempts at a report -/

section Report

variable [Reported α] [Store.WatchedPlaced α] [Called α] {key : ObjectKey}
  {desired : List Condition}

theorem requests_fetch (s : σ) : (Reported.fetch (α := α) key).requests answer s =
    [.store (Called.reading α key)] := by
  rw [Called.fetch_eq]
  rfl

theorem requests_writeStatus (x : α) (s : σ) : (Reported.writeStatus x).requests answer s =
    [.store (Called.writing x)] := by
  rw [Called.writeStatus_eq]
  rfl

theorem writing_ne_reading (x : α) : Called.writing x ≠ Called.reading α key := by
  intro h
  have hwrite := Called.isStatusWrite_writing x
  rw [h, Called.isStatusWrite_reading] at hwrite
  cases hwrite

/-- A report looks at its object once per attempt. -/
theorem callsOf_reportWithin (total left : Nat) (s : σ) :
    callsOf (Called.reading α key) ((reportWithin α key desired total left).requests answer s) ≤
        left ∧
      (0 < left → 0 < callsOf (Called.reading α key)
        ((reportWithin α key desired total left).requests answer s)) := by
  induction left generalizing s with
  | zero => exact ⟨Nat.le_refl 0, nofun⟩
  | succ left ih =>
    rw [reportWithin, requests_bind, requests_fetch, List.singleton_append, callsOf_cons_self]
    refine ⟨Nat.succ_le_succ ?_, fun _ => Nat.succ_pos _⟩
    -- what follows the look makes no other one, up to the next attempt
    rcases (Reported.fetch (α := α) key).run answer s with ⟨e | _ | current, s'⟩
    · exact Nat.zero_le left
    · exact Nat.zero_le left
    · dsimp only
      cases Condition.merge? (conditionsOf current) desired with
      | none => exact Nat.zero_le left
      | some merged =>
        dsimp only
        rw [requests_bind, requests_writeStatus, List.singleton_append,
          callsOf_cons_of_ne (writing_ne_reading _)]
        rcases (Reported.writeStatus (withConditions current merged)).run answer s' with
          ⟨e | updated, s''⟩
        · cases e with
          | conflict detail => exact (ih s'').1
          | _ => exact Nat.zero_le left
        · exact Nat.zero_le left

theorem tries_report {attempts : Nat} (h : 0 < attempts) (s : σ) :
    Tries attempts (Called.reading α key)
      ((report α attempts key desired).requests answer s) :=
  have hcalls := callsOf_reportWithin answer attempts attempts s
  ⟨hcalls.2 h, hcalls.1⟩

end Report

/-! ## Attempts at a merge -/

variable {answer} in
theorem callsOf_settleOnce (ns : String) (s : σ) :
    callsOf (.listPools ns) ((settleOnce ns).requests answer s) = 1 := by
  rw [settleOnce, requests_bind]
  show callsOf _ ([.store (.listPools ns)] ++ _) = 1
  rw [List.singleton_append, callsOf_cons_self]
  -- behind the list there are requests about the artifact only
  refine congrArg (· + 1) ?_
  rcases (call (.listPools ns)).run answer s with ⟨e | pools, s'⟩
  · rfl
  · dsimp only
    rw [requests_bind, callsOf_append, (isOnArtifact_writeArtifact ns _).callsOf_eq_zero id,
      Nat.zero_add]
    cases ((writeArtifact ns (.ofPools pools)).run answer s').1 <;> rfl

/-- The first phase of a merge lists the pools once per attempt. -/
theorem callsOf_settleWithin (total : Nat) (ns : String) (left : Nat) (s : σ) :
    callsOf (.listPools ns) ((settleWithin total ns left).requests answer s) ≤ left ∧
      (0 < left →
        0 < callsOf (.listPools ns) ((settleWithin total ns left).requests answer s)) := by
  induction left generalizing s with
  | zero => exact ⟨Nat.le_refl 0, nofun⟩
  | succ left ih =>
    rw [settleWithin, requests_bind, callsOf_append, callsOf_settleOnce, Nat.add_comm]
    refine ⟨Nat.succ_le_succ ?_, fun _ => Nat.succ_pos _⟩
    rcases (settleOnce ns).run answer s with ⟨result, s'⟩
    dsimp only
    split
    · exact (ih s').1
    · exact Nat.zero_le left

/-! ## Reports of a run -/

/-- Whether some requests are those of a report with a number of attempts, and keep to it. -/
def IsReport (α : Type) [Reported α] [Store.WatchedPlaced α] [Called α] (attempts : Nat)
    (L : List Request) : Prop :=
  ∃ key desired s, L = (report α attempts key desired).requests answer s ∧
    Tries attempts (Called.reading α key) L

/-- Whether some requests are others, which write no status, and then those of reports, one after
another. -/
def EndsInReports (α : Type) [Reported α] [Store.WatchedPlaced α] [Called α] (attempts : Nat)
    (L : List Request) : Prop :=
  ∃ (first : List Request) (reports : List (List Request)), L = first ++ reports.flatten ∧
    (∀ x : α, .store (Called.writing x) ∉ first) ∧ ∀ R ∈ reports, IsReport answer α attempts R

section Reports

variable {answer} {attempts : Nat} {L : List Request}

theorem EndsInReports.of_reports [Reported α] [Store.WatchedPlaced α] [Called α]
    {reports : List (List Request)} (h : ∀ R ∈ reports, IsReport answer α attempts R) :
    EndsInReports answer α attempts reports.flatten :=
  ⟨[], reports, rfl, fun _ => List.not_mem_nil, h⟩

theorem endsInReports_nil [Reported α] [Store.WatchedPlaced α] [Called α] :
    EndsInReports answer α attempts [] := .of_reports (List.forall_mem_nil _)

/-- A request that writes no status may stand before. -/
theorem EndsInReports.cons [Reported α] [Store.WatchedPlaced α] [Called α] {request : Request}
    (hrequest : ∀ x : α, request ≠ .store (Called.writing x))
    (h : EndsInReports answer α attempts L) : EndsInReports answer α attempts (request :: L) := by
  obtain ⟨first, reports, rfl, hfirst, hall⟩ := h
  refine ⟨request :: first, reports, rfl, ?_, hall⟩
  intro x hx
  rcases List.mem_cons.mp hx with heq | hx
  · exact hrequest x heq.symm
  · exact hfirst x hx

variable (answer) (h : 0 < attempts)
include h

theorem isReport_report [Reported α] [Store.WatchedPlaced α] [Called α] (key : ObjectKey)
    (desired : List Condition) (s : σ) :
    IsReport answer α attempts ((report α attempts key desired).requests answer s) :=
  ⟨key, desired, s, rfl, tries_report answer h s⟩

theorem exists_reports_reportVerdicts (ns : String) (vs : List PoolVerdict) (s : σ) :
    ∃ reports : List (List Request),
      (reportVerdicts attempts ns vs).requests answer s = reports.flatten ∧
        ∀ R ∈ reports, IsReport answer AddressPool attempts R := by
  induction vs generalizing s with
  | nil => exact ⟨[], rfl, List.forall_mem_nil _⟩
  | cons v vs ih =>
    have hfirst := isReport_report (α := AddressPool) answer h ⟨ns, v.name⟩ v.conditions s
    obtain ⟨reports, hreports, hall⟩ :=
      ih ((report AddressPool attempts ⟨ns, v.name⟩ v.conditions).run answer s).2
    refine ⟨_ :: reports, ?_, List.forall_mem_cons.mpr ⟨hfirst, hall⟩⟩
    rw [reportVerdicts, requests_bind, hreports, List.flatten_cons]

/-- **Attempts of a merge.** The pools are listed at least once, and no more often than allowed, and
so it is with the looks of each report. There are no other writes of statuses. -/
theorem tries_aggregate (now ns : String) (s : σ) :
    Tries attempts (.listPools ns) ((aggregate now attempts ns).requests answer s) ∧
      EndsInReports answer AddressPool attempts
        ((aggregate now attempts ns).requests answer s) := by
  have hsettling := isSettling_settleWithin attempts ns attempts
  have hcalls := callsOf_settleWithin answer attempts ns attempts s
  obtain ⟨reports, hreports, hnone, hall⟩ : ∃ reports : List (List Request),
      (aggregate now attempts ns).requests answer s =
          (settleWithin attempts ns attempts).requests answer s ++ reports.flatten ∧
        callsOf (.listPools ns) reports.flatten = 0 ∧
        ∀ R ∈ reports, IsReport answer AddressPool attempts R := by
    rw [aggregate, aggregateWithin_eq, requests_bind]
    rcases (settleWithin attempts ns attempts).run answer s with ⟨e | ⟨pools, outcome⟩, s'⟩
    · exact ⟨[], rfl, rfl, List.forall_mem_nil _⟩
    · obtain ⟨reports, hreports, hall⟩ :=
        exists_reports_reportVerdicts answer h ns (PoolVerdict.ofPools now pools) s'
      refine ⟨reports, ?_, ?_, hall⟩
      · rw [conclude, requests_bind, hreports]
        exact congrArg _ (List.append_nil _)
      · rw [← hreports]
        exact (isAside_reportVerdicts attempts ns _).callsOf_eq_zero id
  rw [hreports, Tries, callsOf_append, hnone]
  refine ⟨⟨hcalls.2 h, hcalls.1⟩, _, reports, rfl, ?_, hall⟩
  intro pool hpool
  exact (hsettling.requests _ hpool).not_isAside trivial

theorem endsInReports_settleIn (key : ObjectKey) (state : IdentityState) (cs : List Condition)
    (s : σ) :
    EndsInReports answer Instance attempts
      ((settleIn attempts key state cs).requests answer s) := by
  have hrequests : (settleIn attempts key state cs).requests answer s =
      [(report Instance attempts key cs).requests answer s].flatten := by
    rw [settleIn, requests_bind, List.flatten_singleton]
    rcases (report Instance attempts key cs).run answer s with ⟨e | told, s'⟩
    · exact List.append_nil _
    · exact List.append_nil _
  rw [hrequests]
  exact .of_reports (List.forall_mem_singleton.mpr (isReport_report answer h key cs s))

/-- **Attempts of a validation.** It looks at the instance, and may ask for its dependencies and
report once. -/
theorem endsInReports_validate (now : String) (key : ObjectKey) (s : σ) :
    EndsInReports answer Instance attempts ((validate now attempts key).requests answer s) := by
  rw [validate, requests_bind]
  show EndsInReports answer Instance attempts (.store (.getInstance key) :: _)
  refine .cons (fun _ heq => by cases heq) ?_
  rcases (call (.getInstance key)).run answer s with ⟨e | _ | object, s'⟩
  · exact endsInReports_nil
  · exact endsInReports_nil
  · dsimp only
    split
    · rw [requests_bind]
      show EndsInReports answer Instance attempts (.probe object :: _)
      refine .cons (fun _ heq => by cases heq) ?_
      rcases (probe object).run answer s' with ⟨e | readiness, s''⟩
      · exact endsInReports_nil
      · exact endsInReports_settleIn answer h _ _ _ _
    · split
      · exact endsInReports_nil
      · exact endsInReports_settleIn answer h _ _ _ _

end Reports

/-- Whether merges, validations and reports that are allowed a number of attempts keep to it, and
make one at least, whatever they are answered. -/
structure KeepsTo (attempts : Nat) : Prop where
  merge {σ : Type} (answer : (request : Request) → σ → request.Reply × σ) (now ns : String)
    (s : σ) :
    Tries attempts (.listPools ns) ((aggregate now attempts ns).requests answer s) ∧
      EndsInReports answer AddressPool attempts ((aggregate now attempts ns).requests answer s)
  validation {σ : Type} (answer : (request : Request) → σ → request.Reply × σ) (now : String)
    (key : ObjectKey) (s : σ) :
    EndsInReports answer Instance attempts ((validate now attempts key).requests answer s)
  report {σ : Type} (answer : (request : Request) → σ → request.Reply × σ) (key : ObjectKey)
    (desired : List Condition) (s : σ) :
    Tries attempts (.getPool key) ((report AddressPool attempts key desired).requests answer s) ∧
      Tries attempts (.getInstance key) ((report Instance attempts key desired).requests answer s)

theorem keepsTo {attempts : Nat} (h : 0 < attempts) : KeepsTo attempts where
  merge answer now ns s := tries_aggregate answer h now ns s
  validation answer now key s := endsInReports_validate answer h now key s
  report answer _ _ s :=
    ⟨tries_report (α := AddressPool) answer h s, tries_report (α := Instance) answer h s⟩

end Task

end PoolOperator
