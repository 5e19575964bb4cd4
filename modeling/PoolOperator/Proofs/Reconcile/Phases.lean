import PoolOperator.Proofs.Reconcile.Report

/-!
# The two phases of a merge

A merge first settles the artifact, in as many attempts as this takes, and then reports verdicts.
Nothing that happens to a report leads back into the first phase.
-/

namespace PoolOperator

/-- What the first phase ends with: the pools that were listed, and what became of the artifact. -/
abbrev Settled := Except OperatorError (List AddressPool × AggregateOutcome)

namespace Task

variable {now ns : String} {attempts : Nat}

/-- One attempt at settling the artifact of a namespace. -/
def settleOnce (ns : String) : Task Settled := do
  match ← call (.listPools ns) with
  | .error e => return .error (.store e)
  | .ok pools =>
    match ← writeArtifact ns (.ofPools pools) with
    | .error e => return .error e
    | .ok outcome => return .ok (pools, outcome)

/-- Settles the artifact of a namespace, with a number of attempts left. -/
def settleWithin (total : Nat) (ns : String) : (left : Nat) → Task Settled
  | 0 => done (.error (.conflictsExhausted s!"ConfigMap {(Artifact.keyIn ns).display}" total))
  | left + 1 => do
    match ← settleOnce ns with
    | .error (.store (.conflict _)) => settleWithin total ns left
    | result => return result

/-- Reports the verdicts on the pools that the artifact was settled with. -/
def conclude (now : String) (attempts : Nat) (ns : String) :
    Settled → Task (Except OperatorError AggregateOutcome)
  | .error e => done (.error e)
  | .ok (pools, outcome) => do
    reportVerdicts attempts ns (PoolVerdict.ofPools now pools)
    return .ok outcome

theorem run_conclude {σ : Type} (answer : (request : Request) → σ → request.Reply × σ)
    (pools : List AddressPool) (outcome : AggregateOutcome) (s : σ) :
    (conclude now attempts ns (.ok (pools, outcome))).run answer s = (.ok outcome,
      ((reportVerdicts attempts ns (PoolVerdict.ofPools now pools)).run answer s).2) := by
  rw [conclude, run_bind]
  rfl

theorem aggregateOnce_eq :
    aggregateOnce now attempts ns = settleOnce ns >>= conclude now attempts ns := by
  rw [aggregateOnce, settleOnce, bind_assoc]
  congr 1
  funext reply
  cases reply with
  | error e => rfl
  | ok pools =>
    dsimp only
    rw [bind_assoc]
    congr 1
    funext result
    cases result with
    | error e => rfl
    | ok outcome => rfl

/-- **Reports come last.** A merge settles the artifact, attempt by attempt, and then reports. -/
theorem aggregateWithin_eq (left : Nat) :
    aggregateWithin now attempts ns left =
      settleWithin attempts ns left >>= conclude now attempts ns := by
  induction left with
  | zero => rfl
  | succ left ih =>
    rw [aggregateWithin, settleWithin, aggregateOnce_eq, bind_assoc, bind_assoc]
    congr 1
    funext settled
    cases settled with
    | error e =>
      -- a conflict leads to the next attempt, and any other error to the end
      cases e with
      | store e =>
        cases e with
        | conflict detail => exact ih
        | _ => rfl
      | _ => rfl
    | ok settled =>
      show (reportVerdicts attempts ns _ >>= fun _ => done _) >>= _ = _
      rw [bind_assoc]
      rfl

end Task

end PoolOperator
