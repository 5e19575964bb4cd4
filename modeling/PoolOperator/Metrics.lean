import PoolOperator.SortedMap

/-!
# Metrics

Counters with labels, and their text. A family without samples is not written.
-/

namespace PoolOperator

/-- The labels of a counter of turns. -/
structure TurnLabels where
  pipeline : String
  result : String
deriving DecidableEq, Repr, Inhabited

namespace TurnLabels

instance : Ord TurnLabels := ⟨compareLex (compareOn pipeline) (compareOn result)⟩

instance : Std.TransOrd TurnLabels :=
  inferInstanceAs
    (Std.TransCmp (compareLex (compareOn TurnLabels.pipeline) (compareOn TurnLabels.result)))

instance : Std.LawfulEqOrd TurnLabels where
  eq_of_compare {a b} h := by
    have h : compareLex (compareOn TurnLabels.pipeline) (compareOn TurnLabels.result) a b = .eq := h
    obtain ⟨h₁, h₂⟩ : compare a.pipeline b.pipeline = .eq ∧ compare a.result b.result = .eq := by
      simpa [compareLex, compareOn, Ordering.then_eq_eq] using h
    cases a; cases b
    simp_all

end TurnLabels

/-- What has been counted. Words of 64 bits count alike as long as they stay below `2 ^ 64`. -/
structure Metrics where
  /-- The turns of the pipelines, by their results. -/
  turns : SortedMap TurnLabels Nat := ∅
  /-- The writes of artifacts, by operation. -/
  artifactWrites : SortedMap String Nat := ∅
deriving DecidableEq, Inhabited

namespace Metrics

/-- A counter that is one higher. -/
def increment {κ : Type} [Ord κ] [Std.TransOrd κ] (m : SortedMap κ Nat) (k : κ) :
    SortedMap κ Nat :=
  m.insert k ((m.get? k).getD 0 + 1)

/-- Counts a turn. -/
def countTurn (m : Metrics) (pipeline result : String) : Metrics :=
  { m with turns := increment m.turns ⟨pipeline, result⟩ }

/-- Counts a write of an artifact. -/
def countArtifactWrite (m : Metrics) (operation : String) : Metrics :=
  { m with artifactWrites := increment m.artifactWrites operation }

/-! ## Text -/

/-- One character of the value of a label. -/
def escapeChar (c : Char) : List Char :=
  if c = '\\' then ['\\', '\\']
  else if c = '"' then ['\\', '"']
  else if c = '\n' then ['\\', 'n']
  else [c]

/-- A label and its value. -/
def renderLabel (name value : String) : String :=
  name ++ "=\"" ++ String.ofList (value.toList.flatMap escapeChar) ++ "\""

/-- One sample. -/
def renderSample (name : String) (labels : List String) (count : Nat) : String :=
  name ++ "\x7b" ++ ",".intercalate labels ++ "\x7d " ++ toString count ++ "\n"

/-- A family of counters, unless it has no samples. -/
def renderFamily (name help : String) (samples : List (List String × Nat)) : String :=
  if samples.isEmpty then ""
  else
    "# HELP " ++ name ++ " " ++ help ++ "\n# TYPE " ++ name ++ " counter\n" ++
      String.join (samples.map fun (labels, count) => renderSample name labels count)

/-- The text of all counters, families and samples in order. -/
def render (m : Metrics) : String :=
  renderFamily "metallb_operator_artifact_writes_total"
      "Writes to the merged MetalLB ConfigMap by operation"
      (m.artifactWrites.entries.map fun (operation, count) =>
        ([renderLabel "operation" operation], count)) ++
    renderFamily "metallb_operator_reconcile_total" "Reconciles by pipeline and result"
      (m.turns.entries.map fun (labels, count) =>
        ([renderLabel "pipeline" labels.pipeline, renderLabel "result" labels.result], count))

end Metrics

end PoolOperator
