import PoolOperator.Identity
import PoolOperator.Proofs.Condition.Merge
import PoolOperator.Store.Basic

/-!
# States as rows of conditions

A state is recorded as a row of four conditions, and read back from it. What has once been recorded
for an instance with a wrong name is not recorded again.
-/

namespace PoolOperator

/-! ## Rows -/

/-- What conditions say of their types, in order. -/
def Condition.row (cs : List Condition) : List (String × ConditionStatus) :=
  cs.map fun c => (c.type, c.status)

/-- The row of conditions that records a state. -/
def IdentityState.row : IdentityState → List (String × ConditionStatus)
  | .available => [(Condition.available, .true), (Condition.progressing, .false),
      (Condition.degraded, .false), (Condition.upgradeable, .true)]
  | .pending => [(Condition.available, .false), (Condition.progressing, .true),
      (Condition.degraded, .false), (Condition.upgradeable, .false)]
  | .degraded => [(Condition.available, .false), (Condition.progressing, .false),
      (Condition.degraded, .true), (Condition.upgradeable, .false)]

namespace Condition

variable {cs ds : List Condition}

theorem row_of_observations_eq (h : cs.map observation = ds.map observation) : row cs = row ds := by
  have hrow (l : List Condition) : row l = row (l.map observation) := by
    rw [row, row, List.map_map]
    rfl
  rw [hrow cs, h, ← hrow ds]

theorem types_eq_map_row (cs : List Condition) : cs.map (·.type) = (row cs).map (·.1) := by
  rw [row, List.map_map]
  rfl

theorem isTrue_iff_of_row (type : String) (cs : List Condition) :
    isTrue type cs = ((row cs).find? fun e => e.1 == type).any fun e => e.2 == .true := by
  have hfind : (row cs).find? (fun e => e.1 == type) =
      (find? type cs).map fun c => (c.type, c.status) := by
    rw [row, List.find?_map]
    rfl
  rw [hfind, isTrue]
  cases find? type cs <;> rfl

end Condition

namespace IdentityState

variable {state : IdentityState} {cs : List Condition}

theorem ofConditions_of_row (h : Condition.row cs = state.row) : ofConditions cs = state := by
  rw [ofConditions, Condition.isTrue_iff_of_row, Condition.isTrue_iff_of_row, h]
  cases state <;> decide

theorem ofConditions_retime (clock : Option String → Option String) (cs : List Condition) :
    ofConditions (cs.map (Condition.retime clock)) = ofConditions cs := by
  rw [ofConditions, ofConditions, Condition.isTrue_retime, Condition.isTrue_retime]

theorem types_row (state : IdentityState) : state.row.map (·.1) =
    [Condition.available, Condition.progressing, Condition.degraded, Condition.upgradeable] := by
  cases state <;> rfl

theorem types_of_row (h : Condition.row cs = state.row) : cs.map (·.type) =
    [Condition.available, Condition.progressing, Condition.degraded, Condition.upgradeable] := by
  rw [Condition.types_eq_map_row, h, types_row]

theorem nodup_types_of_row (h : Condition.row cs = state.row) : (cs.map (·.type)).Nodup := by
  rw [types_of_row h]
  decide

/-- Where the row of a state holds, among whatever else, it is this state that is read back. -/
theorem ofConditions_of_holds {desired : List Condition} (hrow : Condition.row desired = state.row)
    (h : ∀ d ∈ desired, Condition.Holds d cs) : ofConditions cs = state := by
  have htypes := types_of_row hrow
  have hdegraded : Condition.degraded ∈ desired.map (·.type) := by simp [htypes]
  have havailable : Condition.available ∈ desired.map (·.type) := by simp [htypes]
  rw [← ofConditions_of_row hrow, ofConditions, ofConditions,
    Condition.isTrue_of_holds hdegraded h, Condition.isTrue_of_holds havailable h]

end IdentityState

/-! ## Recorded states -/

namespace Identity

theorem row_degradedConditions (now name : String) :
    Condition.row (degradedConditions now name) = IdentityState.degraded.row := rfl

theorem row_ofReadiness (now : String) (readiness : Readiness) :
    Condition.row (ofReadiness now readiness).2 = (ofReadiness now readiness).1.row := by
  cases readiness <;> rfl

theorem ofReadiness_ne_degraded (now : String) (readiness : Readiness) :
    (ofReadiness now readiness).1 ≠ .degraded := by
  cases readiness <;> exact nofun

/-- The complaint about a name is the same at any time. -/
theorem observations_degradedConditions (now now' name : String) :
    (degradedConditions now name).map Condition.observation =
      (degradedConditions now' name).map Condition.observation := rfl

theorem observations_ofReadiness (now now' : String) (readiness : Readiness) :
    (ofReadiness now readiness).2.map Condition.observation =
      (ofReadiness now' readiness).2.map Condition.observation := by
  cases readiness <;> rfl

end Identity

namespace Instance

variable {i : Instance} {name : String} {status : Status}

/-- Whether the conditions of an instance with a name are some that it may ever get: those of a
canonical instance record that it is available or pending, and others complain about the name. -/
def IsSuited (name : String) (cs : List Condition) : Prop :=
  if name = canonicalName then
    ∃ state : IdentityState, state ≠ .degraded ∧ Condition.row cs = state.row
  else cs.map Condition.observation =
    (Identity.degradedConditions "" name).map Condition.observation

/-- Whether an instance with a name has no status, or a suited one. -/
def IsProper (name : String) (i : Instance) : Prop :=
  ∀ status, i.status = some status → IsSuited name status.conditions

theorem isSuited_degradedConditions (h : name ≠ canonicalName) (now : String) :
    IsSuited name (Identity.degradedConditions now name) := by
  rw [IsSuited, if_neg h]
  exact Identity.observations_degradedConditions now "" name

theorem isSuited_ofReadiness (h : name = canonicalName) (now : String) (readiness : Readiness) :
    IsSuited name (Identity.ofReadiness now readiness).2 := by
  rw [IsSuited, if_pos h]
  exact ⟨_, Identity.ofReadiness_ne_degraded now readiness, Identity.row_ofReadiness now readiness⟩

/-- Suited conditions record a state in full: degraded just if the name is wrong. -/
theorem IsSuited.exists_row {cs : List Condition} (h : IsSuited name cs) :
    ∃ state : IdentityState, Condition.row cs = state.row ∧
      (state = .degraded ↔ name ≠ canonicalName) := by
  by_cases hname : name = canonicalName
  · rw [IsSuited, if_pos hname] at h
    obtain ⟨state, hstate, hrow⟩ := h
    exact ⟨state, hrow, fun heq => absurd heq hstate, fun hne => absurd hname hne⟩
  · rw [IsSuited, if_neg hname] at h
    have hrow : Condition.row cs = IdentityState.degraded.row :=
      (Condition.row_of_observations_eq h).trans (Identity.row_degradedConditions "" name)
    exact ⟨.degraded, hrow, fun _ => hname, fun _ => rfl⟩

/-- An instance with a wrong name is degraded as soon as it has a status. -/
theorem IsProper.ofConditions_eq_degraded (hi : i.IsProper name) (hname : name ≠ canonicalName)
    (hstatus : i.status ≠ none) : IdentityState.ofConditions i.conditions = .degraded := by
  obtain ⟨status, hsome⟩ := Option.ne_none_iff_exists'.mp hstatus
  obtain ⟨state, hrow, hstate⟩ := (hi status hsome).exists_row
  rw [conditions, hsome]
  exact (IdentityState.ofConditions_of_row hrow).trans (hstate.mpr hname)

/-- What suited conditions are merged into suited ones, or into none, is suited. -/
theorem IsSuited.merged {desired : List Condition} (h : IsSuited name desired)
    (hi : i.IsProper name) : IsSuited name (Condition.merged i.conditions desired) := by
  obtain ⟨state, hrow, -⟩ := h.exists_row
  have htypes : i.conditions = [] ∨ i.conditions.map (·.type) = desired.map (·.type) := by
    unfold conditions
    cases hstatus : i.status with
    | none => exact .inl rfl
    | some status =>
      obtain ⟨state', hrow', -⟩ := (hi status hstatus).exists_row
      exact .inr (by rw [IdentityState.types_of_row hrow, IdentityState.types_of_row hrow'])
  have hsame : (Condition.merged i.conditions desired).map Condition.observation =
      desired.map Condition.observation :=
    Condition.observations_merged_of_types (IdentityState.nodup_types_of_row hrow) htypes
  unfold IsSuited at h ⊢
  rw [hsame, Condition.row_of_observations_eq hsame]
  exact h

/-- A complaint that has been recorded is not recorded again. -/
theorem IsProper.merge?_eq_none (hi : i.IsProper name) (hname : name ≠ canonicalName)
    (hstatus : i.status = some status) {desired : List Condition} (h : IsSuited name desired) :
    Condition.merge? i.conditions desired = none := by
  have hsuited := hi status hstatus
  obtain ⟨state, hrow, -⟩ := h.exists_row
  rw [IsSuited, if_neg hname] at h hsuited
  have hconditions : i.conditions = status.conditions := by
    rw [conditions, hstatus]
  rw [hconditions]
  exact Condition.merge?_eq_none_of_observations (IdentityState.nodup_types_of_row hrow)
    (hsuited.trans h.symm)

end Instance

end PoolOperator
