/-!
# Status conditions

Observations about an object, at most one of which counts per type: the first. A new observation
takes the place of the one of its type, and keeps its time of transition as long as the status stays
the same.
-/

namespace PoolOperator

/-- Whether a condition holds. -/
inductive ConditionStatus where
  | true
  | false
  | unknown
deriving DecidableEq, Repr, Inhabited

namespace ConditionStatus

/-- The status of a fact. -/
def ofBool (b : Bool) : ConditionStatus := if b then .true else .false

/-- The word for a status. -/
def word : ConditionStatus → String
  | .true => "True"
  | .false => "False"
  | .unknown => "Unknown"

/-- The status that a word stands for. -/
def ofWord? (s : String) : Option ConditionStatus :=
  if s = "True" then some .true
  else if s = "False" then some .false
  else if s = "Unknown" then some .unknown
  else none

theorem ofWord?_eq_some {s : String} {status : ConditionStatus} :
    ofWord? s = some status ↔ s = status.word := by
  constructor
  · intro h
    unfold ofWord? at h
    split at h
    · cases h; assumption
    · split at h
      · cases h; assumption
      · split at h
        · cases h; assumption
        · contradiction
  · rintro rfl
    cases status <;> decide

end ConditionStatus

/-- An observation about an object. -/
structure Condition where
  type : String
  status : ConditionStatus
  reason : String
  message : String
  /-- When the status last became what it is. -/
  lastTransitionTime : Option String
deriving DecidableEq, Repr, Inhabited

namespace Condition

/-- The types of condition that the operator sets. -/
def available : String := "Available"

@[inherit_doc available] def progressing : String := "Progressing"

@[inherit_doc available] def degraded : String := "Degraded"

@[inherit_doc available] def upgradeable : String := "Upgradeable"

/-- A condition observed now. -/
def observed (now type : String) (status : ConditionStatus) (reason message : String) : Condition :=
  ⟨type, status, reason, message, some now⟩

/-- Equal but for the time of transition. -/
def sameObservation (a b : Condition) : Bool :=
  a.type == b.type && a.status == b.status && a.reason == b.reason && a.message == b.message

/-- The condition that counts for a type. -/
def find? (type : String) (cs : List Condition) : Option Condition :=
  List.find? (fun c => c.type == type) cs

/-- Whether the condition of a type is there and true. -/
def isTrue (type : String) (cs : List Condition) : Bool :=
  match find? type cs with
  | some c => c.status == .true
  | none => false

/-- What an old condition of the same type becomes; nothing if the observation is the same. -/
def replacedBy? (old new : Condition) : Option Condition :=
  if old.sameObservation new then none
  else if old.status = new.status then
    some { new with lastTransitionTime := old.lastTransitionTime }
  else some new

/-- The conditions after an observation; nothing if it changes none of them. -/
def put? (new : Condition) : List Condition → Option (List Condition)
  | [] => some [new]
  | c :: cs =>
    if c.type = new.type then (c.replacedBy? new).map (· :: cs) else (put? new cs).map (c :: ·)

/-- Applies observations one after the other, and notes whether one of them changed anything. -/
def mergeFrom (current : List Condition) (changed : Bool) :
    List Condition → List Condition × Bool
  | [] => (current, changed)
  | new :: desired =>
    match put? new current with
    | some next => mergeFrom next true desired
    | none => mergeFrom current changed desired

/-- The conditions after a list of observations; nothing if none of them changes anything. -/
def merge? (current desired : List Condition) : Option (List Condition) :=
  match mergeFrom current false desired with
  | (merged, true) => some merged
  | (_, false) => none

end Condition

end PoolOperator
