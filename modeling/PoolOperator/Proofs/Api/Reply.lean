import PoolOperator.Api.Client
import PoolOperator.Proofs.Store.Change

/-!
# What replies amount to

Whether a reply over an API is fatal or a conflict is decided by the response and by the call. Only a
list can fail for good, and only for want of what is to be listed. A code for a conflict is a
conflict, unless a look-up takes it for an answer.
-/

namespace PoolOperator

/-- Whether a call asks for all objects of a kind. -/
def StoreCall.IsListing : StoreCall → Prop
  | listPools _ | listInstances _ => True
  | _ => False

/-- Whether a call asks for one object. -/
def StoreCall.IsLookUp : StoreCall → Prop
  | getPool _ | getConfigMap _ | getInstance _ => True
  | _ => False

/-- Whether a result is a failure of a sort. -/
def Fails {ε α : Type} (result : Except ε α) (sort : ε → Bool) : Prop :=
  ∃ e, result = .error e ∧ sort e = true

theorem fails_error {ε α : Type} {e : ε} {sort : ε → Bool} :
    Fails (.error e : Except ε α) sort ↔ sort e = true := by
  constructor
  · rintro ⟨_, h, hsort⟩
    cases h
    exact hsort
  · intro h
    exact ⟨e, rfl, h⟩

theorem not_fails_ok {ε α : Type} {a : α} {sort : ε → Bool} :
    ¬Fails (.ok a : Except ε α) sort := by
  rintro ⟨_, h, -⟩
  cases h

namespace StoreError

/-- The codes tell conflicts and missing objects from all other failures. -/
theorem ofClient_cases (failure : Api.ApiError) :
    failure.code = 409 ∧ ofClient (.api failure) = .conflict failure.message ∨
      failure.code = 404 ∧ ofClient (.api failure) = .notFound failure.message ∨
      failure.code ≠ 409 ∧ (ofClient (.api failure) = .unavailable failure.message ∨
        ofClient (.api failure) = .client (.api failure)) := by
  by_cases hconflict : failure.code = 409
  · exact .inl ⟨hconflict, by rw [ofClient, if_pos hconflict]⟩
  · by_cases hmissing : failure.code = 404
    · exact .inr (.inl ⟨hmissing, by rw [ofClient, if_neg hconflict, if_pos hmissing]⟩)
    · refine .inr (.inr ⟨hconflict, ?_⟩)
      rw [ofClient, if_neg hconflict, if_neg hmissing]
      split
      · exact .inl rfl
      · exact .inr rfl

theorem isFatal_ofClient (e : Api.ClientError) : (ofClient e).isFatal = false := by
  cases e with
  | transport => rfl
  | api failure =>
    rcases ofClient_cases failure with ⟨-, h⟩ | ⟨-, h⟩ | ⟨-, h | h⟩ <;> rw [h] <;> rfl

theorem isConflict_ofClient {e : Api.ClientError} :
    (ofClient e).isConflict = true ↔ ∃ failure, e = .api failure ∧ failure.code = 409 := by
  cases e with
  | transport => exact iff_of_false nofun (fun ⟨_, h, _⟩ => nomatch h)
  | api failure =>
    rcases ofClient_cases failure with ⟨hcode, h⟩ | ⟨hcode, h⟩ | ⟨hcode, h | h⟩
    · rw [h]
      exact iff_of_true rfl ⟨failure, rfl, hcode⟩
    all_goals
      rw [h]
      refine iff_of_false nofun ?_
      rintro ⟨_, heq, hcode'⟩
      cases heq
      omega

theorem ofClient_missing {failure : Api.ApiError} (h : failure.code = 404) :
    ofClient (.api failure) = .notFound failure.message := by
  rw [ofClient, if_neg (by omega), if_pos h]

end StoreError

namespace Api

/-! ## Responses -/

/-- Whether a response is a failure that the server describes. -/
def Response.Refuses (r : Response) (failure : ApiError) : Prop := r.text = .error (.api failure)

section Response

variable {α : Type} {r : Response} {read : Json → Option α} {failure : ApiError}

/-- A refusal is read as such, whatever was to be read. -/
theorem value_eq_refusal (read : Json → Option α) :
    r.value read = .error (.api failure) ↔ r.Refuses failure := by
  unfold Response.value Response.Refuses
  cases htext : r.text with
  | error e =>
    show Except.error e = Except.error _ ↔ Except.error e = Except.error _
    rw [Except.error.injEq, Except.error.injEq]
  | ok text =>
    refine iff_of_false ?_ nofun
    simp only [bind, Except.bind]
    cases (Json.parse? text).bind read with
    | none => exact nofun
    | some a => exact nofun

theorem fails_failed_isFatal (result : Except ClientError α) :
    ¬Fails (failed result) StoreError.isFatal := by
  cases result with
  | ok a => exact not_fails_ok
  | error e =>
    rw [failed, fails_error, StoreError.isFatal_ofClient]
    exact Bool.false_ne_true

theorem fails_failed_isConflict :
    Fails (failed (r.value read)) StoreError.isConflict ↔
      ∃ failure, r.Refuses failure ∧ failure.code = 409 := by
  simp only [← value_eq_refusal read]
  cases r.value read with
  | ok a => exact iff_of_false not_fails_ok (fun ⟨_, h, _⟩ => nomatch h)
  | error e =>
    rw [failed, fails_error, StoreError.isConflict_ofClient]
    simp only [Except.error.injEq]

theorem fails_found_isFatal (result : Except ClientError α) :
    ¬Fails (found result) StoreError.isFatal := by
  rcases result with (failure | _) | a
  · rw [found]
    split
    · exact not_fails_ok
    · rw [fails_error, StoreError.isFatal_ofClient]
      exact Bool.false_ne_true
  · rw [show found (α := α) (.error .transport) = .error (.ofClient .transport) from rfl,
      fails_error, StoreError.isFatal_ofClient]
    exact Bool.false_ne_true
  · exact not_fails_ok

theorem fails_found_isConflict :
    Fails (found (r.value read)) StoreError.isConflict ↔
      ∃ failure, r.Refuses failure ∧ failure.code = 409 ∧ failure.reason ≠ "NotFound" := by
  simp only [← value_eq_refusal read]
  rcases r.value read with (failure | _) | a
  · rw [found]
    split
    · rename_i hreason
      refine iff_of_false not_fails_ok ?_
      rintro ⟨_, h, -, hother⟩
      cases h
      exact hother hreason
    · rename_i hreason
      rw [fails_error, StoreError.isConflict_ofClient]
      constructor
      · rintro ⟨_, h, hcode⟩
        cases h
        exact ⟨failure, rfl, hcode, hreason⟩
      · rintro ⟨_, h, hcode, -⟩
        cases h
        exact ⟨failure, rfl, hcode⟩
  · exact iff_of_false (fun ⟨_, h, hsort⟩ => by cases h; cases hsort) (fun ⟨_, h, _⟩ => nomatch h)
  · exact iff_of_false not_fails_ok (fun ⟨_, h, _⟩ => nomatch h)

theorem fails_listed_isFatal {read : Json → Option (ObjectList α)} {kind : String} :
    Fails (listed kind (r.value read)) StoreError.isFatal ↔
      ∃ failure, r.Refuses failure ∧ failure.code = 404 := by
  simp only [← value_eq_refusal read]
  rcases r.value read with (failure | _) | page
  · rw [listed]
    split
    · rename_i hcode
      exact iff_of_true (fails_error.mpr rfl) ⟨failure, rfl, hcode⟩
    · rename_i hcode
      rw [fails_error, StoreError.isFatal_ofClient]
      refine iff_of_false Bool.false_ne_true ?_
      rintro ⟨_, h, hcode'⟩
      cases h
      exact hcode hcode'
  · exact iff_of_false (fun ⟨_, h, hsort⟩ => by cases h; cases hsort) (fun ⟨_, h, _⟩ => nomatch h)
  · exact iff_of_false not_fails_ok (fun ⟨_, h, _⟩ => nomatch h)

theorem fails_listed_isConflict {read : Json → Option (ObjectList α)} {kind : String} :
    Fails (listed kind (r.value read)) StoreError.isConflict ↔
      ∃ failure, r.Refuses failure ∧ failure.code = 409 := by
  simp only [← value_eq_refusal read]
  rcases r.value read with (failure | _) | page
  · rw [listed]
    split
    · rename_i hcode
      refine iff_of_false (fun h => nomatch fails_error.mp h) ?_
      rintro ⟨_, h, hcode'⟩
      cases h
      omega
    · rw [fails_error, StoreError.isConflict_ofClient]
      simp only [Except.error.injEq]
  · exact iff_of_false (fun ⟨_, h, hsort⟩ => by cases h; cases hsort) (fun ⟨_, h, _⟩ => nomatch h)
  · exact iff_of_false not_fails_ok (fun ⟨_, h, _⟩ => nomatch h)

end Response

/-! ## Replies -/

/-- **Only a list fails for good**: when what is to be listed is missing. -/
theorem fails_replyTo_isFatal (r : Response) (call : StoreCall) :
    Fails (replyTo r call) StoreError.isFatal ↔
      call.IsListing ∧ ∃ failure, r.Refuses failure ∧ failure.code = 404 := by
  cases call with
  | listPools | listInstances => exact fails_listed_isFatal.trans (iff_of_eq (true_and _).symm)
  | getPool | getConfigMap | getInstance =>
    exact iff_of_false (fails_found_isFatal _) (fun h => h.1)
  | _ => exact iff_of_false (fails_failed_isFatal _) (fun h => h.1)

/-- A conflict is what the server describes as one, unless a look-up finds nothing by it. -/
theorem fails_replyTo_isConflict (r : Response) (call : StoreCall) :
    Fails (replyTo r call) StoreError.isConflict ↔ ∃ failure, r.Refuses failure ∧
      failure.code = 409 ∧ (call.IsLookUp → failure.reason ≠ "NotFound") := by
  cases call with
  | listPools | listInstances =>
    refine fails_listed_isConflict.trans ?_
    simp [StoreCall.IsLookUp]
  | getPool | getConfigMap | getInstance =>
    refine fails_found_isConflict.trans ?_
    simp [StoreCall.IsLookUp]
  | _ =>
    refine fails_failed_isConflict.trans ?_
    simp [StoreCall.IsLookUp]

/-- A deletion of what is missing says so. -/
theorem fails_replyTo_isNotFound {r : Response} {failure : ApiError} (h : r.Refuses failure)
    (hcode : failure.code = 404) {call : StoreCall} (hcall : call.IsDelete) :
    Fails (replyTo r call) StoreError.isNotFound := by
  have hfails (read : Json → Option Unit) :
      Fails (failed (r.value read)) StoreError.isNotFound := by
    rw [(value_eq_refusal _).mpr h, failed, StoreError.ofClient_missing hcode]
    exact fails_error.mpr rfl
  cases call with
  | deletePool | deleteConfigMap | deleteInstance => exact hfails _
  | _ => exact hcall.elim

end Api

end PoolOperator
