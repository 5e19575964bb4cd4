import PoolOperator.Pipeline.Result
import PoolOperator.Proofs.Api.Dialogue
import PoolOperator.Proofs.Reconcile.Faults
import PoolOperator.Proofs.Retries

/-!
# Failures for good

An attempt at a merge ends with the first call that fails. A conflict leads to the next attempt, and
a list of what is missing ends the pipeline. Nothing else that an API answers does.
-/

namespace PoolOperator

open Api

/-! ## Parts of a merge -/

/-- What a part of a merge comes to, by its calls. It ends when one of them fails, but an artifact
that is missing need not be deleted. -/
inductive Course : List Contact → Except OperatorError AggregateOutcome → Prop where
  | done (outcome : AggregateOutcome) : Course [] (.ok outcome)
  | failed {c : Contact} {e : StoreError} (h : c.Brings (.error e))
      (hcall : c.call.IsDelete → e.isNotFound = false) : Course [c] (.error (.store e))
  | gone {c : Contact} {detail : String} (h : c.Brings (.error (.notFound detail)))
      (hcall : c.call.IsDelete) : Course [c] (.ok .absent)
  | next {c : Contact} {reply : c.call.Reply} {log : List Contact}
      {result : Except OperatorError AggregateOutcome} (h : c.Brings (.ok reply))
      (hlog : Course log result) : Course (c :: log) result

/-- Whether an error is a conflict, so that there is another attempt. -/
def OperatorError.isConflict : OperatorError → Bool
  | .store e => e.isConflict
  | _ => false

namespace Course

variable {log : List Contact} {result : Except OperatorError AggregateOutcome}

/-- A part of a merge fails as one of its calls does. -/
theorem fails_iff {sort : OperatorError → Bool} {Q : Contact → Prop}
    (hbrings : ∀ (c : Contact) reply, c.Brings reply →
      (Fails reply (fun e => sort (.store e)) ↔ Q c))
    (hmissing : ∀ detail, sort (.store (.notFound detail)) = false) (h : Course log result) :
    Fails result sort ↔ ∃ c ∈ log, Q c := by
  induction h with
  | done outcome => exact iff_of_false not_fails_ok (fun ⟨_, h, _⟩ => nomatch h)
  | failed h hcall =>
    have hfails := hbrings _ _ h
    rw [fails_error] at hfails
    rw [fails_error, hfails]
    simp only [List.mem_singleton, exists_eq_left]
  | @gone c detail h hcall =>
    have hfails := hbrings _ _ h
    rw [fails_error, hmissing detail] at hfails
    refine iff_of_false not_fails_ok ?_
    rintro ⟨c', hc', hfailed⟩
    rw [List.mem_singleton.mp hc'] at hfailed
    cases hfails.mpr hfailed
  | next h hlog ih =>
    rw [ih, List.exists_mem_cons_iff]
    exact (or_iff_right (mt (hbrings _ _ h).mpr not_fails_ok)).symm

theorem fails_isFatal (h : Course log result) :
    Fails result OperatorError.isFatal ↔ ∃ c ∈ log, c.call.IsListing ∧ c.IsMissing :=
  h.fails_iff (fun _ _ hreply => hreply.fails_isFatal) fun _ => rfl

theorem fails_isConflict (h : Course log result) :
    Fails result OperatorError.isConflict ↔ ∃ c ∈ log, c.IsConflict :=
  h.fails_iff (fun _ _ hreply => hreply.fails_isConflict) fun _ => rfl

/-- A part of a merge ends with a call that does not succeed. -/
theorem eq_nil_of_not_ok (h : Course log result) {before after : List Contact} {c : Contact}
    (hsplit : log = before ++ c :: after) (hc : ∀ reply, ¬c.Brings (.ok reply)) : after = [] := by
  induction h generalizing before with
  | done outcome => cases before <;> cases hsplit
  | failed | gone =>
    cases before with
    | nil =>
      cases hsplit
      rfl
    | cons _ before => cases before <;> cases hsplit
  | next h hlog ih =>
    cases before with
    | nil =>
      cases hsplit
      exact absurd h (hc _)
    | cons _ before => exact ih (List.cons.inj hsplit).2

theorem of_isMissing (h : Course log result) {c : Contact} (hc : c ∈ log)
    (hcall : c.call.IsDelete) (hmissing : c.IsMissing) : result = .ok .absent := by
  induction h with
  | done outcome => cases hc
  | failed h hother =>
    cases List.mem_singleton.mp hc
    have hnotFound := h.fails_isNotFound hcall hmissing
    rw [fails_error, hother hcall] at hnotFound
    cases hnotFound
  | gone h _ => rfl
  | next h hlog ih =>
    rcases List.mem_cons.mp hc with rfl | hc
    · exact absurd (h.fails_isNotFound hcall hmissing) not_fails_ok
    · exact ih hc

end Course

/-! ## Attempts -/

/-- What one attempt comes to: it lists the pools, and then it is about the artifact only. -/
structure Attempt (ns : String) (log : List Contact) (settled : Settled) : Prop where
  begins : ∃ first rest, log = first :: rest ∧ first.call = .listPools ns ∧
    ∀ c ∈ rest, (PoolOperator.Request.store c.call).IsOnArtifact
  course : Course log (settled.map Prod.snd)

/-- What becomes of a number of attempts. -/
inductive Attempts (ns : String) (total : Nat) : Nat → List Contact → Settled → Prop where
  | exhausted : Attempts ns total 0 []
      (.error (.conflictsExhausted s!"ConfigMap {(Artifact.keyIn ns).display}" total))
  | again {left : Nat} {log log' : List Contact} {detail : String} {settled : Settled}
      (h : Attempt ns log (.error (.store (.conflict detail))))
      (hlater : Attempts ns total left log' settled) :
      Attempts ns total (left + 1) (log ++ log') settled
  | ended {left : Nat} {log : List Contact} {settled : Settled} (h : Attempt ns log settled)
      (hend : ¬Fails settled OperatorError.isConflict) : Attempts ns total (left + 1) log settled

/-- What a merge comes to: attempts, and reports if one of them succeeds. -/
def Merged (ns : String) (attempts : Nat) (log : List Contact)
    (result : Except OperatorError AggregateOutcome) : Prop :=
  ∃ first reports settled, log = first ++ reports ∧ Attempts ns attempts attempts first settled ∧
    result = settled.map Prod.snd ∧
    (∀ c ∈ reports, (PoolOperator.Request.store c.call).IsAside) ∧
    ((∃ e, settled = .error e) → reports = [])

namespace Task

variable {now ns : String} {total : Nat}

theorem hears_writeArtifact (ns : String) (desired : Artifact) :
    (writeArtifact ns desired).Hears Course := by
  have hcount (operation : String) (outcome : AggregateOutcome) :
      (countWrite operation >>= fun _ => done (.ok outcome) :
        Task (Except OperatorError AggregateOutcome)).Hears Course := Course.done outcome
  refine hears_call_bind fun response reply hreply => ?_
  rcases reply with e | _ | current
  · exact .failed hreply False.elim
  · show (if desired.isEmpty = true then _ else _ : Task _).Hears _
    split
    · exact .next hreply (.done _)
    · refine hears_call_bind fun response' reply' hreply' => ?_
      cases reply' with
      | error e => exact .next hreply (.failed hreply' False.elim)
      | ok created => exact .next hreply (.next hreply' (.done _))
  · show (if desired.isEmpty = true then _ else _ : Task _).Hears _
    split
    · refine hears_call_bind fun response' reply' hreply' => ?_
      cases reply' with
      | error e =>
        cases e with
        | notFound detail => exact .next hreply (.gone hreply' trivial)
        | _ => exact .next hreply (.failed hreply' fun _ => rfl)
      | ok deleted => exact .next hreply (.next hreply' (.done _))
    · show (if desired.isDescribedBy (Artifact.storedText current) = true then _ else _ :
        Task _).Hears _
      split
      · exact .next hreply (.done _)
      · refine hears_call_bind fun response' reply' hreply' => ?_
        cases reply' with
        | error e => exact .next hreply (.failed hreply' False.elim)
        | ok replaced => exact .next hreply (.next hreply' (.done _))

theorem hears_settleOnce (ns : String) : (settleOnce ns).Hears (Attempt ns) := by
  refine hears_call_bind fun response reply hreply => ?_
  cases reply with
  | error e => exact ⟨⟨_, [], rfl, rfl, List.forall_mem_nil _⟩, .failed hreply False.elim⟩
  | ok pools =>
    have hwrite := (hears_writeArtifact ns (.ofPools pools)).and
      (isOnArtifact_writeArtifact ns (.ofPools pools)).hears
    refine hears_bind (hwrite.mono ?_)
    rintro log result ⟨hcourse, hcalls⟩
    have hcalls' : ∀ c ∈ log ++ [], (Request.store c.call).IsOnArtifact := by
      rwa [List.append_nil]
    have hcourse' : Course (log ++ []) result := by
      rwa [List.append_nil]
    cases result with
    | error e => exact ⟨⟨_, _, rfl, rfl, hcalls'⟩, .next hreply hcourse'⟩
    | ok outcome => exact ⟨⟨_, _, rfl, rfl, hcalls'⟩, .next hreply hcourse'⟩

theorem hears_settleWithin (ns : String) (left : Nat) :
    (settleWithin total ns left).Hears (Attempts ns total left) := by
  induction left with
  | zero => exact .exhausted
  | succ left ih =>
    refine hears_bind ((hears_settleOnce ns).mono fun log settled h => ?_)
    have hended (hend : ¬Fails settled OperatorError.isConflict) :
        Attempts ns total (left + 1) (log ++ []) settled := by
      rw [List.append_nil]
      exact .ended h hend
    split
    · exact ih.mono fun log' settled' hlater => .again h hlater
    · rename_i hother
      refine hended ?_
      rintro ⟨e, rfl, hconflict⟩
      cases e with
      | store e =>
        cases e with
        | conflict detail => exact hother detail rfl
        | _ => cases hconflict
      | _ => cases hconflict

theorem hears_aggregate (now ns : String) (attempts : Nat) :
    (aggregate now attempts ns).Hears (Merged ns attempts) := by
  rw [aggregate, aggregateWithin_eq]
  refine hears_bind ((hears_settleWithin ns attempts).mono fun first settled h => ?_)
  cases settled with
  | error e => exact ⟨first, [], _, rfl, h, rfl, List.forall_mem_nil _, fun _ => rfl⟩
  | ok settled =>
    refine hears_bind ((isAside_reportVerdicts attempts ns _).hears.mono fun reports _ haside => ?_)
    refine ⟨first, reports ++ [], _, rfl, h, rfl, ?_, ?_⟩
    · rwa [List.append_nil]
    · rintro ⟨_, hfailed⟩
      cases hfailed

/-- The error of a call that is no list is not fatal. -/
theorem not_fails_of_brings {α : Type} {c : Contact} {e : StoreError} (h : c.Brings (.error e))
    (hcall : ¬c.call.IsListing) :
    ¬Fails (.error (.store e) : Except OperatorError α) OperatorError.isFatal := by
  rw [fails_error]
  intro hfatal
  exact hcall (h.fails_isFatal.mp (fails_error.mpr hfatal)).1

theorem hears_reportWithin (key : ObjectKey) (desired : List Condition) (total left : Nat) :
    (reportWithin Instance key desired total left).Hears
      fun _ result => ¬Fails result OperatorError.isFatal := by
  induction left with
  | zero => exact fun h => nomatch fails_error.mp h
  | succ left ih =>
    refine hears_call_bind fun response reply hreply => ?_
    rcases reply with e | _ | current
    · exact not_fails_of_brings hreply id
    · exact not_fails_ok
    · dsimp only
      split
      · exact not_fails_ok
      · refine hears_call_bind fun response' reply' hreply' => ?_
        cases reply' with
        | ok written => exact not_fails_ok
        | error e =>
          cases e with
          | conflict => exact ih
          | notFound => exact not_fails_ok
          | _ => exact not_fails_of_brings hreply' id

/-- A validation does not fail for good. -/
theorem hears_validate (now : String) (attempts : Nat) (key : ObjectKey) :
    (validate now attempts key).Hears fun _ result => ¬Fails result OperatorError.isFatal := by
  have hsettle (state : IdentityState) (cs : List Condition) :
      (settleIn attempts key state cs).Hears
        fun _ result => ¬Fails result OperatorError.isFatal := by
    refine hears_bind ((hears_reportWithin key cs attempts attempts).mono fun _ result h => ?_)
    cases result with
    | ok _ => exact not_fails_ok
    | error e =>
      rw [fails_error] at h
      exact fun h' => h (fails_error.mp h')
  refine hears_call_bind fun response reply hreply => ?_
  rcases reply with e | _ | object
  · exact not_fails_of_brings hreply id
  · exact not_fails_ok
  · dsimp only
    split
    · intro readiness hreadiness
      cases readiness with
      | error e =>
        rw [fails_error] at hreadiness
        exact fun h => hreadiness (fails_error.mp h)
      | ok readiness => exact hsettle _ _
    · split
      · exact not_fails_ok
      · exact hsettle _ _

end Task

/-! ## What attempts tell -/

/-- Whether a call begins an attempt at a merge. -/
def Api.Contact.beginsAttempt (c : Contact) : Bool :=
  match c.call with
  | .listPools _ => true
  | _ => false

section Attempts

variable {ns : String} {total left : Nat} {log : List Contact} {settled : Settled}

theorem not_beginsAttempt_of_isOnArtifact {c : Contact}
    (h : (PoolOperator.Request.store c.call).IsOnArtifact) : c.beginsAttempt = false := by
  obtain ⟨call, response⟩ := c
  cases call with
  | listPools => exact h.elim
  | _ => rfl

theorem fails_map {ε α β : Type} {result : Except ε α} {f : α → β} {sort : ε → Bool} :
    Fails (result.map f) sort ↔ Fails result sort := by
  cases result with
  | error e => exact fails_error.trans fails_error.symm
  | ok a => exact iff_of_false not_fails_ok not_fails_ok

namespace Attempt

theorem filter_beginsAttempt {first : Contact} {rest : List Contact} (h : first.call = .listPools ns)
    (hrest : ∀ c ∈ rest, (PoolOperator.Request.store c.call).IsOnArtifact) :
    (first :: rest).filter Contact.beginsAttempt = [first] := by
  have hfirst : first.beginsAttempt = true := by
    rw [Contact.beginsAttempt, h]
  rw [List.filter_cons_of_pos hfirst, List.filter_eq_nil_iff.mpr]
  intro c hc hbegins
  rw [not_beginsAttempt_of_isOnArtifact (hrest c hc)] at hbegins
  cases hbegins

/-- An attempt fails for good just if what it lists is missing. -/
theorem fails_isFatal (h : Attempt ns log settled) : ∃ first,
    log.filter Contact.beginsAttempt = [first] ∧
      (Fails settled OperatorError.isFatal ↔ first.IsMissing) := by
  obtain ⟨first, rest, rfl, hcall, hrest⟩ := h.begins
  refine ⟨first, filter_beginsAttempt hcall hrest, ?_⟩
  rw [← fails_map, h.course.fails_isFatal]
  constructor
  · rintro ⟨c, hc, hlisting, hmissing⟩
    rcases List.mem_cons.mp hc with rfl | hc
    · exact hmissing
    · have hartifact := hrest c hc
      obtain ⟨call, response⟩ := c
      cases call with
      | listPools | listInstances => exact hartifact.elim
      | _ => exact hlisting.elim
  · intro hmissing
    refine ⟨first, List.mem_cons_self .., ?_, hmissing⟩
    rw [hcall]
    exact trivial

/-- An attempt that fails for good is over with its first call. -/
theorem eq_singleton_of_fails (h : Attempt ns log settled)
    (hfatal : Fails settled OperatorError.isFatal) :
    ∃ first, log = [first] ∧ first.beginsAttempt = true := by
  obtain ⟨c, hfilter, hmissing⟩ := h.fails_isFatal
  obtain ⟨first, rest, rfl, hcall, hrest⟩ := h.begins
  rw [filter_beginsAttempt hcall hrest] at hfilter
  cases hfilter
  have hlisting : c.call.IsListing := by
    rw [hcall]
    exact trivial
  have hrest' : rest = [] := by
    apply h.course.eq_nil_of_not_ok (List.nil_append _).symm
    intro reply hreply
    exact not_fails_ok (hreply.fails_isFatal.mpr ⟨hlisting, hmissing.mp hfatal⟩)
  refine ⟨c, by rw [hrest'], ?_⟩
  rw [Contact.beginsAttempt, hcall]

end Attempt

namespace Attempts

theorem eq_of_zero (h : Attempts ns total 0 log settled) : log = [] ∧
    settled = .error (.conflictsExhausted s!"ConfigMap {(Artifact.keyIn ns).display}" total) := by
  cases h
  exact ⟨rfl, rfl⟩

theorem begins (h : Attempts ns total (left + 1) log settled) :
    ∃ first rest, log = first :: rest ∧ first.call = .listPools ns := by
  cases h with
  | again h _ =>
    obtain ⟨first, rest, rfl, hcall, -⟩ := h.begins
    exact ⟨first, _, rfl, hcall⟩
  | ended h _ =>
    obtain ⟨first, rest, rfl, hcall, -⟩ := h.begins
    exact ⟨first, rest, rfl, hcall⟩

/-- The last attempt decides whether all fail for good. -/
theorem fails_isFatal (h : Attempts ns total left log settled) :
    Fails settled OperatorError.isFatal ↔
      ∃ c, (log.filter Contact.beginsAttempt).getLast? = some c ∧ c.IsMissing := by
  induction h with
  | exhausted =>
    refine iff_of_false (fun h => nomatch fails_error.mp h) ?_
    rintro ⟨c, hnone, -⟩
    cases hnone
  | ended h hend =>
    obtain ⟨first, hfilter, hfatal⟩ := h.fails_isFatal
    rw [hfatal, hfilter]
    simp
  | @again left log log' detail settled h hlater ih =>
    obtain ⟨first, hfilter, hfatal⟩ := h.fails_isFatal
    rw [ih, List.filter_append, hfilter]
    cases left with
    | zero =>
      -- the attempt before has ended in a conflict, so that nothing was missing
      have hfine : ¬first.IsMissing := fun hmissing => nomatch fails_error.mp (hfatal.mpr hmissing)
      rw [hlater.eq_of_zero.1]
      simpa using hfine
    | succ left =>
      obtain ⟨first', rest', rfl, hcall'⟩ := hlater.begins
      have hbegins : first'.beginsAttempt = true := by
        rw [Contact.beginsAttempt, hcall']
      rw [List.filter_cons_of_pos hbegins, List.singleton_append, List.getLast?_cons_cons]

/-- Attempts that fail for good are over with a list. -/
theorem beginsAttempt_of_fails (h : Attempts ns total left log settled)
    (hfatal : Fails settled OperatorError.isFatal) {c : Contact} (hc : log.getLast? = some c) :
    c.beginsAttempt = true := by
  induction h with
  | exhausted => cases hc
  | ended h hend =>
    obtain ⟨first, rfl, hbegins⟩ := h.eq_singleton_of_fails hfatal
    cases hc
    exact hbegins
  | @again left log log' detail settled h hlater ih =>
    cases left with
    | zero =>
      rw [hlater.eq_of_zero.2] at hfatal
      cases fails_error.mp hfatal
    | succ left =>
      obtain ⟨first, rest, rfl, -⟩ := hlater.begins
      rw [List.getLast?_append_cons] at hc
      exact ih hfatal hc

/-- An artifact that was found to be missing is absent in the end. -/
theorem of_isMissing (h : Attempts ns total left log settled) {c : Contact} (hc : c ∈ log)
    (hcall : c.call.IsDelete) (hmissing : c.IsMissing) : settled.map Prod.snd = .ok .absent := by
  induction h with
  | exhausted => cases hc
  | ended h _ => exact h.course.of_isMissing hc hcall hmissing
  | again h hlater ih =>
    rcases List.mem_append.mp hc with hc | hc
    · cases h.course.of_isMissing hc hcall hmissing
    · exact ih hc

/-- After a conflict the next attempt begins, or none is left. -/
theorem of_isConflict (h : Attempts ns total left log settled) {before after : List Contact}
    {c : Contact} (hsplit : log = before ++ c :: after) (hc : c.IsConflict) :
    ((before ++ [c]).filter Contact.beginsAttempt).length < left ∧
        (∃ next rest, after = next :: rest ∧ next.call = .listPools ns) ∨
      ((before ++ [c]).filter Contact.beginsAttempt).length = left ∧ after = [] ∧
        settled = .error
          (.conflictsExhausted s!"ConfigMap {(Artifact.keyIn ns).display}" total) := by
  induction h generalizing before with
  | exhausted => cases before <;> cases hsplit
  | ended h hend =>
    have hmem : c ∈ before ++ c :: after := List.mem_append_right _ (List.mem_cons_self ..)
    exact absurd (fails_map.mp (h.course.fails_isConflict.mpr ⟨c, hsplit ▸ hmem, hc⟩)) hend
  | @again left log log' detail settled h hlater ih =>
    obtain ⟨first, hfilter, -⟩ := h.fails_isFatal
    by_cases hlate : ∃ l, before = log ++ l ∧ log' = l ++ c :: after
    · obtain ⟨l, hbefore, hl⟩ := hlate
      have hcount : ((before ++ [c]).filter Contact.beginsAttempt).length =
          ((l ++ [c]).filter Contact.beginsAttempt).length + 1 := by
        rw [hbefore, List.append_assoc, List.filter_append, hfilter, List.length_append,
          List.length_singleton, Nat.add_comm]
      rw [hcount, Nat.add_lt_add_iff_right, Nat.add_right_cancel_iff]
      exact ih hl
    · rcases List.append_eq_append_iff.mp hsplit with ⟨l, hbefore, hl⟩ | ⟨_ | ⟨c', l⟩, hlog, hl⟩
      · exact absurd ⟨l, hbefore, hl⟩ hlate
      · exact absurd ⟨[], by rw [hlog, List.append_nil, List.append_nil], hl.symm⟩ hlate
      · -- the conflict ends the first attempt
        cases hl
        have hend : l = [] := by
          apply h.course.eq_nil_of_not_ok hlog
          intro reply hreply
          exact not_fails_ok (hreply.fails_isConflict.mpr hc)
        subst hend
        rw [← hlog, hfilter]
        cases left with
        | zero =>
          obtain ⟨rfl, hsettled⟩ := hlater.eq_of_zero
          exact .inr ⟨rfl, rfl, hsettled⟩
        | succ left => exact .inl ⟨Nat.succ_lt_succ (Nat.succ_pos left), hlater.begins.imp
            fun _ ⟨rest, hrest⟩ => ⟨rest, hrest⟩⟩

end Attempts

end Attempts

/-! ## What merges tell -/

section Merged

variable {ns : String} {attempts : Nat} {log : List Contact}
  {result : Except OperatorError AggregateOutcome}

theorem not_beginsAttempt_of_isAside {c : Contact}
    (h : (PoolOperator.Request.store c.call).IsAside) : c.beginsAttempt = false := by
  obtain ⟨call, response⟩ := c
  cases call with
  | listPools => exact h.elim
  | _ => rfl

namespace Merged

theorem fails_isFatal (h : Merged ns attempts log result) :
    Fails result OperatorError.isFatal ↔
      ∃ c, (log.filter Contact.beginsAttempt).getLast? = some c ∧ c.IsMissing := by
  obtain ⟨first, reports, settled, rfl, hattempts, rfl, haside, -⟩ := h
  have hreports : reports.filter Contact.beginsAttempt = [] := by
    rw [List.filter_eq_nil_iff]
    intro c hc hbegins
    rw [not_beginsAttempt_of_isAside (haside c hc)] at hbegins
    cases hbegins
  rw [fails_map, hattempts.fails_isFatal, List.filter_append, hreports, List.append_nil]

theorem beginsAttempt_of_fails (h : Merged ns attempts log result)
    (hfatal : Fails result OperatorError.isFatal) {c : Contact} (hc : log.getLast? = some c) :
    c.beginsAttempt = true := by
  obtain ⟨first, reports, settled, rfl, hattempts, rfl, -, hnone⟩ := h
  rw [fails_map] at hfatal
  obtain ⟨e, he, hsort⟩ := hfatal
  rw [hnone ⟨e, he⟩, List.append_nil] at hc
  exact hattempts.beginsAttempt_of_fails ⟨e, he, hsort⟩ hc

theorem of_isMissing (h : Merged ns attempts log result) {c : Contact} (hc : c ∈ log)
    (hcall : c.call.IsDelete) (hmissing : c.IsMissing) : result = .ok .absent := by
  obtain ⟨first, reports, settled, rfl, hattempts, rfl, haside, -⟩ := h
  rcases List.mem_append.mp hc with hc | hc
  · exact hattempts.of_isMissing hc hcall hmissing
  · have haside := haside c hc
    obtain ⟨call, response⟩ := c
    cases call with
    | getPool | patchPoolStatus => exact hcall.elim
    | _ => exact haside.elim

theorem of_isConflict (h : Merged ns attempts log result) {before after : List Contact}
    {c : Contact} (hsplit : log = before ++ c :: after)
    (hcall : (PoolOperator.Request.store c.call).IsSettling) (hc : c.IsConflict) :
    ((before ++ [c]).filter Contact.beginsAttempt).length < attempts ∧
        (∃ next rest, after = next :: rest ∧ next.call = .listPools ns) ∨
      ((before ++ [c]).filter Contact.beginsAttempt).length = attempts ∧ after = [] ∧
        result = .error
          (.conflictsExhausted s!"ConfigMap {(Artifact.keyIn ns).display}" attempts) := by
  obtain ⟨first, reports, settled, rfl, hattempts, rfl, haside, hnone⟩ := h
  rcases List.append_eq_append_iff.mp hsplit with ⟨l, -, hl⟩ | ⟨_ | ⟨c', l⟩, hfirst, hl⟩
  · have hmem : c ∈ reports := hl ▸ List.mem_append_right _ (List.mem_cons_self ..)
    exact absurd (haside c hmem) hcall.not_isAside
  · have hl : c :: after = reports := hl
    have hmem : c ∈ reports := hl ▸ List.mem_cons_self ..
    exact absurd (haside c hmem) hcall.not_isAside
  · cases hl
    rcases hattempts.of_isConflict hfirst hc with ⟨hless, next, rest, rfl, hnext⟩ |
      ⟨hcount, rfl, hsettled⟩
    · exact .inl ⟨hless, next, rest ++ reports, rfl, hnext⟩
    · refine .inr ⟨hcount, ?_, by rw [hsettled]; rfl⟩
      rw [hnone ⟨_, hsettled⟩]
      rfl

end Merged

end Merged

/-! ## Whether there is another turn -/

/-- A failed turn is repeated just if its result does not end the pipeline. -/
theorem retried_iff_supervised (o : Operator) (pipeline object : String) (e : OperatorError) :
    (o.afterFailure pipeline object e).1 = .requeue
        ((o.countFailure (Operator.retryKey pipeline object)).nextDelay
          (Operator.retryKey pipeline object)).1.1 ↔
      ∀ results health, supervise pipeline (.failed e :: results) health =
        supervise pipeline results health := by
  cases he : e.isFatal with
  | true =>
    refine iff_of_false ?_ ?_
    · rw [(Operator.afterFailure_of_fatal he pipeline object).1]
      exact nofun
    · -- the pipeline ends with another error than if there were no result at all
      intro h
      have hfirst : (supervise pipeline [.failed e] {}).1 = e := by
        simp only [supervise, PipelineResult.fatal?, he, if_true]
      have hlast : (supervise pipeline [] {}).1 = streamEnded pipeline := rfl
      rw [h [] {}, hlast] at hfirst
      rw [← hfirst] at he
      cases he
  | false =>
    refine iff_of_true (Operator.afterFailure_of_not_fatal he pipeline object).1 ?_
    intro results health
    simp only [supervise, PipelineResult.fatal?, he, Bool.false_eq_true, if_false]

/-! ## Any dialogue -/

/-- **Only a missing collection is fatal.** Whatever an API answers, a merge fails for good just if
its last attempt has listed pools where there is nothing to be listed, and this was its last call. An
artifact that is missing when it is to be deleted is absent. A conflict on any call of an attempt
leads to the next attempt, or exhausts the attempts. A validation never fails for good if its probe
does not. And what fails is tried again with the next delay, just if it does not end the pipeline. -/
theorem fatal_iff_missing (now ns : String) (attempts : Nat) (key : ObjectKey) (client : Client)
    (probe : Instance → Except OperatorError Readiness)
    (hprobe : ∀ object, ¬Fails (probe object) OperatorError.isFatal) :
    let merge := (Task.aggregate now attempts ns).run (Dialogue.answer probe) ⟨client, []⟩
    let validation := (Task.validate now attempts key).run (Dialogue.answer probe) ⟨client, []⟩
    let log := merge.2.log
    (Fails merge.1 OperatorError.isFatal ↔
      ∃ c, (log.filter Contact.beginsAttempt).getLast? = some c ∧ c.IsMissing) ∧
    (Fails merge.1 OperatorError.isFatal → ∀ c, log.getLast? = some c → c.beginsAttempt = true) ∧
    (∀ c ∈ log, c.call.IsDelete → c.IsMissing → merge.1 = .ok .absent) ∧
    (∀ before c after, log = before ++ c :: after →
      (PoolOperator.Request.store c.call).IsSettling → c.IsConflict →
      ((before ++ [c]).filter Contact.beginsAttempt).length < attempts ∧
          (∃ next rest, after = next :: rest ∧ next.call = .listPools ns) ∨
        ((before ++ [c]).filter Contact.beginsAttempt).length = attempts ∧ after = [] ∧
          merge.1 = .error
            (.conflictsExhausted s!"ConfigMap {(Artifact.keyIn ns).display}" attempts)) ∧
    ¬Fails validation.1 OperatorError.isFatal ∧
    ∀ (o : Operator) pipeline object e, merge.1 = .error e ∨ validation.1 = .error e →
      ((o.afterFailure pipeline object e).1 = .requeue
          ((o.countFailure (Operator.retryKey pipeline object)).nextDelay
            (Operator.retryKey pipeline object)).1.1 ↔
        ∀ results health, supervise pipeline (.failed e :: results) health =
          supervise pipeline results health) := by
  intro merge validation log
  obtain ⟨log', hlog, hmerged⟩ := (Task.hears_aggregate now ns attempts).run hprobe ⟨client, []⟩
  have hlog : log = log' := hlog
  obtain ⟨-, -, hvalidation⟩ := (Task.hears_validate now attempts key).run hprobe ⟨client, []⟩
  rw [hlog]
  refine ⟨hmerged.fails_isFatal, fun hfatal _ => hmerged.beginsAttempt_of_fails hfatal,
    fun _ => hmerged.of_isMissing, fun _ _ _ => hmerged.of_isConflict, hvalidation, ?_⟩
  intro o pipeline object e _
  exact retried_iff_supervised o pipeline object e

/-- A response without a text. -/
def refusal (code : Nat) : Response := ⟨code, .complete ""⟩

/-- A list without pools. -/
def noPools : Response := ⟨200, .complete "\x7b\"items\":[]\x7d"⟩

/-- A merge with two attempts, and responses to its requests. -/
def mergeAnswered (responses : List Response) : Except OperatorError AggregateOutcome × Dialogue :=
  (Task.aggregate "" 2 "a").run (Dialogue.answer fun _ => .ok .ready) ⟨⟨"a", responses, []⟩, []⟩

/-- A conflict of the first attempt leads to the second one, whose list of what is missing is fatal.
What is missing elsewhere is not. -/
theorem fatal_iff_missing_later :
    Fails (mergeAnswered [noPools, refusal 409, refusal 404]).1 OperatorError.isFatal ∧
      ¬Fails (mergeAnswered [noPools, refusal 404]).1 OperatorError.isFatal := by
  have hprobe (object : Instance) :
      ¬Fails (.ok .ready : Except OperatorError Readiness) OperatorError.isFatal := not_fails_ok
  obtain ⟨hlater, -⟩ := fatal_iff_missing "" "a" 2 ⟨"a", "metallb"⟩
    ⟨"a", [noPools, refusal 409, refusal 404], []⟩ (fun _ => .ok .ready) hprobe
  obtain ⟨helsewhere, -⟩ := fatal_iff_missing "" "a" 2 ⟨"a", "metallb"⟩
    ⟨"a", [noPools, refusal 404], []⟩ (fun _ => .ok .ready) hprobe
  constructor
  · exact hlater.mpr ⟨⟨.listPools "a", some (refusal 404)⟩, rfl, _, ⟨_, rfl, rfl⟩, rfl⟩
  · intro hfatal
    obtain ⟨c, hlast, failure, ⟨r, hresponse, hrefuses⟩, -⟩ := helsewhere.mp hfatal
    have hlisted : ((mergeAnswered [noPools, refusal 404]).2.log.filter
        Contact.beginsAttempt).getLast? = some ⟨.listPools "a", some noPools⟩ := rfl
    cases hlisted.symm.trans hlast
    cases hresponse
    have htext : noPools.text = .ok "\x7b\"items\":[]\x7d" := rfl
    cases htext.symm.trans hrefuses

end PoolOperator
