import PoolOperator.Proofs.Reconcile.Company
import PoolOperator.Proofs.Reconcile.Reporter

/-!
# The state of an instance and its record

With nobody else about, a validation records the state that it returns: whatever conditions the
instance had before, this is the state that is read back from them afterwards. So a second
validation has nothing to write.
-/

namespace PoolOperator

open Store (serve WatchedPlaced Judged)

/-! ## The state by name and answer -/

/-- The state of an instance with a name, by the answer about its dependencies. -/
def Identity.stateOf (name : String) (readiness : Except OperatorError Readiness) :
    Except OperatorError IdentityState :=
  if name = Instance.canonicalName then
    readiness.map fun
      | .ready => .available
      | .notReady _ => .pending
  else .ok .degraded

theorem Identity.stateOf_canonical {name : String} (hname : name = Instance.canonicalName)
    (now : String) (answer : Readiness) :
    stateOf name (.ok answer) = .ok (ofReadiness now answer).1 := by
  rw [stateOf, if_pos hname]
  cases answer <;> rfl

/-! ## Reports that hold -/

section Reports

variable {α : Type} [Reported α] [WatchedPlaced α] [Called α]
  (order : List AddressPool → List AddressPool) (readiness : Except OperatorError Readiness)
  {s : Store} {key : ObjectKey} {cs desired : List Condition} {attempts : Nat}

namespace Task

theorem run_fetch_serve (hregistered : Watched.isRegistered α s = true) (key : ObjectKey) :
    (Reported.fetch (α := α) key).run (serve order readiness) s =
      (.ok ((Stored.objects s).get? key), s) := by
  obtain ⟨hreply, hstore⟩ := Called.answer_reading (α := α) s key
  have hanswer : serve order readiness (.store (Called.reading α key)) s =
      ((s.answer (Called.reading α key)).1, s) := by
    rw [Called.serve_reading]
    exact Prod.ext rfl hstore
  rw [Called.fetch_eq, run_call_bind hanswer, run_done, hreply,
    Store.get_of_isRegistered hregistered]

/-- A report of what has been said already changes nothing. -/
theorem run_report_of_stands (hstands : Stands α key cs s)
    (hmerge : Condition.merge? cs desired = none) (hattempts : 0 < attempts) :
    (report α attempts key desired).run (serve order readiness) s = (.ok false, s) := by
  obtain ⟨hregistered, object, hobject, rfl⟩ := hstands
  cases attempts with
  | zero => exact absurd hattempts (Nat.lt_irrefl 0)
  | succ left =>
    rw [report, reportWithin, run_bind, run_fetch_serve order readiness hregistered, hobject]
    dsimp only
    rw [hmerge]
    rfl

/-- Fewer conflicts than attempts do not keep a report from being made, and then it holds. -/
theorem run_report_holds [Judged α] (hs : s.Reachable) (hstands : Stands α key cs s)
    (htypes : (desired.map (·.type)).Nodup) (hless : s.statusConflicts < attempts) :
    ∃ (written : Bool) (s' : Store) (object : α),
      (report α attempts key desired).run (serve id readiness) s = (.ok written, s') ∧
        (Stored.objects s').get? key = some object ∧
        ∀ d ∈ desired, Condition.Holds d (conditionsOf object) := by
  cases hmerge : Condition.merge? cs desired with
  | none =>
    have hholds := Condition.holds_merge? htypes cs
    rw [hmerge, Option.getD_none] at hholds
    have hrun := run_report_of_stands id readiness hstands hmerge (Nat.zero_lt_of_lt hless)
    obtain ⟨-, object, hobject, rfl⟩ := hstands
    exact ⟨false, s, object, hrun, hobject, hholds⟩
  | some merged =>
    have hquiet : Surroundings.Quiet fun _ _ => {} :=
      ⟨fun _ _ => rfl, fun _ _ => rfl, fun _ _ pools => .refl pools⟩
    have hrun := run_serve_eq (report α attempts key desired) id readiness ⟨s, []⟩
    have hloses := losesNoUpdate_report (α := α) (fun _ _ => {}) readiness (x := ⟨s, []⟩) hs
      attempts key desired
    generalize (report α attempts key desired).run (Scene.answer (fun _ _ => {}) readiness)
      ⟨s, []⟩ = r at hrun hloses
    obtain ⟨hregistered, object, hobject, rfl⟩ := hstands
    have hok := ((hloses.alone hquiet hregistered object merged hobject hmerge).1 hless).1
    obtain ⟨L, -, -, -, hmerges, -⟩ := hloses.among_others
    obtain ⟨-, e, found, merged, -, -, hmerged, -⟩ := hmerges hok
    have hholds := Condition.holds_merge? htypes (conditionsOf found)
    rw [hmerged.merge, Option.getD_some] at hholds
    rw [hok] at hrun
    refine ⟨true, r.2.store, _, hrun, hmerged.after, ?_⟩
    rw [conditionsOf_withVersion, conditionsOf, withConditions, Called.status_withStatus]
    exact hholds

end Task

end Reports

/-! ## Validations -/

namespace Task

variable {order : List AddressPool → List AddressPool}
  {readiness : Except OperatorError Readiness} {s : Store} {key : ObjectKey}
  {cs desired : List Condition} {attempts : Nat} {object : Instance} {state : IdentityState}

/-- A state that is settled in is recorded. -/
theorem run_settleIn_holds (readiness : Except OperatorError Readiness) (hs : s.Reachable)
    (hstands : Stands Instance key cs s) (hrow : Condition.row desired = state.row)
    (hless : s.statusConflicts < attempts) :
    ∃ (s' : Store) (object : Instance),
      (settleIn attempts key state desired).run (serve id readiness) s = (.ok (some state), s') ∧
        s'.instances.get? key = some object ∧
        ∀ d ∈ desired, Condition.Holds d object.conditions := by
  obtain ⟨written, s', object, hrun, hobject, hholds⟩ := run_report_holds readiness hs hstands
    (IdentityState.nodup_types_of_row hrow) hless
  refine ⟨s', object, ?_, hobject, hholds⟩
  rw [settleIn, run_bind, hrun]
  rfl

theorem run_settleIn_of_stands (hstands : Stands Instance key cs s)
    (hholds : ∀ d ∈ desired, Condition.Holds d cs) (hattempts : 0 < attempts)
    (state : IdentityState) :
    (settleIn attempts key state desired).run (serve order readiness) s =
      (.ok (some state), s) := by
  rw [settleIn, run_bind, run_report_of_stands order readiness hstands
    (Condition.merge?_eq_none_of_holds hholds) hattempts]
  rfl

/-- What a validation of an instance that is there comes down to. -/
theorem run_validate_eq (hkind : s.hasInstanceKind = true)
    (hobject : s.instances.get? key = some object) (now : String) (attempts : Nat) :
    (validate now attempts key).run (serve order readiness) s =
      if key.name = Instance.canonicalName then
        match readiness with
        | .error e => (.error e, s)
        | .ok answer =>
          (settleIn attempts key (Identity.ofReadiness now answer).1
            (Identity.ofReadiness now answer).2).run (serve order readiness) s
      else if IdentityState.ofConditions object.conditions = .degraded then
        (.ok (some .degraded), s)
      else
        (settleIn attempts key .degraded (Identity.degradedConditions now key.name)).run
          (serve order readiness) s := by
  have hfetch : (call (.getInstance key)).run (serve order readiness) s =
      (.ok (some object), s) := by
    have hfound : (Stored.objects s).get? key = some object := hobject
    have hrun := run_fetch_serve (α := Instance) order readiness hkind key
    rwa [hfound] at hrun
  rw [validate, run_bind, hfetch]
  dsimp only
  split
  · rw [probe, ask_bind, run_ask]
    cases readiness <;> rfl
  · split <;> rfl

/-- Whether a store records a state of the instance under a key, in such a way that a validation
returns it and leaves the store as it is. -/
structure Records (readiness : Except OperatorError Readiness) (attempts : Nat) (key : ObjectKey)
    (state : IdentityState) (s : Store) : Prop where
  read : ∃ object, s.instances.get? key = some object ∧
    IdentityState.ofConditions object.conditions = state
  again (hkind : s.hasInstanceKind = true) (now : String) :
    (validate now attempts key).run (serve id readiness) s = (.ok (some state), s)

/-- The right name: the state of the answer is reported, and then it holds. -/
theorem run_validate_of_canonical (hname : key.name = Instance.canonicalName) (hs : s.Reachable)
    (hkind : s.hasInstanceKind = true) (hobject : s.instances.get? key = some object)
    (hless : s.statusConflicts < attempts) (now : String) (answer : Readiness) :
    ∃ s', (validate now attempts key).run (serve id (.ok answer)) s =
        (.ok (some (Identity.ofReadiness now answer).1), s') ∧
      Records (.ok answer) attempts key (Identity.ofReadiness now answer).1 s' := by
  have hrow := Identity.row_ofReadiness now answer
  obtain ⟨s', object', hrun, hobject', hholds⟩ := run_settleIn_holds (.ok answer) hs
    ⟨hkind, object, hobject, rfl⟩ hrow hless
  rw [run_validate_eq hkind hobject, if_pos hname]
  refine ⟨s', hrun, ⟨object', hobject', IdentityState.ofConditions_of_holds hrow hholds⟩, ?_⟩
  intro hkind' now'
  have hsame : (Identity.ofReadiness now' answer).1 = (Identity.ofReadiness now answer).1 := by
    cases answer <;> rfl
  have hholds' := Condition.holds_of_observations hholds
    (Identity.observations_ofReadiness now now' answer)
  rw [run_validate_eq hkind' hobject', if_pos hname]
  dsimp only
  rw [hsame]
  exact run_settleIn_of_stands ⟨hkind', object', hobject', rfl⟩ hholds'
    (Nat.zero_lt_of_lt hless) _

/-- A wrong name: whoever is degraded is not looked at again, whether this has just been found out
or before. -/
theorem run_validate_of_misnamed (hname : key.name ≠ Instance.canonicalName) (hs : s.Reachable)
    (hkind : s.hasInstanceKind = true) (hobject : s.instances.get? key = some object)
    (hless : s.statusConflicts < attempts) (now : String)
    (readiness : Except OperatorError Readiness) :
    ∃ s', (validate now attempts key).run (serve id readiness) s = (.ok (some .degraded), s') ∧
      Records readiness attempts key .degraded s' := by
  have hrecords {s' : Store} {object' : Instance} (hobject' : s'.instances.get? key = some object')
      (hdegraded : IdentityState.ofConditions object'.conditions = .degraded) :
      Records readiness attempts key .degraded s' := by
    refine ⟨⟨object', hobject', hdegraded⟩, fun hkind' now' => ?_⟩
    rw [run_validate_eq hkind' hobject', if_neg hname, if_pos hdegraded]
  rw [run_validate_eq hkind hobject, if_neg hname]
  by_cases hdegraded : IdentityState.ofConditions object.conditions = .degraded
  · rw [if_pos hdegraded]
    exact ⟨s, rfl, hrecords hobject hdegraded⟩
  · have hrow := Identity.row_degradedConditions now key.name
    obtain ⟨s', object', hrun, hobject', hholds⟩ := run_settleIn_holds readiness hs
      ⟨hkind, object, hobject, rfl⟩ hrow hless
    rw [if_neg hdegraded]
    exact ⟨s', hrun, hrecords hobject' (IdentityState.ofConditions_of_holds hrow hholds)⟩

/-- A validation returns the state that it records. -/
theorem run_validate_of_state (hs : s.Reachable) (hkind : s.hasInstanceKind = true)
    (hobject : s.instances.get? key = some object) (hless : s.statusConflicts < attempts)
    (hstate : Identity.stateOf key.name readiness = .ok state) (now : String) :
    ∃ s', (validate now attempts key).run (serve id readiness) s = (.ok (some state), s') ∧
      Records readiness attempts key state s' := by
  by_cases hname : key.name = Instance.canonicalName
  · cases readiness with
    | error e =>
      rw [Identity.stateOf, if_pos hname] at hstate
      cases hstate
    | ok answer =>
      rw [Identity.stateOf_canonical hname now answer] at hstate
      cases hstate
      exact run_validate_of_canonical hname hs hkind hobject hless now answer
  · rw [Identity.stateOf, if_neg hname] at hstate
    cases hstate
    exact run_validate_of_misnamed hname hs hkind hobject hless now readiness

/-- A question that is not answered ends a validation. -/
theorem run_validate_of_error {e : OperatorError} (hkind : s.hasInstanceKind = true)
    (hobject : s.instances.get? key = some object)
    (hstate : Identity.stateOf key.name readiness = .error e) (now : String) (attempts : Nat) :
    (validate now attempts key).run (serve order readiness) s = (.error e, s) := by
  rw [run_validate_eq hkind hobject]
  rw [Identity.stateOf] at hstate
  split at hstate
  · rename_i hname
    rw [if_pos hname]
    cases readiness with
    | error found =>
      cases hstate
      rfl
    | ok answer => cases hstate
  · cases hstate

/-- Nothing is asked about the dependencies of an instance with a wrong name. -/
theorem unprobed_validate (hname : key.name ≠ Instance.canonicalName) (now : String)
    (attempts : Nat) :
    (validate now attempts key).Only fun request => ∀ object, request ≠ .probe object := by
  have hcall (c : StoreCall) : (call c).Only fun request => ∀ object, request ≠ .probe object :=
    only_call fun _ => nofun
  have hreport : (report Instance attempts key (Identity.degradedConditions now key.name)).Only
      fun request => ∀ object, request ≠ .probe object :=
    only_reportWithin (hcall _) (fun _ => hcall _) _ _ _
  refine (hcall (.getInstance key)).bind fun reply => ?_
  rcases reply with e | _ | object
  · exact trivial
  · exact trivial
  · dsimp only
    rw [if_neg hname]
    split
    · exact trivial
    · refine hreport.bind fun result => ?_
      cases result <;> exact trivial

end Task

namespace World

variable {w : World} {key : ObjectKey} {object : Instance}

theorem Calm.isAlone {readiness : Except OperatorError Readiness} {settings : Settings}
    (h : w.Calm readiness settings) : w.IsAlone := by
  rw [IsAlone, h.disturbances]
  exact List.forall_mem_nil _

/-- **The recorded state.** Let an instance with any conditions be stored, with nobody else about
and fewer conflicts ordered for statuses than there are attempts. A validation returns the state
that goes with its name and with the answer about its dependencies, and this is the state that can
be read from its conditions afterwards. A second validation with the same answer returns the same
and leaves the store exactly as it is. If there is an error in place of an answer, the validation
returns it and leaves the store as it is. For a wrong name, there is no question at all. -/
theorem validate_returns_recorded (hreach : w.store.Reachable)
    (hkind : w.store.hasInstanceKind = true) (hquiet : w.disturbances = [])
    (hobject : w.store.instances.get? key = some object)
    (hless : w.store.statusConflicts < w.attempts) (now now' : String) :
    let first := w.perform (.validate now w.attempts key)
    let second := first.2.perform (.validate now' first.2.attempts key)
    first.1 = (Identity.stateOf key.name w.readiness).map some ∧
      (∀ state, first.1 = .ok (some state) →
        (∃ object', first.2.store.instances.get? key = some object' ∧
          IdentityState.ofConditions object'.conditions = state) ∧
        second.1 = .ok (some state) ∧ second.2.store = first.2.store) ∧
      (∀ e, first.1 = .error e → first.2.store = w.store) ∧
      (key.name ≠ Instance.canonicalName →
        (Task.validate now w.attempts key).Only fun request => ∀ i, request ≠ .probe i) := by
  intro first second
  have hcalm : w.Calm w.readiness w.operator.settings := ⟨hquiet, rfl, rfl⟩
  obtain ⟨w', hrun, hstore, hcalm'⟩ := hcalm.perform (.validate now w.attempts key)
  have hkind' : w'.store.hasInstanceKind = true := by
    have hjudged := Task.judgedOnly_validate hreach.keyed hcalm.isAlone now w.attempts key
    rw [hrun] at hjudged
    rw [hjudged.hasInstanceKind, hkind]
  -- both validations are replaced by what they come down to
  have hfirst : first = _ := hrun
  clear_value first
  subst hfirst
  have hattempts : w'.attempts = w.attempts := by rw [attempts, attempts, hcalm'.settings]
  obtain ⟨w'', hrun', hstore', -⟩ := hcalm'.perform (.validate now' w'.attempts key)
  have hsecond : second = _ := hrun'
  clear_value second
  subst hsecond
  cases hstate : Identity.stateOf key.name w.readiness with
  | error e =>
    rw [Task.run_validate_of_error hkind hobject hstate] at hstore ⊢
    exact ⟨rfl, nofun, fun _ _ => hstore, fun hname => Task.unprobed_validate hname now w.attempts⟩
  | ok state =>
    obtain ⟨s', hvalidate, hrecords⟩ :=
      Task.run_validate_of_state hreach hkind hobject hless hstate now
    rw [hvalidate] at hstore ⊢
    obtain rfl : w'.store = s' := hstore
    have hsecond := hrecords.again hkind' now'
    rw [← hattempts] at hsecond
    rw [hsecond] at hstore' ⊢
    refine ⟨rfl, ?_, nofun, fun hname => Task.unprobed_validate hname now w.attempts⟩
    rintro _ ⟨⟩
    exact ⟨hrecords.read, rfl, hstore'⟩

/-- A world in which somebody has called the canonical instance degraded, twice and among other
things, and a write of a status meets a conflict. -/
def misjudged : World where
  store := ({} : Store).edits
    [.addInstance {
        metadata := { name := some "metallb", ns := some "x" }
        spec := {}
        status := some ⟨[⟨"Degraded", .true, "Rumour", "", none⟩, ⟨"Ready", .unknown, "", "", none⟩,
          ⟨"Degraded", .true, "", "", none⟩]⟩ },
      .orderStatusConflicts 1]
  readiness := .ok (.notReady "soon")
  operator := { settings := ⟨"x", 1, 3, 1, 1, ⟨.v4 0, 0, 0⟩⟩ }

theorem validate_returns_recorded_misjudged :
    let first := misjudged.perform (.validate "1" misjudged.attempts ⟨"x", "metallb"⟩)
    let second := first.2.perform (.validate "2" first.2.attempts ⟨"x", "metallb"⟩)
    first.1 = .ok (some .pending) ∧
      (∃ i, first.2.store.instances.get? ⟨"x", "metallb"⟩ = some i ∧
        IdentityState.ofConditions i.conditions = .pending ∧ i.conditions.length = 6) ∧
      second.1 = .ok (some .pending) ∧ second.2.store = first.2.store := by
  intro first second
  obtain ⟨object, hobject⟩ : ∃ object,
      misjudged.store.instances.get? ⟨"x", "metallb"⟩ = some object :=
    Option.isSome_iff_exists.mp (by decide +kernel)
  obtain ⟨hreturns, hrecords, -, -⟩ := validate_returns_recorded (w := misjudged) ⟨_, rfl⟩
    (by decide +kernel) rfl hobject (by decide +kernel) "1" "2"
  have hpending : first.1 = .ok (some .pending) := hreturns
  obtain ⟨⟨i, hi, hstate⟩, hsecond, hsame⟩ := hrecords .pending hpending
  have hlength : (first.2.store.instances.get? ⟨"x", "metallb"⟩).map (·.conditions.length) =
    some 6 := by decide +kernel
  rw [hi, Option.map_some, Option.some.injEq] at hlength
  exact ⟨hpending, ⟨i, hi, hstate, hlength⟩, hsecond, hsame⟩

end World

end PoolOperator
