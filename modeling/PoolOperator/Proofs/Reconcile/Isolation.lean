import PoolOperator.Proofs.Reconcile.Alike

/-!
# Instances do not see each other

A validation reads and writes the instance under its key and nothing else. So validations of two
instances may change places, and what has nothing to do with an instance can be put into a run or
left out of it, and nobody who looks at this instance will notice.
-/

namespace PoolOperator

/-! ## Validations -/

/-- What a validation comes to. -/
abbrev Validated := Except OperatorError (Option IdentityState)

/-- Validates the instance under a key in a world in which the dependencies are in some state and
some things happen at calls. -/
def World.validate (w : World) (now : String) (readiness : Except OperatorError Readiness)
    (ds : List (StoreMethod × Disturbance)) (key : ObjectKey) : Validated × World :=
  { w with readiness := readiness, disturbances := ds }.perform (.validate now w.attempts key)

/-- Merges the pools of a namespace in a world in which some things happen at calls. -/
def World.merge (w : World) (now : String) (ds : List (StoreMethod × Disturbance)) (ns : String) :
    Except OperatorError AggregateOutcome × World :=
  { w with disturbances := ds }.perform (.aggregate now w.attempts ns)

namespace World

variable {clock : Option String → Option String} {key key' : ObjectKey} {w w' v : World}
  {now now' : String} {readiness : Except OperatorError Readiness}
  {ds ds' : List (StoreMethod × Disturbance)}

/-- Whether two worlds have the same settings and look alike at a key. -/
structure Abreast (clock : Option String → Option String) (key : ObjectKey) (w w' : World) :
    Prop where
  store : Store.Alike clock key w.store w'.store
  settings : w.operator.settings = w'.operator.settings

theorem Abreast.symm (h : Abreast clock key w w') : Abreast clock key w' w :=
  ⟨h.store.symm, h.settings.symm⟩

theorem Abreast.trans (h : Abreast clock key w w') (h' : Abreast clock key w' v) :
    Abreast clock key w v :=
  ⟨h.store.trans h'.store, h.settings.trans h'.settings⟩

/-- A world that looks at a key as it did. -/
theorem Abreast.of_overlooks (h : Abreast clock key w w') (hreach : v.store.Reachable)
    (hoverlooks : Store.Overlooks key w.store v.store)
    (hsettings : v.operator.settings = w.operator.settings) : Abreast clock key v w' :=
  ⟨h.store.of_overlooks hreach hoverlooks, hsettings.trans h.settings⟩

/-- Validations that notice the same have the same result. -/
theorem Abreast.validate (h : Abreast clock key w w') (now now' : String)
    (hnow : clock (some now) = clock (some now')) (readiness : Except OperatorError Readiness)
    (ds ds' : List (StoreMethod × Disturbance)) (hfair : ∀ d ∈ ds, d.2.IsFair key)
    (hfair' : ∀ d ∈ ds', d.2.IsFair key) (hcalls : ∀ method n,
      (disturbanceAt ds method n).seenFrom key = (disturbanceAt ds' method n).seenFrom key) :
    (w.validate now readiness ds key).1 = (w'.validate now' readiness ds' key).1 ∧
      Abreast clock key (w.validate now readiness ds key).2
        (w'.validate now' readiness ds' key).2 := by
  have hnothing : (Disturbance.meanwhile []).IsFair key := List.forall_mem_nil _
  have halike : Alike clock key { w with readiness := readiness, disturbances := ds }
      { w' with readiness := readiness, disturbances := ds' } :=
    ⟨h.store, rfl, disturbanceAt_of_forall hnothing hfair,
      disturbanceAt_of_forall hnothing hfair', hcalls⟩
  have hattempts : w.attempts = w'.attempts := by rw [attempts, attempts, h.settings]
  obtain ⟨hresult, hafter⟩ := Task.runAlike_validate halike hnow w.attempts
  rw [World.validate, World.validate, ← hattempts]
  refine ⟨hresult, hafter.store, ?_⟩
  rw [settings_perform, settings_perform]
  exact h.settings

/-- A validation of another instance is not noticed. -/
theorem Abreast.validate_other (h : Abreast clock key w w') (hne : key' ≠ key)
    (hforeign : ∀ d ∈ ds, d.2.IsForeign key) (now : String)
    (readiness : Except OperatorError Readiness) :
    Abreast clock key (w.validate now readiness ds key').2 w' := by
  obtain ⟨hreach, hoverlooks⟩ := (Task.fits_validate_of_ne hne now w.attempts w.store).overlooks
    (w := { w with readiness := readiness, disturbances := ds }) h.store.reachable hforeign
  exact h.of_overlooks hreach hoverlooks (settings_perform _ _)

/-- A merge is not noticed. -/
theorem Abreast.merge (h : Abreast clock key w w') (hforeign : ∀ d ∈ ds, d.2.IsForeign key)
    (now ns : String) : Abreast clock key (w.merge now ds ns).2 w' := by
  have hfits := Task.Fits.of_only (Task.not_isWriteTo_aggregate now w.attempts ns key) Store.Keyed
    w.store
  obtain ⟨hreach, hoverlooks⟩ :=
    hfits.overlooks (w := { w with disturbances := ds }) h.store.reachable hforeign
  exact h.of_overlooks hreach hoverlooks (settings_perform _ _)

end World

/-! ## Runs -/

/-- Something that happens in a run. -/
inductive Happening where
  | edit (e : StoreEdit)
  /-- A validation of the instance under a key. -/
  | validation (now : String) (readiness : Except OperatorError Readiness)
      (ds : List (StoreMethod × Disturbance)) (key : ObjectKey)
  /-- A merge of the pools of a namespace. -/
  | merge (now : String) (ds : List (StoreMethod × Disturbance)) (ns : String)

/-- What can be noticed under a key: a change that concerns it, or a validation, with what happens
at its calls. -/
inductive Notice where
  | edit (e : StoreEdit)
  | validation (now : String) (readiness : Except OperatorError Readiness)
      (calls : StoreMethod → Nat → Fate × List StoreEdit)

namespace Happening

/-- What can be noticed under a key of something that happens. -/
def seenFrom (key : ObjectKey) : Happening → Option Notice
  | .edit e => if e.Concerns key then some (.edit e) else none
  | .validation now readiness ds key' =>
    if key' = key then
      some (.validation now readiness fun method n => (disturbanceAt ds method n).seenFrom key)
    else none
  | .merge .. => none

/-- Whether what happens is fair to the instance under a key, and concerns it openly, not just in
passing at a call that is made for something else. -/
def IsFair (key : ObjectKey) : Happening → Prop
  | .edit e => e.IsFair key
  | .validation _ _ ds key' =>
    ∀ d ∈ ds, d.2.IsFair key ∧ (key' ≠ key → d.2.IsForeign key)
  | .merge _ ds _ => ∀ d ∈ ds, d.2.IsForeign key

theorem seenFrom_edit_of_not_concerns (key : ObjectKey) (e : StoreEdit) (h : ¬e.Concerns key) :
    (edit e).seenFrom key = none := if_neg h

theorem seenFrom_validation_of_ne (key key' : ObjectKey) (h : key' ≠ key) (now : String)
    (readiness : Except OperatorError Readiness) (ds : List (StoreMethod × Disturbance)) :
    (validation now readiness ds key').seenFrom key = none := if_neg h

/-- At calls that do not fail and at which nothing happens that concerns the key, there is nothing to
notice. -/
theorem seenFrom_validation (key : ObjectKey) (ds : List (StoreMethod × Disturbance))
    (hds : ∀ d ∈ ds, d.2.seenFrom key = (.answered, [])) (now : String)
    (readiness : Except OperatorError Readiness) :
    (validation now readiness ds key).seenFrom key = (validation now readiness [] key).seenFrom key := by
  rw [seenFrom, seenFrom, if_pos rfl, if_pos rfl]
  congr 2
  funext method n
  exact disturbanceAt_of_forall (P := fun d => d.seenFrom key = (.answered, [])) rfl hds method n

end Happening

namespace World

/-- The world after something has happened. -/
def happen (w : World) : Happening → World
  | .edit e => { w with store := w.store.edit e }
  | .validation now readiness ds key => (w.validate now readiness ds key).2
  | .merge now ds ns => (w.merge now ds ns).2

/-- The result for a key of something that happens. -/
def resultOn (key : ObjectKey) (w : World) : Happening → Option Validated
  | .validation now readiness ds key' =>
    if key' = key then some (w.validate now readiness ds key').1 else none
  | .edit _ | .merge .. => none

/-- The world after a run. -/
def after (w : World) (hs : List Happening) : World := hs.foldl happen w

/-- The results for a key in a run. -/
def resultsOn (key : ObjectKey) (w : World) : List Happening → List Validated
  | [] => []
  | h :: hs => (w.resultOn key h).toList ++ resultsOn key (w.happen h) hs

variable {clock : Option String → Option String} {key : ObjectKey} {w w' : World}
  {h h' : Happening} {hs hs' : List Happening}

theorem after_append (w : World) (hs hs' : List Happening) :
    w.after (hs ++ hs') = (w.after hs).after hs' := List.foldl_append

theorem resultsOn_append (hs hs' : List Happening) : ∀ w : World,
    w.resultsOn key (hs ++ hs') = w.resultsOn key hs ++ (w.after hs).resultsOn key hs' := by
  induction hs with
  | nil =>
    intro w
    rfl
  | cons h hs ih =>
    intro w
    rw [List.cons_append, resultsOn, resultsOn, ih, List.append_assoc]
    rfl

/-- What is not noticed has no result, and leaves what looks alike. -/
theorem Abreast.happen_unseen (habreast : Abreast clock key w w') (hfair : h.IsFair key)
    (hunseen : h.seenFrom key = none) :
    w.resultOn key h = none ∧ Abreast clock key (w.happen h) w' := by
  cases h with
  | edit e =>
    have hconcerns : ¬e.Concerns key := by simpa [Happening.seenFrom] using hunseen
    exact ⟨rfl, habreast.of_overlooks (habreast.store.reachable.edit e)
      (Store.overlooks_edit hconcerns hfair w.store) rfl⟩
  | validation now readiness ds key' =>
    have hne : key' ≠ key := by simpa [Happening.seenFrom] using hunseen
    exact ⟨if_neg hne, habreast.validate_other hne (fun d hd => (hfair d hd).2 hne) now readiness⟩
  | merge now ds ns => exact ⟨rfl, habreast.merge hfair now ns⟩

/-- What is noticed in the same way has the same result. -/
theorem Abreast.happen_seen (habreast : Abreast clock key w w') (hfair : h.IsFair key)
    (hfair' : h'.IsFair key) {notice : Notice} (hseen : h.seenFrom key = some notice)
    (hseen' : h'.seenFrom key = some notice) :
    w.resultOn key h = w'.resultOn key h' ∧
      Abreast clock key (w.happen h) (w'.happen h') := by
  cases h with
  | edit e =>
    obtain ⟨hconcerns, heq⟩ := Option.ite_none_right_eq_some.mp hseen
    cases heq
    cases h' with
    | edit e' =>
      obtain ⟨-, heq⟩ := Option.ite_none_right_eq_some.mp hseen'
      cases heq
      exact ⟨rfl, (habreast.store.edit hconcerns hfair).1, habreast.settings⟩
    | validation =>
      obtain ⟨-, heq⟩ := Option.ite_none_right_eq_some.mp hseen'
      cases heq
    | merge => cases hseen'
  | validation now readiness ds key₁ =>
    obtain ⟨rfl, heq⟩ := Option.ite_none_right_eq_some.mp hseen
    cases heq
    cases h' with
    | edit =>
      obtain ⟨-, heq⟩ := Option.ite_none_right_eq_some.mp hseen'
      cases heq
    | validation now' readiness' ds' key₂ =>
      obtain ⟨rfl, heq⟩ := Option.ite_none_right_eq_some.mp hseen'
      obtain ⟨rfl, rfl, hcalls⟩ := Notice.validation.inj (Option.some.inj heq)
      obtain ⟨hresult, hafter⟩ := habreast.validate _ _ rfl _ ds ds'
        (fun d hd => (hfair d hd).1) (fun d hd => (hfair' d hd).1)
        fun method n => (congrFun (congrFun hcalls method) n).symm
      refine ⟨?_, hafter⟩
      rw [resultOn, resultOn, if_pos rfl, if_pos rfl, hresult]
    | merge => cases hseen'
  | merge => cases hseen

/-- What is not noticed can be left out. -/
theorem Abreast.after_unseen (hs : List Happening) : ∀ {w w' : World}, Abreast clock key w w' →
    (∀ h ∈ hs, h.IsFair key) → (∀ h ∈ hs, h.seenFrom key = none) →
      w.resultsOn key hs = [] ∧ Abreast clock key (w.after hs) w' := by
  induction hs with
  | nil =>
    intro w w' habreast _ _
    exact ⟨rfl, habreast⟩
  | cons h hs ih =>
    intro w w' habreast hfair hunseen
    obtain ⟨hfairh, hfairhs⟩ := List.forall_mem_cons.mp hfair
    obtain ⟨hunseenh, hunseenhs⟩ := List.forall_mem_cons.mp hunseen
    obtain ⟨hresult, hafter⟩ := habreast.happen_unseen hfairh hunseenh
    obtain ⟨hresults, hend⟩ := ih hafter hfairhs hunseenhs
    refine ⟨?_, hend⟩
    rw [resultsOn, hresult, hresults]
    rfl

/-- **Runs in which the same is noticed have the same results.** -/
theorem Abreast.after (hs : List Happening) : ∀ {hs' : List Happening} {w w' : World},
    Abreast clock key w w' → (∀ h ∈ hs, h.IsFair key) → (∀ h ∈ hs', h.IsFair key) →
      hs.filterMap (·.seenFrom key) = hs'.filterMap (·.seenFrom key) →
        w.resultsOn key hs = w'.resultsOn key hs' ∧
          Abreast clock key (w.after hs) (w'.after hs') := by
  induction hs with
  | nil =>
    intro hs' w w' habreast _ hfair' hsame
    have hunseen := List.filterMap_eq_nil_iff.mp hsame.symm
    obtain ⟨hresults, hafter⟩ := habreast.symm.after_unseen hs' hfair' hunseen
    exact ⟨hresults.symm, hafter.symm⟩
  | cons h hs ih =>
    intro hs' w w' habreast hfair hfair' hsame
    obtain ⟨hfairh, hfairhs⟩ := List.forall_mem_cons.mp hfair
    rw [List.filterMap_cons] at hsame
    cases hseen : h.seenFrom key with
    | none =>
      rw [hseen] at hsame
      obtain ⟨hresult, hstep⟩ := habreast.happen_unseen hfairh hseen
      obtain ⟨hresults, hafter⟩ := ih hstep hfairhs hfair' hsame
      refine ⟨?_, hafter⟩
      rw [resultsOn, hresult, hresults]
      rfl
    | some notice =>
      rw [hseen] at hsame
      -- on the other side the same is noticed, after some things that are not
      obtain ⟨gs, h', hs'', rfl, hunseen, hseen', hsame'⟩ :=
        List.filterMap_eq_cons_iff.mp hsame.symm
      obtain ⟨hfairgs, hfairrest⟩ := List.forall_mem_append.mp hfair'
      obtain ⟨hfairh', hfairhs''⟩ := List.forall_mem_cons.mp hfairrest
      obtain ⟨hnothing, hbefore⟩ := habreast.symm.after_unseen gs hfairgs hunseen
      obtain ⟨hresult, hstep⟩ := hbefore.symm.happen_seen hfairh hfairh' hseen hseen'
      obtain ⟨hresults, hafter⟩ := ih hstep hfairhs hfairhs'' hsame'.symm
      rw [resultsOn_append, hnothing, List.nil_append, resultsOn, resultsOn, hresult, hresults,
        after_append]
      exact ⟨rfl, hafter⟩

end World

/-! ## Isolation -/

/-- What an instance shows is its gist and what a validation leaves alone. -/
theorem Instance.map_shown_eq_iff {clock : Option String → Option String} {a b : Option Instance} :
    a.map (shown clock) = b.map (shown clock) ↔
      a.map (gist clock) = b.map (gist clock) ∧ a.map bare = b.map bare := by
  have hshown (i : Instance) : i.shown clock = { i.bare with status := (i.gist clock).status } := rfl
  have hgist (i : Instance) : i.gist clock =
    { i.shown clock with metadata := { (i.shown clock).metadata with uid := none } } := rfl
  have hbare (i : Instance) : i.bare = { i.shown clock with status := none } := rfl
  cases a with
  | none => cases b <;> simp
  | some i =>
    cases b with
    | none => simp
    | some j =>
      simp only [Option.map_some, Option.some.injEq]
      constructor
      · intro h
        rw [hgist i, hgist j, hbare i, hbare j, h]
        exact ⟨rfl, rfl⟩
      · rintro ⟨h, h'⟩
        rw [hshown i, hshown j, h, h']

namespace World

variable {clock : Option String → Option String} {key key' : ObjectKey} {w w' : World}

/-- A world whose store has come about from an empty one, and in which no conflict is ordered for
the write of a status. -/
structure IsCalm (w : World) : Prop where
  reachable : w.store.Reachable
  statusConflicts : w.store.statusConflicts = 0

theorem IsCalm.abreast (hw : w.IsCalm) (clock : Option String → Option String) (key : ObjectKey) :
    Abreast clock key w w :=
  ⟨⟨hw.reachable, hw.reachable, hw.statusConflicts, hw.statusConflicts, rfl, rfl⟩, rfl⟩

/-- A validation writes to the status of its instance and to nothing else. -/
theorem validate_frame (hreach : w.store.Reachable) {ds : List (StoreMethod × Disturbance)}
    (halone : ∀ d ∈ ds, ∃ e, d.2 = .fail e) (now : String)
    (readiness : Except OperatorError Readiness) (key : ObjectKey) :
    Store.JudgedOnly key w.store (w.validate now readiness ds key).2.store ∧
      (w.validate now readiness ds key).2.operator = w.operator :=
  ⟨Task.judgedOnly_validate (w := { w with readiness := readiness, disturbances := ds })
    hreach.keyed halone now w.attempts key,
    (Task.uncounted_validate now w.attempts key).operator_perform _⟩

/-- Undisturbed validations of what shows the same have the same result, and leave what shows the
same. -/
theorem validate_shown (hw : w.IsCalm) (hw' : w'.IsCalm)
    (hsettings : w.operator.settings = w'.operator.settings)
    (hkind : w.store.hasInstanceKind = w'.store.hasInstanceKind)
    (hshown : (w.store.instances.get? key).map (Instance.shown clock) =
      (w'.store.instances.get? key).map (Instance.shown clock)) {now now' : String}
    (hnow : clock (some now) = clock (some now')) (readiness : Except OperatorError Readiness) :
    (w.validate now readiness [] key).1 = (w'.validate now' readiness [] key).1 ∧
      ((w.validate now readiness [] key).2.store.instances.get? key).map (Instance.shown clock) =
        ((w'.validate now' readiness [] key).2.store.instances.get? key).map
          (Instance.shown clock) := by
  obtain ⟨hgist, hbare⟩ := Instance.map_shown_eq_iff.mp hshown
  have hstore : Store.Alike clock key w.store w'.store :=
    ⟨hw.reachable, hw'.reachable, hw.statusConflicts, hw'.statusConflicts, hkind, hgist⟩
  obtain ⟨hresult, hafter⟩ := Abreast.validate ⟨hstore, hsettings⟩ now now' hnow
    readiness [] [] (List.forall_mem_nil _) (List.forall_mem_nil _) fun _ _ => rfl
  obtain ⟨hjudged, -⟩ := validate_frame hw.reachable (List.forall_mem_nil _) now readiness key
  obtain ⟨hjudged', -⟩ := validate_frame hw'.reachable (List.forall_mem_nil _) now' readiness key
  refine ⟨hresult, Instance.map_shown_eq_iff.mpr ⟨hafter.store.gist, ?_⟩⟩
  rw [hjudged.bare, hjudged'.bare, hbare]

/-- Undisturbed validations of two instances may change places, if time does not count. -/
theorem validate_comm (hw : w.IsCalm) (hne : key' ≠ key)
    (readiness readiness' : Except OperatorError Readiness) (now₁ now₂ now₃ now₄ : String) :
    let a := w.validate now₁ readiness [] key
    let ab := a.2.validate now₂ readiness' [] key'
    let b := w.validate now₃ readiness' [] key'
    let ba := b.2.validate now₄ readiness [] key
    a.1 = ba.1 ∧ ab.1 = b.1 ∧ ab.2.operator = ba.2.operator ∧
      ab.2.store.InstancesOnly ba.2.store ∧
      ∀ k, (ab.2.store.instances.get? k).map (Instance.shown fun _ => none) =
        (ba.2.store.instances.get? k).map (Instance.shown fun _ => none) := by
  intro a ab b ba
  have hnone {P : StoreMethod × Disturbance → Prop} : ∀ d ∈ [], P d := List.forall_mem_nil P
  -- neither validation is noticed under the key of the other one
  have hfirst : Abreast (fun _ => none) key b.2 w :=
    (hw.abreast _ key).validate_other hne hnone now₃ readiness'
  have hsecond : Abreast (fun _ => none) key' a.2 w :=
    (hw.abreast _ key').validate_other hne.symm hnone now₁ readiness
  obtain ⟨hresult, hba⟩ := hfirst.validate now₄ now₁ rfl readiness [] [] hnone hnone
    fun _ _ => rfl
  obtain ⟨hresult', hab⟩ := hsecond.validate now₂ now₃ rfl readiness' [] [] hnone hnone
    fun _ _ => rfl
  have hkey : Abreast (fun _ => none) key ab.2 ba.2 :=
    Abreast.trans ((hba.symm.trans hba).validate_other hne hnone now₂ readiness') hba.symm
  have hkey' : Abreast (fun _ => none) key' ab.2 ba.2 :=
    hab.trans ((hab.symm.trans hab).validate_other hne.symm hnone now₄ readiness).symm
  obtain ⟨ha, hoperator⟩ := validate_frame hw.reachable hnone now₁ readiness key
  obtain ⟨hb, hoperator'⟩ := validate_frame hw.reachable hnone now₃ readiness' key'
  obtain ⟨hab', hoperatorab⟩ :=
    validate_frame hsecond.store.reachable hnone now₂ readiness' key'
  obtain ⟨hba', hoperatorba⟩ := validate_frame hfirst.store.reachable hnone now₄ readiness key
  refine ⟨hresult.symm, hresult', ?_, ?_, fun k => Instance.map_shown_eq_iff.mpr ⟨?_, ?_⟩⟩
  · exact (hoperatorab.trans hoperator).trans (hoperatorba.trans hoperator').symm
  · exact (ha.toInstancesOnly.trans hab'.toInstancesOnly).both
      (hb.toInstancesOnly.trans hba'.toInstancesOnly) hw.statusConflicts
  · by_cases hk : k = key
    · rw [hk]
      exact hkey.store.gist
    · by_cases hk' : k = key'
      · rw [hk']
        exact hkey'.store.gist
      · rw [hab'.others k hk', ha.others k hk, hba'.others k hk, hb.others k hk']
  · rw [hab'.map_bare k, ha.map_bare k, hba'.map_bare k, hb.map_bare k]

/-- Runs in which the same is noticed under a key have the same results for it, and leave the same
there. -/
theorem after_unnoticed (hw : w.IsCalm) {hs hs' : List Happening} (hfair : ∀ h ∈ hs, h.IsFair key)
    (hfair' : ∀ h ∈ hs', h.IsFair key)
    (hsame : hs.filterMap (·.seenFrom key) = hs'.filterMap (·.seenFrom key)) :
    w.resultsOn key hs = w.resultsOn key hs' ∧
      ((w.after hs).store.instances.get? key).map (Instance.gist id) =
        ((w.after hs').store.instances.get? key).map (Instance.gist id) := by
  obtain ⟨hresults, hafter⟩ := (hw.abreast id key).after hs hfair hfair' hsame
  exact ⟨hresults, hafter.store.gist⟩

end World

/-- **Instances are isolated.** A validation writes to the status of the instance under its key and
to nothing else. Its result, and what it leaves there, depend on nothing but what is stored there,
whether instances can be stored at all, the state of the dependencies and the settings. So
validations of two instances may change places, if versions and times do not count; and whatever
happens elsewhere in a run, between its steps or at the calls of a validation, changes neither the
results for the instance nor what is recorded for it. -/
theorem World.instances_isolated (key : ObjectKey) :
    (∀ (w : World) (now : String) (readiness : Except OperatorError Readiness)
      (ds : List (StoreMethod × Disturbance)), w.store.Reachable →
      (∀ d ∈ ds, ∃ e, d.2 = .fail e) →
        Store.JudgedOnly key w.store (w.validate now readiness ds key).2.store ∧
          (w.validate now readiness ds key).2.operator = w.operator) ∧
    (∀ (clock : Option String → Option String) (w w' : World) (now now' : String)
      (readiness : Except OperatorError Readiness), w.IsCalm → w'.IsCalm →
      w.operator.settings = w'.operator.settings →
      w.store.hasInstanceKind = w'.store.hasInstanceKind →
      (w.store.instances.get? key).map (Instance.shown clock) =
        (w'.store.instances.get? key).map (Instance.shown clock) →
      clock (some now) = clock (some now') →
        (w.validate now readiness [] key).1 = (w'.validate now' readiness [] key).1 ∧
          ((w.validate now readiness [] key).2.store.instances.get? key).map
              (Instance.shown clock) =
            ((w'.validate now' readiness [] key).2.store.instances.get? key).map
              (Instance.shown clock)) ∧
    (∀ (w : World) (key' : ObjectKey) (readiness readiness' : Except OperatorError Readiness)
      (now₁ now₂ now₃ now₄ : String), w.IsCalm → key' ≠ key →
        let a := w.validate now₁ readiness [] key
        let ab := a.2.validate now₂ readiness' [] key'
        let b := w.validate now₃ readiness' [] key'
        let ba := b.2.validate now₄ readiness [] key
        a.1 = ba.1 ∧ ab.1 = b.1 ∧ ab.2.operator = ba.2.operator ∧
          ab.2.store.InstancesOnly ba.2.store ∧
          ∀ k, (ab.2.store.instances.get? k).map (Instance.shown fun _ => none) =
            (ba.2.store.instances.get? k).map (Instance.shown fun _ => none)) ∧
    (∀ (w : World) (hs hs' : List Happening), w.IsCalm → (∀ h ∈ hs, h.IsFair key) →
      (∀ h ∈ hs', h.IsFair key) →
      hs.filterMap (·.seenFrom key) = hs'.filterMap (·.seenFrom key) →
        w.resultsOn key hs = w.resultsOn key hs' ∧
          ((w.after hs).store.instances.get? key).map (Instance.gist id) =
            ((w.after hs').store.instances.get? key).map (Instance.gist id)) := by
  refine ⟨?_, ?_, ?_, ?_⟩
  · intro w now readiness ds hreach halone
    exact validate_frame hreach halone now readiness key
  · intro clock w w' now now' readiness hw hw' hsettings hkind hshown hnow
    exact validate_shown hw hw' hsettings hkind hshown hnow readiness
  · intro w key' readiness readiness' now₁ now₂ now₃ now₄ hw hne
    exact validate_comm hw hne readiness readiness' now₁ now₂ now₃ now₄
  · intro w hs hs' hw hfair hfair' hsame
    exact after_unnoticed hw hfair hfair' hsame

/-- An instance that asks for nothing special. -/
def Instance.plain (ns name : String) : Instance where
  metadata := { name := some name, ns := some ns }
  spec := {}

/-- A world with one instance. -/
def World.lonely : World where
  store := ({} : Store).edits [.addInstance (.plain "x" "metallb")]
  operator := { settings := ⟨"x", 1, 3, 1, 1, ⟨.v4 0, 0, 0⟩⟩ }

/-- The same with an instance of the same name in another namespace, an instance with a wrong name,
and a pool. -/
def World.settled : World :=
  { lonely with
    store := lonely.store.edits
      [.addInstance (.plain "y" "metallb"), .addInstance (.plain "x" "spare"),
        .addPool { metadata := { name := some "b", ns := some "x" }, spec := ⟨"layer2", [], none⟩ }] }

/-- Two validations of one instance. -/
def quietRun : List Happening :=
  [.validation "1" (.ok (.notReady "soon")) [] ⟨"x", "metallb"⟩,
    .validation "2" (.ok .ready) [] ⟨"x", "metallb"⟩]

/-- The same, while other instances are created, validated and deleted. -/
def busyRun : List Happening :=
  [.edit (.call (.createInstance (.plain "x" "third"))),
    .validation "1" (.ok .ready) [] ⟨"x", "spare"⟩,
    .validation "1" (.ok (.notReady "soon"))
      [(.patchInstanceStatus, .meanwhile [.call (.deleteInstance ⟨"x", "spare"⟩)])]
      ⟨"x", "metallb"⟩,
    .merge "1" [] "x",
    .edit (.call (.deleteInstance ⟨"y", "metallb"⟩)),
    .validation "2" (.ok .ready) [] ⟨"x", "metallb"⟩]

theorem World.instances_isolated_namesakes :
    let a := settled.validate "1" (.ok .ready) [] ⟨"x", "metallb"⟩
    a.2.store.instances.get? ⟨"y", "metallb"⟩ =
        settled.store.instances.get? ⟨"y", "metallb"⟩ ∧
      a.1 = (lonely.validate "2" (.ok .ready) [] ⟨"x", "metallb"⟩).1 ∧
      (a.2.validate "2" (.ok (.notReady "soon")) [] ⟨"y", "metallb"⟩).1 =
        (settled.validate "1" (.ok (.notReady "soon")) [] ⟨"y", "metallb"⟩).1 ∧
      settled.resultsOn ⟨"x", "metallb"⟩ busyRun =
        [.ok (some .pending), .ok (some .available)] := by
  intro a
  have hlonely : lonely.IsCalm := ⟨⟨_, rfl⟩, by decide +kernel⟩
  have hsettled : settled.IsCalm := ⟨hlonely.reachable.edits _, by decide +kernel⟩
  obtain ⟨hframe, hshown, hcomm, hruns⟩ := instances_isolated ⟨"x", "metallb"⟩
  refine ⟨?_, ?_, ?_, ?_⟩
  · exact (hframe settled "1" _ [] hsettled.reachable (List.forall_mem_nil _)).1.others _ (by decide)
  · exact (hshown (fun _ => none) settled lonely "1" "2" _ hsettled hlonely rfl (by decide +kernel)
      (by decide +kernel) rfl).1
  · exact (hcomm settled _ (.ok .ready) (.ok (.notReady "soon")) "1" "2" "1" "2" hsettled
      (by decide)).2.1
  · have hcreated := Happening.seenFrom_edit_of_not_concerns ⟨"x", "metallb"⟩
      (.call (.createInstance (.plain "x" "third"))) (by decide +kernel)
    have hspare := Happening.seenFrom_validation_of_ne ⟨"x", "metallb"⟩
      ⟨"x", "spare"⟩ (by decide) "1" (.ok .ready) []
    have hmeanwhile := Happening.seenFrom_validation ⟨"x", "metallb"⟩
      [(.patchInstanceStatus, .meanwhile [.call (.deleteInstance ⟨"x", "spare"⟩)])]
      (List.forall_mem_singleton.mpr rfl) "1" (.ok (.notReady "soon"))
    have hdeleted := Happening.seenFrom_edit_of_not_concerns ⟨"x", "metallb"⟩
      (.call (.deleteInstance ⟨"y", "metallb"⟩)) (by decide)
    have hsame : busyRun.filterMap (·.seenFrom ⟨"x", "metallb"⟩) =
        quietRun.filterMap (·.seenFrom ⟨"x", "metallb"⟩) := by
      simp only [busyRun, quietRun, List.filterMap_cons, hcreated, hspare, hmeanwhile, hdeleted]
      rfl
    have hfair : ∀ h ∈ busyRun, h.IsFair ⟨"x", "metallb"⟩ := by
      simp [busyRun, Happening.IsFair, StoreEdit.IsFair, Disturbance.IsFair, Disturbance.edits]
    have hquiet : ∀ h ∈ quietRun, h.IsFair ⟨"x", "metallb"⟩ := by
      simp [quietRun, Happening.IsFair]
    rw [(hruns settled busyRun quietRun hsettled hfair hquiet hsame).1]
    decide +kernel

end PoolOperator
