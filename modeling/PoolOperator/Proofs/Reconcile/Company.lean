import PoolOperator.Proofs.Reconcile.Alone
import PoolOperator.Proofs.Reconcile.Faults
import PoolOperator.Proofs.Reconcile.Sight

/-!
# Tasks in company

A task in a world keeps what is kept by its requests and by what others do at its calls. So a merge,
and the validation of an instance, leave all other instances alone.
-/

namespace PoolOperator

/-! ## In a world -/

namespace Task

variable {α : Type} {fit : Request → Store → Prop} {valid P : Store → Prop} {t : Task α}

theorem Fits.of_only {Q : Request → Prop} (h : t.Only Q) (valid : Store → Prop) (s : Store) :
    t.Fits (fun request _ => Q request) valid s := by
  induction t generalizing s with
  | done a => exact trivial
  | ask request next ih => exact fun s' _ _ => ⟨h.1, fun fate readiness => ih _ (h.2 _) _⟩

/-- A task whose requests fit keeps what fitting requests keep, and what is done at its calls. -/
theorem Fits.perform {w : World} (h : t.Fits fit valid w.store) (hw : P w.store)
    (hvalid : ∀ s, P s → valid s ∧ s.Keyed)
    (hothers : ∀ d ∈ w.disturbances, ∀ s, P s → P (s.edits d.2.edits))
    (hrequest : ∀ request s fate readiness, fit request s → P s →
      P (s.reply fate readiness request).2) : P (w.perform t).2.store := by
  induction t generalizing w with
  | done a => exact hw
  | ask request next ih =>
    cases request with
    | store c =>
      obtain ⟨ds, hanswer, hds, -⟩ := w.answerCall_eq c
      show P ((next (w.answerCall c).1).run World.answer (w.answerCall c).2).2.store
      have hmeanwhile := disturbanceAt_of_forall (P := fun d => P (w.store.edits d.edits)) hw
        (fun d hd => hothers d hd _ hw) c.method 0
      rw [hanswer]
      generalize disturbanceAt w.disturbances c.method 0 = d at hmeanwhile ⊢
      obtain ⟨hfit, hnext⟩ :=
        h _ (Store.changes_edits d.edits (hvalid _ hw).2) (hvalid _ hmeanwhile).1
      exact ih _ (hnext d.fate w.readiness) (hrequest _ _ d.fate w.readiness hfit hmeanwhile)
        fun d hd => hothers d (hds hd)
    | probe object =>
      exact ih _ ((h _ .refl (hvalid _ hw).1).2 .answered w.readiness) hw hothers
    | countWrite operation =>
      exact ih () ((h _ .refl (hvalid _ hw).1).2 .answered w.readiness) hw hothers

end Task

/-! ## Other instances -/

/-- Whether what others do at a call is fair to the instance under a key. -/
def Disturbance.IsFair (key : ObjectKey) (d : Disturbance) : Prop := ∀ e ∈ d.edits, e.IsFair key

/-- Whether what others do at a call is fair to the instance under a key and does not concern it. -/
def Disturbance.IsForeign (key : ObjectKey) (d : Disturbance) : Prop :=
  ∀ e ∈ d.edits, e.IsFair key ∧ ¬e.Concerns key

namespace Store

variable {s : Store} {key : ObjectKey} {es : List StoreEdit}

theorem overlooks_edits (h : ∀ e ∈ es, e.IsFair key ∧ ¬e.Concerns key) :
    ∀ s : Store, Overlooks key s (s.edits es) := by
  induction es with
  | nil => exact fun s => .refl key s
  | cons e es ih =>
    intro s
    obtain ⟨he, hes⟩ := List.forall_mem_cons.mp h
    exact (overlooks_edit he.2 he.1 s).trans (ih hes _)

theorem Reachable.reply (hs : s.Reachable) (fate : Fate)
    (readiness : Except OperatorError Readiness) (request : Request) :
    (s.reply fate readiness request).2.Reachable := by
  cases request with
  | store c => cases fate with
    | answered | lost => exact hs.answer c
    | failed => exact hs
  | probe | countWrite => exact hs

/-- A request that is not to write under a key is overlooked there. -/
theorem overlooks_reply {request : Request} (h : ¬request.IsWriteTo key) (fate : Fate)
    (readiness : Except OperatorError Readiness) (s : Store) :
    Overlooks key s (s.reply fate readiness request).2 := by
  cases request with
  | store c =>
    have hfair : (StoreEdit.call c).IsFair key := by
      cases c with
      | patchInstanceStatus x => exact fun hkey => absurd hkey h
      | _ => exact trivial
    cases fate with
    | answered | lost => exact overlooks_edit (e := .call c) h hfair s
    | failed => exact .refl key s
  | probe | countWrite => exact .refl key s

end Store

namespace Task

variable {α : Type} {t : Task α} {w : World} {key key' : ObjectKey}

/-- A task that does not ask to write under a key is overlooked there, if nobody else writes. -/
theorem Fits.overlooks (h : t.Fits (fun request _ => ¬request.IsWriteTo key) Store.Keyed w.store)
    (hreach : w.store.Reachable) (hforeign : ∀ d ∈ w.disturbances, d.2.IsForeign key) :
    (w.perform t).2.store.Reachable ∧ Store.Overlooks key w.store (w.perform t).2.store := by
  refine h.perform (P := fun s => s.Reachable ∧ Store.Overlooks key w.store s)
    ⟨hreach, .refl key w.store⟩ (fun s hs => ⟨hs.1.keyed, hs.1.keyed⟩) ?_ ?_
  · intro d hd s hs
    exact ⟨hs.1.edits d.2.edits, hs.2.trans (Store.overlooks_edits (hforeign d hd) s)⟩
  · intro request s fate readiness hrequest hs
    exact ⟨hs.1.reply fate readiness request,
      hs.2.trans (Store.overlooks_reply hrequest fate readiness s)⟩

/-- A validation does not ask to write under another key. -/
theorem fits_validate_of_ne (hne : key' ≠ key) (now : String) (attempts : Nat) (s : Store) :
    (validate now attempts key').Fits (fun request _ => ¬request.IsWriteTo key) Store.Keyed s := by
  refine fits_validate_of ⟨fun _ => id, fun _ _ => id, ?_⟩ now attempts s
  intro s s' current desired cs hs _ _ hcurrent _ _ hwrite
  exact hne ((hs.instances hcurrent).eq hwrite)

/-- A merge does not ask to write to instances. -/
theorem not_isWriteTo_aggregate (now : String) (attempts : Nat) (ns : String) (key : ObjectKey) :
    (aggregate now attempts ns).Only fun request => ¬request.IsWriteTo key := by
  refine (only_aggregate now attempts ns).mono ?_
  rintro (c | _ | _) h
  · cases c with
    | createInstance | deleteInstance | patchInstanceStatus =>
      rcases h with (⟨_, h⟩ | h) | h
      · cases h
      all_goals exact h.elim
    | _ => exact id
  · exact id
  · exact id

end Task

/-! ## The frame of a validation -/

/-- Requests to read instances, to probe, or to write the status of the instance under a key. -/
def Request.IsOwn (key : ObjectKey) : Request → Prop
  | .store (.getInstance _) | .probe _ => True
  | .store (.patchInstanceStatus x) => x.metadata.HasKey key
  | _ => False

/-- An instance without its version and its status. -/
def Instance.bare (i : Instance) : Instance :=
  { i with metadata := { i.metadata with resourceVersion := none }, status := none }

namespace Store

variable {s s' s'' : Store} {key : ObjectKey}

theorem InstancesOnly.trans (h : s.InstancesOnly s') (h' : s'.InstancesOnly s'') :
    s.InstancesOnly s'' where
  pools := h'.pools.trans h.pools
  configMaps := h'.configMaps.trans h.configMaps
  poolEvents := h'.poolEvents.trans h.poolEvents
  hasPoolKind := h'.hasPoolKind.trans h.hasPoolKind
  hasInstanceKind := h'.hasInstanceKind.trans h.hasInstanceKind
  configMapConflicts := h'.configMapConflicts.trans h.configMapConflicts
  configMapWrites := h'.configMapWrites.trans h.configMapWrites
  statusConflicts := Nat.le_trans h'.statusConflicts h.statusConflicts

/-- Two stores that have come from one in which no conflict was ordered, by changes of instances
only, do not differ in anything else either. -/
theorem InstancesOnly.both (h : s.InstancesOnly s') (h' : s.InstancesOnly s'')
    (hcalm : s.statusConflicts = 0) : s'.InstancesOnly s'' where
  pools := h'.pools.trans h.pools.symm
  configMaps := h'.configMaps.trans h.configMaps.symm
  poolEvents := h'.poolEvents.trans h.poolEvents.symm
  hasPoolKind := h'.hasPoolKind.trans h.hasPoolKind.symm
  hasInstanceKind := h'.hasInstanceKind.trans h.hasInstanceKind.symm
  configMapConflicts := h'.configMapConflicts.trans h.configMapConflicts.symm
  configMapWrites := h'.configMapWrites.trans h.configMapWrites.symm
  statusConflicts := Nat.le_trans h'.statusConflicts (hcalm ▸ Nat.zero_le _)

/-- Whether two stores differ in the status and the version of the instance under a key only, and in
what is counted and logged for instances. -/
structure JudgedOnly (key : ObjectKey) (s s' : Store) : Prop extends InstancesOnly s s' where
  others (key' : ObjectKey) (h : key' ≠ key) : s'.instances.get? key' = s.instances.get? key'
  bare : (s'.instances.get? key).map Instance.bare = (s.instances.get? key).map Instance.bare

theorem JudgedOnly.refl (key : ObjectKey) (s : Store) : JudgedOnly key s s :=
  ⟨.refl s, fun _ _ => rfl, rfl⟩

theorem JudgedOnly.trans (h : JudgedOnly key s s') (h' : JudgedOnly key s' s'') :
    JudgedOnly key s s'' :=
  ⟨h.toInstancesOnly.trans h'.toInstancesOnly,
    fun key' hne => (h'.others key' hne).trans (h.others key' hne), h'.bare.trans h.bare⟩

/-- Wherever nothing has happened but in a status and a version, all instances are bare the same. -/
theorem JudgedOnly.map_bare (h : JudgedOnly key s s') (key' : ObjectKey) :
    (s'.instances.get? key').map Instance.bare = (s.instances.get? key').map Instance.bare := by
  by_cases heq : key' = key
  · rw [heq]
    exact h.bare
  · rw [h.others key' heq]

/-- A write of a status leaves all of an instance but the status and the version. -/
theorem StatusWrite.bare {x : Instance} {reply : Except StoreError Instance}
    (h : StatusWrite s key x reply s') :
    (s'.instances.get? key).map Instance.bare = (s.instances.get? key).map Instance.bare := by
  cases h with
  | refused => rfl
  | overtaken =>
    rw [get?_bump, if_pos rfl, Option.map_map]
    rfl
  | written hstored =>
    change s.instances.get? key = some _ at hstored
    show ((s.instances.insert key _).get? key).map _ = _
    rw [SortedMap.get?_insert_self, hstored]
    rfl

theorem judgedOnly_patchStatus {x : Instance} (hkey : x.metadata.HasKey key) (s : Store) :
    JudgedOnly key s (s.patchStatus x).2 := by
  refine ⟨s.keptBeside_instancesOnly.patchStatus (.refl s) x, ?_, ?_⟩
  · intro key' hne
    exact s.get?_patchStatus_of_ne fun hkey' => hne (hkey'.eq hkey)
  · exact StatusWrite.bare (x := x) (statusWrite_patchStatus hkey)

end Store

namespace Task

variable {w : World} {key : ObjectKey}

/-- A validation asks for the instance, for its dependencies, and for writes of its status. -/
theorem only_validate {P : Request → Prop} (hfetch : P (.store (.getInstance key)))
    (hprobe : ∀ object, P (.probe object)) (hwrite : ∀ x, P (.store (.patchInstanceStatus x)))
    (now : String) (attempts : Nat) : (validate now attempts key).Only P := by
  have hreport (desired : List Condition) (state : IdentityState) :
      (settleIn attempts key state desired).Only P := by
    refine (only_reportWithin (only_call hfetch) (fun x => only_call (hwrite x)) desired attempts
      attempts).bind fun result => ?_
    cases result <;> exact trivial
  refine ⟨hfetch, fun reply => ?_⟩
  rcases reply with e | _ | object
  · exact trivial
  · exact trivial
  dsimp only
  split
  · refine ⟨hprobe object, fun readiness => ?_⟩
    cases readiness with
    | error e => exact trivial
    | ok readiness => exact hreport _ _
  · show (if IdentityState.ofConditions object.conditions = .degraded then _ else _ : Task _).Only _
    split
    · exact trivial
    · exact hreport _ _

theorem uncounted_validate (now : String) (attempts : Nat) (key : ObjectKey) :
    (validate now attempts key).Only fun request => ∀ operation, request ≠ .countWrite operation :=
  only_validate nofun (fun _ => nofun) (fun _ => nofun) now attempts

theorem judgedOnly_validate (hkeyed : w.store.Keyed) (halone : w.IsAlone) (now : String)
    (attempts : Nat) (key : ObjectKey) :
    Store.JudgedOnly key w.store (w.perform (.validate now attempts key)).2.store := by
  have hallows : AllowsValidation (fun request _ => request.IsOwn key) Store.Keyed key := by
    refine ⟨fun _ => trivial, fun _ _ => trivial, ?_⟩
    intro s s' current desired cs hs _ _ hcurrent _ _
    have hkey : current.metadata.HasKey key := hs.instances hcurrent
    exact hkey
  have hfits := fits_validate_of hallows now attempts w.store
  refine (hfits.perform (P := fun s => s.Keyed ∧ Store.JudgedOnly key w.store s)
    ⟨hkeyed, .refl key w.store⟩ (fun s hs => ⟨hs.1, hs.1⟩) ?_ ?_).2
  · intro d hd s hs
    obtain ⟨e, he⟩ := halone d hd
    rw [he]
    exact hs
  · intro request s fate readiness hrequest hs
    refine ⟨hs.1.changes (Store.changes_reply fate readiness hs.1 request), hs.2.trans ?_⟩
    rcases request with c | _ | _
    · cases c with
      | patchInstanceStatus x =>
        cases fate with
        | failed => exact .refl key s
        | answered | lost => exact s.judgedOnly_patchStatus hrequest
      | getInstance => cases fate <;> exact .refl key s
      | _ => exact hrequest.elim
    · exact .refl key s
    · exact hrequest.elim

end Task

end PoolOperator
