import PoolOperator.Proofs.Reconcile.Calls
import PoolOperator.Proofs.Store.Instance
import PoolOperator.Reconcile.Validate

/-!
# Validating amid others

Between two requests of a validation others may act, and its calls may fail before or after the
store has acted on them. Whatever happens, a validation writes suited statuses only, and none to an
instance with a wrong name that has one.
-/

namespace PoolOperator

/-! ## Requests -/

namespace Store

variable {s : Store} {key : ObjectKey} {i : Instance}

variable (fate : Fate) (readiness : Except OperatorError Readiness)

theorem changes_reply (hs : s.Keyed) (request : Request) :
    Changes s (s.reply fate readiness request).2 := by
  rcases request with call | object | operation
  · cases fate with
    | answered | lost => exact changes_answer hs call
    | failed => exact .refl
  · exact .refl
  · exact .refl

theorem reply_getInstance_snd (s : Store) (key : ObjectKey) :
    (s.reply fate readiness (.store (.getInstance key))).2 = s := by
  cases fate <;> rfl

variable {fate readiness}

theorem get?_of_reply_getInstance
    (h : (s.reply fate readiness (.store (.getInstance key))).1 = .ok (some i)) :
    s.instances.get? key = some i := by
  cases fate with
  | answered =>
    change ((checkKind Instance s).bind fun _ => .ok (s.instances.get? key)) = _ at h
    cases hkind : checkKind Instance s with
    | error e =>
      rw [hkind] at h
      cases h
    | ok _ =>
      rw [hkind] at h
      exact Except.ok.inj h
  | failed | lost => cases h

end Store

/-- Whether the status of an instance may be written under a key: it is suited to the name, and a
write under a wrong name is not based on a version of an instance with a status. -/
structure Instance.MayBeWritten (x : Instance) (key : ObjectKey) (s : Store) : Prop where
  hasKey : x.metadata.HasKey key
  isProper : x.IsProper key.name
  version (hname : key.name ≠ canonicalName) {stored : Instance}
    (hstored : s.instances.get? key = some stored) (hstatus : stored.status ≠ none) :
    x.metadata.resourceVersion ≠ none ∧
      x.metadata.resourceVersion ≠ stored.metadata.resourceVersion

namespace Request

variable {request : Request} {s : Store} {key key' : ObjectKey} {i : Instance}
  (fate : Fate) (readiness : Except OperatorError Readiness)

/-- Whether a request to a store is one that a validation of the instance under a key may make. -/
def IsFit (key : ObjectKey) : Request → Store → Prop
  | .store (.getInstance _), _ | .probe _, _ => True
  | .store (.patchInstanceStatus x), s => x.MayBeWritten key s
  | _, _ => False

/-- Whether a request is to change the instance under a key. -/
def IsWriteTo (key : ObjectKey) : Request → Prop
  | .store (.createInstance x) | .store (.patchInstanceStatus x) => x.metadata.HasKey key
  | .store (.deleteInstance key') => key' = key
  | _ => False

theorem IsFit.eq_of_isWriteTo (h : request.IsFit key s) (hwrite : request.IsWriteTo key') :
    key' = key := by
  rcases request with call | object | operation
  · cases call with
    | patchInstanceStatus x => exact hwrite.eq h.hasKey
    | createInstance | deleteInstance => exact h.elim
    | _ => exact hwrite.elim
  · exact hwrite.elim
  · exact hwrite.elim

theorem IsFit.isProper (h : request.IsFit key s) (hs : s.IsProper) :
    (s.reply fate readiness request).2.IsProper := by
  rcases request with call | object | operation
  · cases fate with
    | failed => exact hs
    | answered | lost =>
      cases call with
      | getInstance => exact hs
      | patchInstanceStatus x => exact hs.patchStatus h.hasKey h.isProper
      | _ => exact h.elim
  · exact hs
  · exact hs

/-- A fit request leaves an instance with a wrong name alone once it has a status. -/
theorem IsFit.spares (h : request.IsFit key s) (hname : key'.name ≠ Instance.canonicalName)
    (hi : s.instances.get? key' = some i) (hstatus : i.status ≠ none) :
    ∃ j, (s.reply fate readiness request).2.instances.get? key' = some j ∧ i.SameButVersion j := by
  rcases request with call | object | operation
  · cases fate with
    | failed => exact ⟨i, hi, .refl i⟩
    | answered | lost =>
      cases call with
      | getInstance => exact ⟨i, hi, .refl i⟩
      | patchInstanceStatus x =>
        refine (Store.statusWrite_patchStatus h.hasKey).spares hi fun hkey => ?_
        rw [hkey] at hname hi
        exact h.version hname hi hstatus
      | _ => exact h.elim
  · exact ⟨i, hi, .refl i⟩
  · exact ⟨i, hi, .refl i⟩

end Request

/-! ## Tasks -/

/-- Whether all requests of a task fit the stores that they are made to, as long as these are valid:
others may change the store before each request, which may have any fate. -/
def Task.Fits {α : Type} (fit : Request → Store → Prop) (valid : Store → Prop) :
    Task α → Store → Prop
  | .done _, _ => True
  | .ask request next, s => ∀ s', Store.Changes s s' → valid s' →
    fit request s' ∧ ∀ fate readiness,
      (next (s'.reply fate readiness request).1).Fits fit valid
        (s'.reply fate readiness request).2

namespace Task

variable {α β : Type} {fit fit' : Request → Store → Prop} {valid valid' : Store → Prop}
  {t : Task α} {s s' : Store}

theorem Fits.later (h : t.Fits fit valid s) (hchanges : Store.Changes s s') :
    t.Fits fit valid s' := by
  cases t with
  | done a => exact trivial
  | ask request next => exact fun s'' hchanges' => h s'' (hchanges.trans hchanges')

theorem Fits.mono (h : t.Fits fit valid s) (hvalid : ∀ s, valid' s → valid s)
    (hfit : ∀ request s, fit request s → fit' request s) : t.Fits fit' valid' s := by
  induction t generalizing s with
  | done a => exact trivial
  | ask request next ih =>
    intro s' hchanges hs'
    obtain ⟨hrequest, hnext⟩ := h s' hchanges (hvalid s' hs')
    exact ⟨hfit request s' hrequest, fun fate readiness => ih _ (hnext fate readiness)⟩

theorem Fits.bind (h : t.Fits fit valid s) {f : α → Task β} (hf : ∀ a s, (f a).Fits fit valid s) :
    (t >>= f).Fits fit valid s := by
  induction t generalizing s with
  | done a => exact hf a s
  | ask request next ih =>
    intro s' hchanges hs'
    obtain ⟨hrequest, hnext⟩ := h s' hchanges hs'
    exact ⟨hrequest, fun fate readiness => ih _ (hnext fate readiness)⟩

theorem fits_call_bind {c : StoreCall} {f : Except StoreError c.Reply → Task α} :
    (call c >>= f).Fits fit valid s ↔ ∀ s', Store.Changes s s' → valid s' →
      fit (.store c) s' ∧ ∀ fate readiness,
        (f (s'.reply fate readiness (.store c)).1).Fits fit valid
          (s'.reply fate readiness (.store c)).2 := Iff.rfl

/-! ## Validations -/

variable {key : ObjectKey} {desired : List Condition}

/-- What has been merged into an instance as it was may be written to it later. -/
theorem mayBeWritten_of_merge? (hs : s.IsProper) (hchanges : Store.Changes s s')
    {current : Instance} (hcurrent : s.instances.get? key = some current)
    (hdesired : Instance.IsSuited key.name desired) {cs : List Condition}
    (hcs : Condition.merge? current.conditions desired = some cs) :
    (withConditions current cs).MayBeWritten key s' := by
  have hkey : current.metadata.HasKey key := hs.reachable.keyed.instances hcurrent
  have hproper : current.IsProper key.name := hs.instances hcurrent
  refine ⟨hkey, ?_, ?_⟩
  · intro status hstatus
    cases hstatus
    rw [← Condition.merged_of_eq_some hcs]
    exact hdesired.merged hproper
  · intro hname stored hstored hstatus
    obtain ⟨v, -, hv⟩ := hs.reachable.version (α := Instance) hcurrent
    change current.metadata.resourceVersion = some (toString v) at hv
    constructor
    · intro hnone
      cases hv.symm.trans hnone
    · -- in the same version the instance is as it was, so it has had a status all the time
      intro hversion
      have heq : stored = current :=
        hs.reachable.eq_of_version_eq hchanges hcurrent hstored hversion.symm
      rw [heq] at hstatus
      obtain ⟨status, hsome⟩ := Option.ne_none_iff_exists'.mp hstatus
      rw [hproper.merge?_eq_none hname hsome hdesired] at hcs
      cases hcs

/-- Whether the requests of a validation fit: it may read and probe, and write what it has merged
into what it has read. -/
structure AllowsValidation (fit : Request → Store → Prop) (valid : Store → Prop)
    (key : ObjectKey) : Prop where
  read (s : Store) : fit (.store (.getInstance key)) s
  probe (object : Instance) (s : Store) : fit (.probe object) s
  write {s s' : Store} {current : Instance} {desired cs : List Condition} (hs : valid s)
    (hchanges : Store.Changes s s') (hs' : valid s')
    (hcurrent : s.instances.get? key = some current)
    (hdesired : Instance.IsSuited key.name desired)
    (hcs : Condition.merge? current.conditions desired = some cs) :
    fit (.store (.patchInstanceStatus (withConditions current cs))) s'

section Allowed

variable (hallows : AllowsValidation fit valid key)

include hallows

theorem fits_reportWithin (hdesired : Instance.IsSuited key.name desired) (total left : Nat)
    (s : Store) : (reportWithin Instance key desired total left).Fits fit valid s := by
  induction left generalizing s with
  | zero => exact trivial
  | succ left ih =>
    refine fits_call_bind.mpr fun s₁ _ hs₁ => ⟨hallows.read s₁, fun fate readiness => ?_⟩
    rw [Store.reply_getInstance_snd]
    generalize hreply : (s₁.reply fate readiness (.store (.getInstance key))).1 = reply
    rcases reply with e | _ | current
    · exact trivial
    · exact trivial
    have hcurrent := Store.get?_of_reply_getInstance hreply
    dsimp only
    cases hmerge : Condition.merge? (conditionsOf current) desired with
    | none => exact trivial
    | some cs =>
      refine fits_call_bind.mpr fun s₂ hchanges hs₂ => ⟨?_, fun fate readiness => ?_⟩
      · exact hallows.write hs₁ hchanges hs₂ hcurrent hdesired hmerge
      generalize (s₂.reply fate readiness (.store (.patchInstanceStatus _))).1 = reply
      rcases reply with (_ | _ | _ | _ | _ | _) | _
      all_goals first | exact trivial | exact ih _

theorem fits_settleIn (hdesired : Instance.IsSuited key.name desired) (attempts : Nat)
    (state : IdentityState) (s : Store) : (settleIn attempts key state desired).Fits fit valid s := by
  refine (fits_reportWithin hallows hdesired attempts attempts s).bind fun result s => ?_
  cases result <;> exact trivial

theorem fits_validate_of (now : String) (attempts : Nat) (s : Store) :
    (validate now attempts key).Fits fit valid s := by
  refine fits_call_bind.mpr fun s₁ _ _ => ⟨hallows.read s₁, fun fate readiness => ?_⟩
  generalize (s₁.reply fate readiness (.store (.getInstance key))).1 = reply
  rcases reply with e | _ | object
  · exact trivial
  · exact trivial
  dsimp only
  split
  · rename_i hname
    intro s₂ _ _
    refine ⟨hallows.probe object s₂, fun _ readiness => ?_⟩
    cases readiness with
    | error e => exact trivial
    | ok readiness =>
      exact fits_settleIn hallows (Instance.isSuited_ofReadiness hname now readiness) ..
  · rename_i hname
    split
    · exact trivial
    · exact fits_settleIn hallows (Instance.isSuited_degradedConditions hname now) ..

end Allowed

/-- All that a validation asks for is fit, whatever others do and whatever becomes of it. -/
theorem fits_validate (now : String) (attempts : Nat) (key : ObjectKey) (s : Store) :
    (validate now attempts key).Fits (Request.IsFit key) Store.IsProper s := by
  refine fits_validate_of ⟨fun _ => trivial, fun _ _ => trivial, ?_⟩ now attempts s
  intro s s' current desired cs hs hchanges _ hcurrent hdesired hcs
  exact mayBeWritten_of_merge? hs hchanges hcurrent hdesired hcs

end Task

/-- Whether a store is proper and the instance under a key has a status. -/
structure Store.IsJudged (key : ObjectKey) (s : Store) : Prop where
  isProper : s.IsProper
  status : ∃ i, s.instances.get? key = some i ∧ i.status ≠ none

/-- A validation does not ask to change an instance with a wrong name that has a status. -/
theorem Task.spares_validate {key : ObjectKey} (hname : key.name ≠ Instance.canonicalName)
    (now : String) (attempts : Nat) (key' : ObjectKey) (s : Store) :
    (validate now attempts key').Fits (fun request _ => ¬request.IsWriteTo key)
      (Store.IsJudged key) s := by
  by_cases hkey : key' = key
  · rw [hkey]
    refine fits_call_bind.mpr fun s₁ _ hs₁ => ⟨id, fun fate readiness => ?_⟩
    generalize hreply : (s₁.reply fate readiness (.store (.getInstance key))).1 = reply
    rcases reply with e | _ | object
    · exact trivial
    · exact trivial
    -- what is found is degraded, and that is the end of it
    obtain ⟨i, hi, hstatus⟩ := hs₁.status
    have hobject := Store.get?_of_reply_getInstance hreply
    rw [hi] at hobject
    cases hobject
    have hdegraded := (hs₁.isProper.instances hi).ofConditions_eq_degraded hname hstatus
    dsimp only
    rw [if_neg hname, if_pos hdegraded]
    exact trivial
  · refine (fits_validate now attempts key' s).mono (fun _ hs => hs.isProper) ?_
    intro request s hfit hwrite
    exact hkey (hfit.eq_of_isWriteTo hwrite).symm

end PoolOperator
