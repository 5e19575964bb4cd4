import PoolOperator.Proofs.Reconcile.Attempts
import PoolOperator.Proofs.Retries
import PoolOperator.Proofs.Settings

/-!
# The pace of an operator

With settings that have been accepted an operator never spins. Whatever has happened, it looks at an
object again after a second or more, and gives up conflicting writes after a number of attempts.
-/

namespace PoolOperator

/-! ## What is kept between turns -/

namespace Operator

variable {o o' : Operator} {s : Settings} {turns : List Turn}

/-- Whether an operator has some settings, and all that it keeps are delays between their bounds. -/
structure IsPaced (o : Operator) (s : Settings) : Prop where
  settings_eq : o.settings = s
  backoff {key : String} {r : Retries} (h : o.retries.get? key = some r) :
    ∃ n, r.backoff = .after s.backoffLeast s.backoffGreatest n

theorem isPaced_of_empty (h : o.retries = ∅) : o.IsPaced o.settings := by
  refine ⟨rfl, fun {key r} hr => ?_⟩
  rw [h] at hr
  cases hr

/-- What has been counted besides makes no difference. -/
theorem IsPaced.of_eq (h : o.IsPaced s) (hsettings : o'.settings = o.settings)
    (hretries : o'.retries = o.retries) : o'.IsPaced s := by
  refine ⟨hsettings.trans h.settings_eq, ?_⟩
  rw [hretries]
  exact h.backoff

theorem IsPaced.retriesOf (h : o.IsPaced s) (key : String) :
    ∃ n, (o.retriesOf key).backoff = .after s.backoffLeast s.backoffGreatest n := by
  unfold Operator.retriesOf
  cases hkept : o.retries.get? key with
  | none =>
    refine ⟨0, ?_⟩
    rw [h.settings_eq]
    rfl
  | some r => exact h.backoff hkept

theorem IsPaced.note (h : o.IsPaced s) (t : Turn) : (o.note t).IsPaced s := by
  refine ⟨(settings_note o t).trans h.settings_eq, fun {key r} hr => ?_⟩
  unfold Operator.note at hr
  cases hresult : t.result with
  | ok u =>
    rw [hresult] at hr
    change (o.retries.erase t.subject.retryKey).get? key = some r at hr
    rw [SortedMap.get?_erase] at hr
    split at hr
    · cases hr
    · exact h.backoff hr
  | error e =>
    rw [hresult] at hr
    dsimp only at hr
    cases he : e.isFatal with
    | true =>
      rw [(afterFailure_of_fatal he _ _).2] at hr
      exact h.backoff hr
    | false =>
      rw [(afterFailure_of_not_fatal he _ _).2, (nextDelay_countFailure_eq o _).2] at hr
      split at hr
      · cases hr
        obtain ⟨n, hn⟩ := h.retriesOf (Operator.retryKey t.subject.pipeline t.subject.text)
        refine ⟨n + 1, ?_⟩
        rw [hn]
        rfl
      · exact h.backoff hr

/-- A run of turns keeps the delays between the bounds. -/
theorem After.isPaced (h : o.After turns o') (hstart : o.retries = ∅) : o'.IsPaced o.settings := by
  induction h with
  | start => exact isPaced_of_empty hstart
  | noted _ t ih => exact ih.note t
  | @onNamespace _ w _ order now n ih =>
    have hnoted := World.noted_turnOnNamespaceIn order now w n
    exact (ih.note _).of_eq hnoted.settings hnoted.retries
  | @onInstance _ w _ now i ih =>
    have hnoted := World.noted_turnOnInstance now w i
    exact (ih.note _).of_eq hnoted.settings hnoted.retries

/-- The delay after a failure is between the bounds. -/
theorem IsPaced.afterFailure (h : o.IsPaced s) (hs : s.IsSound) {e : OperatorError}
    (he : e.isFatal = false) (pipeline object : String) :
    ∃ delay, (o.afterFailure pipeline object e).1 = .requeue delay ∧
      s.backoffLeast.toNat ≤ delay.toNat ∧ delay.toNat ≤ s.backoffGreatest.toNat := by
  let key := Operator.retryKey pipeline object
  obtain ⟨n, hn⟩ := h.retriesOf key
  have hdelay : ((o.countFailure key).nextDelay key).1.1 = (o.retriesOf key).backoff.next.1 :=
    congrArg Prod.fst (nextDelay_countFailure_eq o key).1
  refine ⟨_, (afterFailure_of_not_fatal he pipeline object).1, ?_⟩
  rw [hdelay, hn, Backoff.toNat_delay]
  have hfib : s.backoffLeast.toNat ≤ s.backoffLeast.toNat * Nat.fib (n + 1) :=
    Nat.le_mul_of_pos_right _ (Nat.fib_pos.mpr n.succ_pos)
  have hle := hs.backoff_le
  omega

end Operator

/-! ## Turns -/

/-- Whether what follows from the result of a turn keeps the pace of some settings: the usual delay
or none after a success, one between the bounds after a failure, and none after a failure for good.
No delay is shorter than a second. -/
structure Settings.Paces (s : Settings) (result : Except OperatorError Unit) (action : Action) :
    Prop where
  ok (h : result = .ok ()) : action = .requeue s.resync ∨ action = .awaitChange
  transient {e : OperatorError} (h : result = .error e) (he : e.isFatal = false) :
    ∃ delay, action = .requeue delay ∧
      s.backoffLeast.toNat ≤ delay.toNat ∧ delay.toNat ≤ s.backoffGreatest.toNat
  fatal {e : OperatorError} (h : result = .error e) (he : e.isFatal = true) : action = .awaitChange
  one_le {delay : UInt64} (h : action = .requeue delay) : 1 ≤ delay.toNat

section Paces

variable {s : Settings} (hs : s.IsSound)
include hs

theorem Settings.IsSound.paces_ok {action : Action}
    (h : action = .requeue s.resync ∨ action = .awaitChange) : s.Paces (.ok ()) action := by
  refine ⟨fun _ => h, nofun, nofun, ?_⟩
  rintro delay rfl
  rcases h with h | h
  · cases h
    exact hs.resync
  · cases h

theorem Operator.IsPaced.paces_error {o : Operator} (h : o.IsPaced s) (e : OperatorError)
    (pipeline object : String) :
    s.Paces (.error e) (o.afterFailure pipeline object e).1 := by
  cases he : e.isFatal with
  | true =>
    have hawait := (Operator.afterFailure_of_fatal (o := o) he pipeline object).1
    rw [hawait]
    refine ⟨nofun, ?_, fun _ _ => rfl, nofun⟩
    rintro _ ⟨⟩ hnot
    rw [he] at hnot
    cases hnot
  | false =>
    obtain ⟨delay, hdelay, hleast, hgreatest⟩ := h.afterFailure hs he pipeline object
    rw [hdelay]
    refine ⟨nofun, ?_, ?_, ?_⟩
    · exact fun _ _ => ⟨delay, rfl, hleast, hgreatest⟩
    · rintro _ ⟨⟩ hfatal
      rw [he] at hfatal
      cases hfatal
    · rintro _ ⟨⟩
      exact Nat.le_trans hs.backoffLeast hleast

end Paces

namespace World

variable {w : World} {s : Settings}

/-- A merge that has succeeded is repeated after the usual delay. -/
theorem action_turnOnNamespaceIn (order : List AddressPool → List AddressPool) (now : String)
    (n : Namespace) (h : (w.turnOnNamespaceIn order now n).1 = .ok ()) :
    (w.turnOnNamespaceIn order now n).2.1 = .requeue w.operator.settings.resync := by
  rcases w.turnOnNamespaceIn_cases order now n with ⟨e, -, hturn⟩ | ⟨outcome, -, hturn⟩
  · rw [hturn] at h
    cases h
  · rw [hturn, ← w.settings_run order (.aggregate now w.attempts n.metadata.anyName)]
    rfl

/-- A validation that has succeeded is repeated after the usual delay while the instance waits for
its dependencies, and else when the instance changes. -/
theorem action_turnOnInstance (now : String) (i : Instance)
    (h : (w.turnOnInstance now i).1 = .ok ()) :
    ∃ state, (w.perform (.validate now w.attempts (w.keyOfInstance i))).1 = .ok state ∧
      (w.turnOnInstance now i).2.1 =
        if state = some .pending then .requeue w.operator.settings.resync else .awaitChange := by
  rcases w.turnOnInstance_cases now i with ⟨e, -, hturn⟩ | ⟨state, hstate, hturn⟩
  · rw [hturn] at h
    cases h
  · refine ⟨state, hstate, ?_⟩
    rw [hturn, ← w.settings_perform (.validate now w.attempts (w.keyOfInstance i))]
    rcases state with _ | _ | _ | _ <;> rfl

/-- Whether a world keeps the pace of some settings with whatever turn comes next, in whatever order a
merge lists pools. -/
structure KeepsPace (w : World) (s : Settings) : Prop where
  failed (pipeline object : String) (e : OperatorError) :
    s.Paces (.error e) (w.operator.afterFailure pipeline object e).1
  onNamespace (order : List AddressPool → List AddressPool) (now : String) (n : Namespace) :
    s.Paces (w.turnOnNamespaceIn order now n).1 (w.turnOnNamespaceIn order now n).2.1
  onInstance (now : String) (i : Instance) :
    s.Paces (w.turnOnInstance now i).1 (w.turnOnInstance now i).2.1
  merged (order : List AddressPool → List AddressPool) (now : String) (n : Namespace)
    (h : (w.turnOnNamespaceIn order now n).1 = .ok ()) :
    (w.turnOnNamespaceIn order now n).2.1 = .requeue s.resync
  validated (now : String) (i : Instance) (h : (w.turnOnInstance now i).1 = .ok ()) :
    ∃ state, (w.perform (.validate now w.attempts (w.keyOfInstance i))).1 = .ok state ∧
      (w.turnOnInstance now i).2.1 =
        if state = some .pending then .requeue s.resync else .awaitChange
  attempts_eq : w.attempts = s.maxAttempts.toNat
  attempts : Task.KeepsTo w.attempts

theorem keepsPace (h : w.operator.IsPaced s) (hs : s.IsSound) : w.KeepsPace s := by
  have hattempts : w.attempts = s.maxAttempts.toNat := by rw [World.attempts, h.settings_eq]
  have hmerged (order : List AddressPool → List AddressPool) (now : String) (n : Namespace)
      (hok : (w.turnOnNamespaceIn order now n).1 = .ok ()) :
      (w.turnOnNamespaceIn order now n).2.1 = .requeue s.resync := by
    rw [action_turnOnNamespaceIn order now n hok, h.settings_eq]
  have hvalidated (now : String) (i : Instance) (hok : (w.turnOnInstance now i).1 = .ok ()) := by
    have haction := action_turnOnInstance now i hok
    rw [h.settings_eq] at haction
    exact haction
  refine ⟨fun _ _ e => h.paces_error hs e _ _, ?_, ?_, hmerged, hvalidated, hattempts, ?_⟩
  · intro order now n
    cases hresult : (w.turnOnNamespaceIn order now n).1 with
    | ok _ => exact hs.paces_ok (.inl (hmerged order now n hresult))
    | error e =>
      rw [(noted_turnOnNamespaceIn order now w n).action e hresult]
      exact h.paces_error hs e _ _
  · intro now i
    cases hresult : (w.turnOnInstance now i).1 with
    | ok _ =>
      obtain ⟨state, -, haction⟩ := hvalidated now i hresult
      refine hs.paces_ok ?_
      rw [haction]
      split
      · exact .inl rfl
      · exact .inr rfl
    | error e =>
      rw [(noted_turnOnInstance now w i).action e hresult]
      exact h.paces_error hs e _ _
  · exact Task.keepsTo (hattempts ▸ hs.maxAttempts)

end World

/-! ## Accepted settings -/

namespace Settings

/-- **Accepted settings are what the variables say, and set the pace.** They are accepted just if
each variable that is set is well-formed and the values fit together. From then on, after any turns,
every delay is a second at least, every delay after a failure is between the bounds, and every merge
and every report makes an attempt, and no more of them than allowed. -/
theorem accepted_keep_pace (lookup : String → Option String) :
    (∀ s, read lookup = .ok s ↔ s.IsReadFrom lookup ∧ s.IsSound) ∧
      ∀ (s : Settings) (o : Operator) (turns : List Turn) (w : World), read lookup = .ok s →
        o.settings = s → o.retries = ∅ → o.After turns w.operator → w.KeepsPace s := by
  refine ⟨fun s => read_eq_ok_iff, ?_⟩
  rintro s o turns w hread rfl hstart hturns
  exact World.keepsPace (hturns.isPaced hstart) (read_eq_ok_iff.mp hread).2

/-- One attempt, and delays of two and three seconds. -/
def cramped : String → Option String
  | "MAX_CONFLICT_RETRIES" => some "001"
  | "BACKOFF_MIN_SECS" => some " 2 "
  | "BACKOFF_MAX_SECS" => some "+3"
  | _ => none

/-- A least delay above the greatest one, which is not set. -/
def overstretched : String → Option String
  | "BACKOFF_MIN_SECS" => some "61"
  | _ => none

/-- A store that cannot be reached is asked again after two or three seconds, whatever has failed
before. A bound that is set is held against the default of the other. -/
theorem accepted_keep_pace_cramped :
    let s : Settings := { Operator.hasty.settings with ns := defaultNs, maxAttempts := 1 }
    let w : World := {
      operator := Operator.mingled.foldl Operator.note { settings := s }
      disturbances := [(.listPools, .fail (.unavailable "down"))] }
    s.IsReadFrom cramped ∧ (¬∃ s : Settings, s.IsReadFrom overstretched ∧ s.IsSound) ∧
      (∃ delay, (w.turnOnNamespaceIn List.reverse "now" default).2.1 = .requeue delay ∧
        2 ≤ delay.toNat ∧ delay.toNat ≤ 3) ∧
      Task.KeepsTo 1 := by
  intro s w
  have hread : read cramped = .ok s := by decide +kernel
  have hrefused : read overstretched = .error (.backoffBounds 61 60) := by decide +kernel
  have hfailed : (w.turnOnNamespaceIn List.reverse "now" default).1 =
    .error (.store (.unavailable "down")) := by decide +kernel
  obtain ⟨haccepted, hpace⟩ := accepted_keep_pace cramped
  have hkeeps : w.KeepsPace s :=
    hpace s { settings := s } Operator.mingled w hread rfl rfl (Operator.after_foldl _ _)
  refine ⟨((haccepted s).mp hread).1, ?_,
    (hkeeps.onNamespace List.reverse "now" default).transient hfailed rfl, hkeeps.attempts⟩
  rintro ⟨s', hs'⟩
  rw [← (accepted_keep_pace overstretched).1 s', hrefused] at hs'
  cases hs'

end Settings

end PoolOperator
