import PoolOperator.Proofs.Reconcile.Company

/-!
# Validations in worlds that look alike

Two runs of a validation are compared, in worlds that look alike at its key. At each call both read
the same and what they write has the same fate, so both go the same way, whatever else there is in
the worlds and whatever others do elsewhere.
-/

namespace PoolOperator

/-! ## Worlds that look alike -/

/-- What can be noticed under a key of what happens at a call. -/
def Disturbance.seenFrom (key : ObjectKey) (d : Disturbance) : Fate × List StoreEdit :=
  (d.fate, d.edits.filter (·.Concerns key))

namespace World

open Store (SameFate)

variable {clock : Option String → Option String} {key : ObjectKey} {w w' : World}
  {i i' x x' : Instance}

/-- Whether two worlds look alike at a key, now and at the calls to come. -/
structure Alike (clock : Option String → Option String) (key : ObjectKey) (w w' : World) : Prop where
  store : Store.Alike clock key w.store w'.store
  readiness : w.readiness = w'.readiness
  fair (method : StoreMethod) (n : Nat) : (disturbanceAt w.disturbances method n).IsFair key
  fair' (method : StoreMethod) (n : Nat) : (disturbanceAt w'.disturbances method n).IsFair key
  calls (method : StoreMethod) (n : Nat) :
    (disturbanceAt w.disturbances method n).seenFrom key =
      (disturbanceAt w'.disturbances method n).seenFrom key

/-- The same happens at a call on both sides, as far as the key is concerned, and will go on to. -/
theorem Alike.answerCall (h : Alike clock key w w') (c c' : StoreCall)
    (hmethod : c.method = c'.method) : ∃ d d' ds ds', d.IsFair key ∧ d'.IsFair key ∧
      d.seenFrom key = d'.seenFrom key ∧ w.answerCall c = w.served d ds c ∧
        w'.answerCall c' = w'.served d' ds' c' ∧ ∀ {s s' : Store}, Store.Alike clock key s s' →
          Alike clock key { w with store := s, disturbances := ds }
            { w' with store := s', disturbances := ds' } := by
  obtain ⟨ds, hanswer, -, hlater⟩ := w.answerCall_eq c
  obtain ⟨ds', hanswer', -, hlater'⟩ := w'.answerCall_eq c'
  rw [← hmethod] at hanswer' hlater'
  refine ⟨_, _, ds, ds', h.fair _ _, h.fair' _ _, h.calls _ _, hanswer, hanswer', ?_⟩
  intro s s' hstore
  refine ⟨hstore, h.readiness, fun m n => ?_, fun m n => ?_, fun m n => ?_⟩
  · rw [hlater]
    exact h.fair _ _
  · rw [hlater']
    exact h.fair' _ _
  · rw [hlater, hlater']
    exact h.calls _ _

/-- What is read is the same on both sides, and has been found there. -/
inductive ReadAlike (clock : Option String → Option String) (key : ObjectKey) (s s' : Store) :
    Except StoreError (Option Instance) → Except StoreError (Option Instance) → Prop where
  | failed (e : StoreError) : ReadAlike clock key s s' (.error e) (.error e)
  | nothing : ReadAlike clock key s s' (.ok none) (.ok none)
  | found {i i' : Instance} (hi : s.instances.get? key = some i)
      (hi' : s'.instances.get? key = some i') (hgist : i.gist clock = i'.gist clock) :
      ReadAlike clock key s s' (.ok (some i)) (.ok (some i'))

theorem readAlike_get {s s' : Store} (h : Store.Alike clock key s s') :
    ReadAlike clock key s s' (s.get Instance key) (s'.get Instance key) := by
  rw [Store.get, Store.get, Store.checkKind_instance, Store.checkKind_instance, h.hasInstanceKind]
  cases s'.hasInstanceKind with
  | false => exact .failed _
  | true =>
    show ReadAlike clock key s s' (.ok (s.instances.get? key)) (.ok (s'.instances.get? key))
    rcases h.cases with ⟨hnone, hnone'⟩ | ⟨i, i', hi, hi', hgist⟩
    · rw [hnone, hnone']
      exact .nothing
    · rw [hi, hi']
      exact .found hi hi' hgist

theorem Alike.getInstance (h : Alike clock key w w') : ∃ reply reply' v v',
    w.answerCall (.getInstance key) = (reply, v) ∧
      w'.answerCall (.getInstance key) = (reply', v') ∧ Alike clock key v v' ∧
        ReadAlike clock key v.store v'.store reply reply' := by
  obtain ⟨d, d', ds, ds', hd, hd', hsame, hanswer, hanswer', hnext⟩ :=
    h.answerCall (.getInstance key) (.getInstance key) rfl
  obtain ⟨hfate, hedits⟩ := Prod.ext_iff.mp hsame
  have hstore := h.store.edits hd hd' hedits
  refine ⟨_, _, _, _, hanswer, hanswer', ?_⟩
  rw [← show d.fate = d'.fate from hfate]
  cases d.fate with
  | answered => exact ⟨hnext hstore, readAlike_get hstore⟩
  | failed e | lost e => exact ⟨hnext hstore, .failed e⟩

/-- A status that is written to what has just been read has the same fate on both sides. -/
theorem Alike.patchInstanceStatus (h : Alike clock key w w') (x x' : Instance)
    (hi : w.store.instances.get? key = some i) (hi' : w'.store.instances.get? key = some i')
    (hx : x.metadata = i.metadata) (hx' : x'.metadata = i'.metadata)
    (hstatus : (x.gist clock).status = (x'.gist clock).status) : ∃ reply reply' v v',
    w.answerCall (.patchInstanceStatus x) = (reply, v) ∧
      w'.answerCall (.patchInstanceStatus x') = (reply', v') ∧ SameFate reply reply' ∧
        Alike clock key v v' := by
  obtain ⟨d, d', ds, ds', hd, hd', hsame, hanswer, hanswer', hnext⟩ :=
    h.answerCall (.patchInstanceStatus x) (.patchInstanceStatus x') rfl
  obtain ⟨hfate, hedits⟩ := Prod.ext_iff.mp hsame
  have hstore := h.store.edits hd hd' hedits
  have hkeyed := h.store.reachable.keyed
  have hkeyed' := h.store.reachable'.keyed
  have hkey : x.metadata.HasKey key := hx ▸ hkeyed.instances hi
  have hkey' : x'.metadata.HasKey key := hx' ▸ hkeyed'.instances hi'
  have hwritten := hstore.patchStatus hkey hkey' hstatus
    fun stored stored' hstored hstored' => by
      -- what has been read is still there on both sides or on none
      have hfound := h.store.found_iff hd hd' hedits hi hi'
      rw [hstored, hstored', Option.some.injEq, Option.some.injEq] at hfound
      rw [h.store.reachable.mayReplace_iff (Store.changes_edits _ hkeyed) hi hstored (by rw [hx]),
        h.store.reachable'.mayReplace_iff (Store.changes_edits _ hkeyed') hi' hstored' (by rw [hx']),
        hfound]
  refine ⟨_, _, _, _, hanswer, hanswer', ?_⟩
  rw [← show d.fate = d'.fate from hfate]
  cases d.fate with
  | answered => exact ⟨hwritten.1, hnext hwritten.2⟩
  | failed e => exact ⟨.refused e, hnext hstore⟩
  | lost e => exact ⟨.refused e, hnext hwritten.2⟩

end World

/-! ## Validations that go the same way -/

theorem Instance.conditions_gist (clock : Option String → Option String) (i : Instance) :
    (i.gist clock).conditions = i.conditions.map (Condition.retime clock) := by
  obtain ⟨metadata, spec, status⟩ := i
  cases status <;> rfl

theorem Identity.conditions_retime {clock : Option String → Option String} {now now' : String}
    (hnow : clock (some now) = clock (some now')) (reason : String)
    (available progressing degraded upgradeable : Bool) (messages : String × String × String × String) :
    (conditions now reason available progressing degraded upgradeable messages).map
        (Condition.retime clock) =
      (conditions now' reason available progressing degraded upgradeable messages).map
        (Condition.retime clock) := by
  simp only [conditions, Condition.observed, List.map_cons, List.map_nil, Condition.retime, hnow]

namespace Task

open World (ReadAlike)

variable {α : Type} {clock : Option String → Option String} {key : ObjectKey} {w w' : World}

/-- Whether two tasks come to the same result in worlds that look alike, and leave such. -/
def RunAlike (clock : Option String → Option String) (key : ObjectKey) (t t' : Task α)
    (w w' : World) : Prop :=
  (w.perform t).1 = (w'.perform t').1 ∧ World.Alike clock key (w.perform t).2 (w'.perform t').2

theorem RunAlike.bind {β : Type} {t t' : Task α} {f : α → Task β}
    (h : RunAlike clock key t t' w w')
    (hnext : ∀ a v v', World.Alike clock key v v' → RunAlike clock key (f a) (f a) v v') :
    RunAlike clock key (t >>= f) (t' >>= f) w w' := by
  obtain ⟨hresult, halike⟩ := h
  rw [RunAlike, World.perform, World.perform, run_bind, run_bind]
  change (t.run World.answer w).1 = (t'.run World.answer w').1 at hresult
  rw [hresult]
  exact hnext _ _ _ halike

theorem runAlike_getInstance (h : World.Alike clock key w w')
    {f f' : Except StoreError (Option Instance) → Task α}
    (hnext : ∀ reply reply' v v', World.Alike clock key v v' →
      ReadAlike clock key v.store v'.store reply reply' →
        RunAlike clock key (f reply) (f' reply') v v') :
    RunAlike clock key (call (.getInstance key) >>= f) (call (.getInstance key) >>= f') w w' := by
  obtain ⟨reply, reply', v, v', hanswer, hanswer', halike, hread⟩ := h.getInstance
  rw [RunAlike, World.perform, World.perform, run_call_bind hanswer, run_call_bind hanswer']
  exact hnext reply reply' v v' halike hread

theorem runAlike_probe (h : World.Alike clock key w w') {i i' : Instance}
    {f f' : Except OperatorError Readiness → Task α}
    (hnext : ∀ readiness, RunAlike clock key (f readiness) (f' readiness) w w') :
    RunAlike clock key (probe i >>= f) (probe i' >>= f') w w' := by
  show RunAlike clock key (f w.readiness) (f' w'.readiness) w w'
  rw [← h.readiness]
  exact hnext _

/-- What is merged into instances that look alike looks alike, or nothing is merged into either. -/
theorem merge?_alike {i i' : Instance} (hgist : i.gist clock = i'.gist clock)
    {desired desired' : List Condition}
    (hdesired : desired.map (Condition.retime clock) = desired'.map (Condition.retime clock)) :
    (Condition.merge? i.conditions desired).map (List.map (Condition.retime clock)) =
      (Condition.merge? i'.conditions desired').map (List.map (Condition.retime clock)) := by
  rw [← Condition.merge?_retime, ← Condition.merge?_retime, ← Instance.conditions_gist,
    ← Instance.conditions_gist, hgist, hdesired]

/-- Reports of what is the same but for the time go the same way. -/
theorem runAlike_reportWithin {desired desired' : List Condition}
    (hdesired : desired.map (Condition.retime clock) = desired'.map (Condition.retime clock))
    (total left : Nat) : ∀ {w w' : World}, World.Alike clock key w w' →
      RunAlike clock key (reportWithin Instance key desired total left)
        (reportWithin Instance key desired' total left) w w' := by
  induction left with
  | zero =>
    intro w w' h
    exact ⟨rfl, h⟩
  | succ left ih =>
    intro w w' h
    refine runAlike_getInstance h fun reply reply' v v' halike hread => ?_
    cases hread with
    | failed e => exact ⟨rfl, halike⟩
    | nothing => exact ⟨rfl, halike⟩
    | @found i i' hi hi' hgist =>
      have hmerge := merge?_alike hgist hdesired
      dsimp only
      cases hcs : Condition.merge? (conditionsOf i) desired with
      | none =>
        rw [show Condition.merge? i.conditions desired = none from hcs] at hmerge
        have hcs' : Condition.merge? (conditionsOf i') desired' = none :=
          Option.map_eq_none_iff.mp hmerge.symm
        rw [hcs']
        exact ⟨rfl, halike⟩
      | some cs =>
        rw [show Condition.merge? i.conditions desired = some cs from hcs] at hmerge
        obtain ⟨cs', hcs', heq⟩ := Option.map_eq_some_iff.mp hmerge.symm
        rw [show Condition.merge? (conditionsOf i') desired' = some cs' from hcs']
        have hstatus : ((withConditions i cs).gist clock).status =
            ((withConditions i' cs').gist clock).status :=
          congrArg (fun cs => some (Status.mk cs)) heq.symm
        obtain ⟨reply, reply', u, u', hanswer, hanswer', hfate, halike'⟩ :=
          halike.patchInstanceStatus (withConditions i cs) (withConditions i' cs') hi hi' rfl rfl
            hstatus
        have hwriteStatus (x : Instance) :
          Reported.writeStatus x = call (.patchInstanceStatus x) := rfl
        dsimp only
        rw [RunAlike, World.perform, World.perform, hwriteStatus, hwriteStatus,
          run_call_bind hanswer, run_call_bind hanswer']
        cases hfate with
        | written => exact ⟨rfl, halike'⟩
        | outdated => exact ih halike'
        | refused e =>
          cases e with
          | conflict => exact ih halike'
          | _ => exact ⟨rfl, halike'⟩

theorem runAlike_settleIn {desired desired' : List Condition}
    (hdesired : desired.map (Condition.retime clock) = desired'.map (Condition.retime clock))
    (h : World.Alike clock key w w') (attempts : Nat) (state : IdentityState) :
    RunAlike clock key (settleIn attempts key state desired) (settleIn attempts key state desired')
      w w' := by
  refine (runAlike_reportWithin hdesired attempts attempts h).bind fun result v v' halike => ?_
  cases result <;> exact ⟨rfl, halike⟩

/-- **A validation sees its key and nothing else.** In worlds that look alike there it has the same
result, and it leaves such worlds. -/
theorem runAlike_validate (h : World.Alike clock key w w') {now now' : String}
    (hnow : clock (some now) = clock (some now')) (attempts : Nat) :
    RunAlike clock key (validate now attempts key) (validate now' attempts key) w w' := by
  refine runAlike_getInstance h fun reply reply' v v' halike hread => ?_
  cases hread with
  | failed e => exact ⟨rfl, halike⟩
  | nothing => exact ⟨rfl, halike⟩
  | @found i i' hi hi' hgist =>
    have hstate : IdentityState.ofConditions i.conditions =
        IdentityState.ofConditions i'.conditions := by
      rw [← IdentityState.ofConditions_retime clock i.conditions,
        ← IdentityState.ofConditions_retime clock i'.conditions, ← Instance.conditions_gist,
        ← Instance.conditions_gist, hgist]
    dsimp only
    split
    · refine runAlike_probe halike fun readiness => ?_
      cases readiness with
      | error e => exact ⟨rfl, halike⟩
      | ok readiness =>
        cases readiness with
        | ready =>
          exact runAlike_settleIn (Identity.conditions_retime hnow ..) halike attempts .available
        | notReady reason =>
          exact runAlike_settleIn (Identity.conditions_retime hnow ..) halike attempts .pending
    · rw [hstate]
      split
      · exact ⟨rfl, halike⟩
      · exact runAlike_settleIn (Identity.conditions_retime hnow ..) halike attempts .degraded

end Task

end PoolOperator
