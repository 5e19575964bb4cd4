import PoolOperator.Proofs.Reconcile.Aggregate

/-!
# Merging amid others

Between two requests of a task the store may become any other one. What a merge can still promise is
this: when it succeeds, the config map described the pools that it had listed last, at the time when
it asked for the config map last.
-/

namespace PoolOperator

/-! ## Requests -/

namespace Request

/-- Whether a request is about a config map. -/
def isOnConfigMap : Request → Bool
  | .store (.getConfigMap _) | .store (.createConfigMap _) | .store (.replaceConfigMap _)
  | .store (.deleteConfigMap ..) => true
  | _ => false

/-- The pools that a reply lists, if it lists any. -/
def listing? : (request : Request) → request.Reply → Option (List AddressPool)
  | .store (.listPools _), .ok pools => some pools
  | _, _ => none

/-- The pools that are listed last once a request has been answered. -/
def listedAfter (request : Request) (reply : request.Reply) (listed : Option (List AddressPool)) :
    Option (List AddressPool) :=
  (request.listing? reply).or listed

/-- What is known of the config map once a request has been answered: a listing takes away what was
known, and a request for the config map shows whether it describes the pools listed last. -/
def storedAfter (ns : String) (request : Request) (reply : request.Reply) (s : Store)
    (listed : Option (List AddressPool)) (stored : Prop) : Prop :=
  if (request.listing? reply).isSome then False
  else if request.isOnConfigMap then
    ∃ pools, listed = some pools ∧ (Artifact.ofPools pools).IsStored s ns
  else stored

/-- What is known was either known before or has just been seen. -/
theorem storedAfter_cases {ns : String} {request : Request} {reply : request.Reply} {s : Store}
    {listed : Option (List AddressPool)} {stored : Prop}
    (h : request.storedAfter ns reply s listed stored) :
    request.listing? reply = none ∧
      ((request.isOnConfigMap = true ∧
          ∃ pools, listed = some pools ∧ (Artifact.ofPools pools).IsStored s ns) ∨
        (request.isOnConfigMap = false ∧ stored)) := by
  unfold storedAfter at h
  split at h
  · exact h.elim
  · rename_i hlisting
    refine ⟨by simpa using hlisting, ?_⟩
    split at h
    · rename_i hon
      exact .inl ⟨hon, h⟩
    · rename_i hon
      exact .inr ⟨by simpa using hon, h⟩

theorem IsAside.listing?_eq {request : Request} (h : request.IsAside) (reply : request.Reply) :
    request.listing? reply = none := by
  rcases request with call | object | operation
  · cases call with
    | listPools ns => exact h.elim
    | _ => rfl
  · rfl
  · rfl

theorem IsAside.isOnConfigMap_eq {request : Request} (h : request.IsAside) :
    request.isOnConfigMap = false := by
  rcases request with call | object | operation
  · cases call with
    | getConfigMap | createConfigMap | replaceConfigMap | deleteConfigMap => exact h.elim
    | _ => rfl
  · rfl
  · rfl

end Request

section Interference

variable (order : List AddressPool → List AddressPool) (readiness : Except OperatorError Readiness)
  (ns : String)

/-- Whether a request leaves the merge of a namespace as it is, and config maps too unless it is
about one, and lists the pools of this namespace if it lists any. -/
structure Request.IsMild (request : Request) : Prop where
  entries {s : Store} (hs : s.Keyed) :
    (s.serve order readiness request).2.entries ns = s.entries ns
  configMaps (hnot : request.isOnConfigMap = false) (s : Store) :
    (s.serve order readiness request).2.configMaps = s.configMaps
  listing {s : Store} (hs : s.Keyed) {pools : List AddressPool}
    (hlisting : request.listing? (s.serve order readiness request).1 = some pools) :
    Artifact.ofPools pools = ⟨s.entries ns⟩

theorem Request.IsAside.isMild {request : Request} (h : request.IsAside) :
    request.IsMild order readiness ns where
  entries {s} hs := (s.statusOnly_serve h).entries_eq hs (hs.serve order readiness request) ns
  configMaps _ s := (s.statusOnly_serve h).configMaps
  listing {s} _ _ hlisting := by
    rw [h.listing?_eq] at hlisting
    cases hlisting

/-! ## What a task guarantees -/

/-- What holds at the end of a task, of its value, the pools listed last and what is known of the
config map, whatever the store is at each of its requests. -/
def Task.Guarantees {α : Type} (Q : α → Option (List AddressPool) → Prop → Prop) :
    Task α → Option (List AddressPool) → Prop → Prop
  | .done a, listed, stored => Q a listed stored
  | .ask request next, listed, stored =>
    request.IsMild order readiness ns ∧ ∀ s : Store, s.Keyed →
      (next (s.serve order readiness request).1).Guarantees Q
        (request.listedAfter (s.serve order readiness request).1 listed)
        (request.storedAfter ns (s.serve order readiness request).1
          (s.serve order readiness request).2 listed stored)

namespace Task

variable {order readiness ns} {α β : Type} {Q Q' : α → Option (List AddressPool) → Prop → Prop}
  {R : β → Option (List AddressPool) → Prop → Prop} {listed : Option (List AddressPool)}
  {stored : Prop} {pools : List AddressPool}

/-- A guarantee is passed on from one part of a task to the next. -/
theorem guarantees_bind {t : Task α} {f : α → Task β} :
    (t >>= f).Guarantees order readiness ns R listed stored ↔
      t.Guarantees order readiness ns (fun a => (f a).Guarantees order readiness ns R)
        listed stored := by
  induction t generalizing listed stored with
  | done a => exact Iff.rfl
  | ask request next ih => exact and_congr Iff.rfl (forall₂_congr fun _ _ => ih _)

theorem Guarantees.mono {t : Task α} (h : t.Guarantees order readiness ns Q listed stored)
    (hQ : ∀ a listed stored, Q a listed stored → Q' a listed stored) :
    t.Guarantees order readiness ns Q' listed stored := by
  induction t generalizing listed stored with
  | done a => exact hQ a listed stored h
  | ask request next ih => exact ⟨h.1, fun s hs => ih _ (h.2 s hs)⟩

/-- Requests that leave artifacts aside do not change what is known. -/
theorem guarantees_of_isAside {t : Task α} (h : t.Only Request.IsAside)
    (hQ : ∀ a, Q a listed stored) : t.Guarantees order readiness ns Q listed stored := by
  induction t with
  | done a => exact hQ a
  | ask request next ih =>
    refine ⟨h.1.isMild order readiness ns, fun s _ => ?_⟩
    have hlisting := h.1.listing?_eq (s.serve order readiness request).1
    rw [Request.listedAfter, Request.storedAfter, hlisting, h.1.isOnConfigMap_eq]
    exact ih _ (h.2 _)

/-- A request for a config map shows whether it describes the pools listed last. -/
theorem guarantees_call_configMap {c : StoreCall} {Q : _ → Option (List AddressPool) → Prop → Prop}
    (hon : (Request.store c).isOnConfigMap = true)
    (hpools : ∀ s : Store, (s.serve order readiness (.store c)).2.pools = s.pools)
    (hQ : ∀ s : Store, s.Keyed → Q (s.serve order readiness (.store c)).1 (some pools)
      ((Artifact.ofPools pools).IsStored (s.serve order readiness (.store c)).2 ns)) :
    (call c).Guarantees order readiness ns Q (some pools) stored := by
  have hlisting (s : Store) :
      (Request.store c).listing? (s.serve order readiness (.store c)).1 = none := by
    cases c with
    | listPools => cases hon
    | _ => rfl
  refine ⟨⟨fun {s} _ => Store.entries_of_pools_eq (hpools s), ?_, ?_⟩, fun s hs => ?_⟩
  · intro hnot
    rw [hon] at hnot
    cases hnot
  · intro s _ pools' hpools'
    rw [hlisting] at hpools'
    cases hpools'
  · have hstored : (∃ pools', some pools = some pools' ∧ (Artifact.ofPools pools').IsStored
        (s.serve order readiness (.store c)).2 ns) =
          (Artifact.ofPools pools).IsStored (s.serve order readiness (.store c)).2 ns := by
      simp
    rw [Request.listedAfter, Request.storedAfter, hlisting s, hon, if_neg (by decide), if_pos rfl,
      hstored]
    exact hQ s hs

/-- A listing takes away what was known. -/
theorem guarantees_call_listPools (horder : ∀ pools, (order pools).Perm pools)
    {Q : _ → Option (List AddressPool) → Prop → Prop}
    (herror : ∀ e, Q (.error e) listed stored) (hok : ∀ pools, Q (.ok pools) (some pools) False) :
    (call (.listPools ns)).Guarantees order readiness ns Q listed stored := by
  have hserve (s : Store) : s.serve order readiness (.store (.listPools ns)) =
    ((s.list AddressPool ns).map order, s) := rfl
  refine ⟨⟨fun _ => rfl, fun _ _ => rfl, ?_⟩, fun s _ => ?_⟩
  · intro s hs pools hlisting
    rw [hserve, Store.list_pools] at hlisting
    cases hkind : Store.checkKind AddressPool s with
    | error e =>
      rw [hkind] at hlisting
      cases hlisting
    | ok _ =>
      rw [hkind] at hlisting
      cases hlisting
      exact hs.ofPools_eq (horder _)
  · rw [hserve]
    cases s.list AddressPool ns with
    | error e => exact herror e
    | ok pools => exact hok (order pools)

/-! ## What a merge guarantees -/

/-- A write of the artifact that succeeds leaves it stored. -/
def Wrote (pools : List AddressPool) (result : Except OperatorError AggregateOutcome)
    (listed : Option (List AddressPool)) (stored : Prop) : Prop :=
  listed = some pools ∧ ((∃ outcome, result = .ok outcome) → stored)

theorem wrote_error (e : OperatorError) : Wrote pools (.error e) (some pools) stored :=
  ⟨rfl, fun ⟨_, h⟩ => nomatch h⟩

theorem guarantees_countWrite (operation : String) (outcome : AggregateOutcome) (h : stored) :
    (countWrite operation >>= fun _ => done (.ok outcome)).Guarantees order readiness ns
      (Wrote pools) (some pools) stored :=
  guarantees_of_isAside ⟨trivial, fun _ => trivial⟩ fun _ => ⟨rfl, fun _ => h⟩

theorem guarantees_createArtifact (hsome : (Artifact.ofPools pools).isEmpty = false) :
    (createArtifact ns (Artifact.ofPools pools).encode).Guarantees order readiness ns
      (Wrote pools) (some pools) stored := by
  rw [createArtifact, guarantees_bind]
  refine guarantees_call_configMap rfl (fun s => (s.configMapsOnly_createConfigMap _).pools)
    fun s _ => ?_
  have hserve : s.serve order readiness (.store (.createConfigMap (Artifact.newConfigMap ns
      (Artifact.ofPools pools).encode))) = s.createConfigMap (Artifact.newConfigMap ns
        (Artifact.ofPools pools).encode) := rfl
  rw [hserve]
  rcases hreply : s.createConfigMap (Artifact.newConfigMap ns (Artifact.ofPools pools).encode) with
    ⟨e | created, s'⟩
  · exact wrote_error _
  · refine guarantees_countWrite "create" .created ?_
    have hkey : (Artifact.newConfigMap ns (Artifact.ofPools pools).encode).metadata.HasKey
      (Artifact.keyIn ns) := ⟨rfl, rfl⟩
    obtain ⟨c, hget, hdata⟩ := Store.get?_of_createConfigMap hkey hreply
    refine Artifact.isStored_of_storedText hsome (Artifact.normal_ofPools pools) hget ?_
    rw [Artifact.storedText, hdata]
    exact Artifact.storedText_newConfigMap ns _

theorem guarantees_replaceArtifact (hsome : (Artifact.ofPools pools).isEmpty = false)
    {current : ConfigMap} (hkey : current.metadata.HasKey (Artifact.keyIn ns)) :
    (replaceArtifact current (Artifact.ofPools pools).encode).Guarantees order readiness ns
      (Wrote pools) (some pools) stored := by
  rw [replaceArtifact, guarantees_bind]
  refine guarantees_call_configMap rfl (fun s => (s.configMapsOnly_replaceConfigMap _).pools)
    fun s _ => ?_
  have hserve : s.serve order readiness (.store (.replaceConfigMap (Artifact.updateConfigMap current
      (Artifact.ofPools pools).encode))) = s.replaceConfigMap (Artifact.updateConfigMap current
        (Artifact.ofPools pools).encode) := rfl
  rw [hserve]
  rcases hreply : s.replaceConfigMap (Artifact.updateConfigMap current
    (Artifact.ofPools pools).encode) with ⟨e | replaced, s'⟩
  · exact wrote_error _
  · refine guarantees_countWrite "replace" .updated ?_
    have hkey' : (Artifact.updateConfigMap current (Artifact.ofPools pools).encode).metadata.HasKey
      (Artifact.keyIn ns) := ⟨hkey.1, hkey.2⟩
    obtain ⟨c, hget, hdata⟩ := Store.get?_of_replaceConfigMap hkey' hreply
    refine Artifact.isStored_of_storedText hsome (Artifact.normal_ofPools pools) hget ?_
    rw [Artifact.storedText, hdata]
    exact Artifact.storedText_updateConfigMap current _

theorem guarantees_deleteArtifact (hempty : (Artifact.ofPools pools).isEmpty = true)
    (current : ConfigMap) :
    (deleteArtifact ns current).Guarantees order readiness ns
      (Wrote pools) (some pools) stored := by
  rw [deleteArtifact, guarantees_bind]
  refine guarantees_call_configMap rfl (fun s => (s.configMapsOnly_deleteConfigMap _ _).pools)
    fun s _ => ?_
  have hserve : s.serve order readiness (.store (.deleteConfigMap (Artifact.keyIn ns)
      current.metadata.resourceVersion)) =
    s.deleteConfigMap (Artifact.keyIn ns) current.metadata.resourceVersion := rfl
  rw [hserve]
  rcases hreply : s.deleteConfigMap (Artifact.keyIn ns) current.metadata.resourceVersion with
    ⟨e | _, s'⟩
  · cases e with
    | notFound message =>
      -- what somebody else has deleted is as good as deleted
      exact ⟨rfl, fun _ => (Artifact.isStored_iff_of_isEmpty hempty).mpr
        (Store.get?_of_deleteConfigMap_notFound hreply)⟩
    | _ => exact wrote_error _
  · refine guarantees_countWrite "delete" .deleted ?_
    exact (Artifact.isStored_iff_of_isEmpty hempty).mpr (Store.get?_of_deleteConfigMap hreply)

theorem guarantees_writeArtifact :
    (writeArtifact ns (Artifact.ofPools pools)).Guarantees order readiness ns
      (Wrote pools) (some pools) stored := by
  rw [writeArtifact, guarantees_bind]
  refine guarantees_call_configMap rfl (fun s => rfl) fun s hs => ?_
  rw [s.serve_getConfigMap]
  cases hget : s.configMaps.get? (Artifact.keyIn ns) with
  | none =>
    cases hempty : (Artifact.ofPools pools).isEmpty with
    | true =>
      simp only [if_true]
      exact ⟨rfl, fun _ => (Artifact.isStored_iff_of_isEmpty hempty).mpr hget⟩
    | false =>
      simp only [Bool.false_eq_true, if_false]
      exact guarantees_createArtifact hempty
  | some current =>
    cases hempty : (Artifact.ofPools pools).isEmpty with
    | true =>
      simp only [if_true]
      exact guarantees_deleteArtifact hempty current
    | false =>
      simp only [Bool.false_eq_true, if_false]
      split
      · rename_i hdescribed
        exact ⟨rfl, fun _ => (Artifact.isStored_iff_of_ne hempty).mpr
          ⟨current, hget, Artifact.isDescribedBy_iff.mp hdescribed⟩⟩
      · exact guarantees_replaceArtifact hempty (hs.configMaps hget)

/-- What a merge promises: if it succeeds, what is known of the config map holds. -/
def Kept (result : Except OperatorError AggregateOutcome) (_ : Option (List AddressPool))
    (stored : Prop) : Prop :=
  (∃ outcome, result = .ok outcome) → stored

theorem kept_error (e : OperatorError) : Kept (.error e) listed stored := fun ⟨_, h⟩ => nomatch h

theorem guarantees_aggregateOnce (horder : ∀ pools, (order pools).Perm pools) (now : String)
    (attempts : Nat) :
    (aggregateOnce now attempts ns).Guarantees order readiness ns Kept listed stored := by
  rw [aggregateOnce, guarantees_bind]
  refine guarantees_call_listPools horder (fun e => kept_error _) fun pools => ?_
  refine guarantees_bind.mpr (guarantees_writeArtifact.mono ?_)
  rintro result listed stored ⟨rfl, hstored⟩
  cases result with
  | error e => exact kept_error _
  | ok outcome =>
    refine guarantees_bind.mpr (guarantees_of_isAside (isAside_reportVerdicts _ _ _) fun _ => ?_)
    exact fun _ => hstored ⟨outcome, rfl⟩

/-- **What a merge guarantees amid others.** When it succeeds, the config map described the pools
listed last when it was asked for last. -/
theorem guarantees_aggregate (horder : ∀ pools, (order pools).Perm pools) (now : String)
    (attempts : Nat) :
    (aggregate now attempts ns).Guarantees order readiness ns Kept listed stored := by
  have h (left : Nat) : ∀ {listed stored},
      (aggregateWithin now attempts ns left).Guarantees order readiness ns Kept listed stored := by
    induction left with
    | zero => exact kept_error _
    | succ left ih =>
      intro listed stored
      rw [aggregateWithin]
      refine guarantees_bind.mpr ((guarantees_aggregateOnce horder now attempts).mono ?_)
      intro result listed stored hkept
      -- a conflict starts the merge again, whatever is known by then
      split
      · exact ih
      · exact hkept
  exact h attempts

end Task

end Interference

end PoolOperator
