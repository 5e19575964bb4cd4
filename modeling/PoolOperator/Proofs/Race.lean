import Mathlib.Logic.Function.Basic
import PoolOperator.Proofs.Reconcile.Interference
import PoolOperator.Proofs.Store.Kind

/-!
# Races

Several merges of one namespace share a store. Their requests are answered one at a time in any
order, and in between users create, replace and delete pools. If all merges succeed, the config map
describes the pools that were listed by the merge that has asked for the config map last. This need
not be the merge that has listed pools last.
-/

namespace PoolOperator

/-! ## Moves -/

/-- What users do to pools. -/
inductive PoolEdit where
  | create (pool : AddressPool)
  | replace (pool : AddressPool)
  | delete (key : ObjectKey)

/-- The call that makes a change. -/
def PoolEdit.call : PoolEdit → StoreCall
  | .create pool => .createPool pool
  | .replace pool => .replacePool pool
  | .delete key => .deletePool key

/-- The names and specs of the live pools of a namespace. -/
def Store.liveSpecs (s : Store) (ns : String) : List (Option String × PoolSpec) :=
  (livePools (s.poolsIn ns)).map fun p => (p.metadata.name, p.spec)

namespace Store

theorem entries_eq_filterMap_liveSpecs (s : Store) (ns : String) :
    s.entries ns = (s.liveSpecs ns).filterMap fun x =>
      (PoolEntry.ofPool { metadata := { name := x.1 }, spec := x.2 }).toOption := by
  rw [entries, liveSpecs, List.filterMap_map]
  rfl

theorem entries_of_liveSpecs_eq {s s' : Store} {ns : String}
    (h : s'.liveSpecs ns = s.liveSpecs ns) : s'.entries ns = s.entries ns := by
  rw [entries_eq_filterMap_liveSpecs, entries_eq_filterMap_liveSpecs, h]

theorem configMaps_answer_edit (s : Store) (e : PoolEdit) :
    (s.answer e.call).2.configMaps = s.configMaps := by
  cases e with
  | create pool => exact (s.poolsOnly_create pool).configMaps
  | replace pool => exact (s.poolsOnly_replace pool).configMaps
  | delete key => exact (s.poolsOnly_delete key).configMaps

end Store

/-- Several merges, and what has been noted of them. -/
structure Race (ι : Type) where
  store : Store
  tasks : ι → Task (Except OperatorError AggregateOutcome)
  /-- The pools that each merge has listed last. -/
  listed : ι → Option (List AddressPool) := fun _ => none
  /-- The merge that has listed pools last. -/
  lister : Option ι := none
  /-- The merge that has asked for the config map last. -/
  latest : Option ι := none
  /-- Whether users have changed the live pools since pools were listed last. -/
  changed : Bool := false

/-- One move: the next request of a merge is answered, or a user changes a pool. -/
inductive Move (ι : Type) where
  | request (i : ι)
  | edit (e : PoolEdit)

namespace Race

variable {ι : Type} [DecidableEq ι] (order : List AddressPool → List AddressPool)
  (readiness : Except OperatorError Readiness) (ns : String)

/-- The next request of a merge is answered, and it is noted what it shows and writes. -/
def answer (r : Race ι) (i : ι) (request : Request)
    (next : request.Reply → Task (Except OperatorError AggregateOutcome)) : Race ι :=
  let (reply, s) := r.store.serve order readiness request
  { store := s
    tasks := Function.update r.tasks i (next reply)
    listed := Function.update r.listed i (request.listedAfter reply (r.listed i))
    lister := if (request.listing? reply).isSome then some i else r.lister
    latest := if request.isOnConfigMap then some i else r.latest
    changed := if (request.listing? reply).isSome then false else r.changed }

/-- A user changes a pool, and it is noted whether a live pool has changed. -/
def edit (r : Race ι) (e : PoolEdit) : Race ι :=
  let s := (r.store.answer e.call).2
  { r with store := s, changed := r.changed || s.liveSpecs ns != r.store.liveSpecs ns }

/-- A race after a move. A merge that is done makes no more requests. -/
def step (r : Race ι) : Move ι → Race ι
  | .request i =>
    match r.tasks i with
    | .done _ => r
    | .ask request next => r.answer order readiness i request next
  | .edit e => r.edit ns e

/-- One move after another. -/
def run (r : Race ι) (moves : List (Move ι)) : Race ι := moves.foldl (step order readiness ns) r

/-- Merges at their start, each with its own time and number of attempts. -/
def start (s : Store) (now : ι → String) (attempts : ι → Nat) : Race ι where
  store := s
  tasks i := .aggregate (now i) (attempts i) ns

/-! ## What every race keeps -/

/-- Whether it is so what a merge knows: if the config map described the pools listed last when the
merge asked for it last, then it does so until another merge asks for it. -/
structure Knows (r : Race ι) (i : ι) (stored : Prop) : Prop where
  latest (h : stored) : r.latest.isSome = true
  stored (hlatest : r.latest = some i) (h : stored) :
    ∃ pools, r.listed i = some pools ∧ (Artifact.ofPools pools).IsStored r.store ns

/-- What holds at every point of a race: merges keep what they promise, and know what is so; and as
long as users change nothing, the pools that were listed last are merged as the stored ones are. -/
structure Consistent (r : Race ι) : Prop where
  keyed : r.store.Keyed
  tasks (i : ι) : ∃ stored : Prop, r.Knows ns i stored ∧
    (r.tasks i).Guarantees order readiness ns Task.Kept (r.listed i) stored
  lister {j : ι} (h : r.lister = some j) : ∃ pools, r.listed j = some pools ∧
    (r.changed = false → Artifact.ofPools pools = ⟨r.store.entries ns⟩)
  listed {i : ι} {pools : List AddressPool} (h : r.listed i = some pools) : r.lister.isSome = true

variable {order readiness ns} {r : Race ι}

omit [DecidableEq ι] in
theorem consistent_start {s : Store} (hs : s.Keyed) (horder : ∀ pools, (order pools).Perm pools)
    (now : ι → String) (attempts : ι → Nat) :
    (start ns s now attempts).Consistent order readiness ns where
  keyed := hs
  tasks i := ⟨False, ⟨False.elim, fun _ h => h.elim⟩,
    Task.guarantees_aggregate horder (now i) (attempts i)⟩
  lister h := nomatch h
  listed h := nomatch h

section Answer

variable {i k : ι} {request : Request}
  {next : request.Reply → Task (Except OperatorError AggregateOutcome)} {stored : Prop}

theorem listed_answer_self (r : Race ι) : (r.answer order readiness i request next).listed i =
    request.listedAfter (r.store.serve order readiness request).1 (r.listed i) :=
  Function.update_self i _ _

theorem listed_answer_of_none {r : Race ι}
    (h : request.listing? (r.store.serve order readiness request).1 = none) :
    (r.answer order readiness i request next).listed = r.listed := by
  show Function.update r.listed i (request.listedAfter
    (r.store.serve order readiness request).1 (r.listed i)) = r.listed
  rw [Request.listedAfter, h, Option.none_or, Function.update_eq_self]

theorem lister_answer (r : Race ι) : (r.answer order readiness i request next).lister =
    if (request.listing? (r.store.serve order readiness request).1).isSome then some i
    else r.lister := rfl

theorem changed_answer (r : Race ι) : (r.answer order readiness i request next).changed =
    if (request.listing? (r.store.serve order readiness request).1).isSome then false
    else r.changed := rfl

theorem latest_answer (r : Race ι) : (r.answer order readiness i request next).latest =
    if request.isOnConfigMap then some i else r.latest := rfl

/-- A merge knows what its own request has shown. -/
theorem Knows.answer_self (hmild : request.IsMild order readiness ns) (h : r.Knows ns i stored) :
    (r.answer order readiness i request next).Knows ns i
      (request.storedAfter ns (r.store.serve order readiness request).1
        (r.store.serve order readiness request).2 (r.listed i) stored) := by
  constructor
  · intro hafter
    rw [latest_answer]
    obtain ⟨-, ⟨hon, -⟩ | ⟨hoff, hstored⟩⟩ := Request.storedAfter_cases hafter
    · rw [hon]
      rfl
    · rw [hoff]
      exact h.latest hstored
  · intro hlatest hafter
    obtain ⟨hlisting, hcases⟩ := Request.storedAfter_cases hafter
    rw [listed_answer_self, Request.listedAfter, hlisting, Option.none_or]
    rcases hcases with ⟨-, hseen⟩ | ⟨hoff, hstored⟩
    · exact hseen
    · rw [latest_answer, hoff] at hlatest
      obtain ⟨pools, hlisted, his⟩ := h.stored hlatest hstored
      exact ⟨pools, hlisted, his.of_configMaps_eq (hmild.configMaps hoff r.store)⟩

/-- What another merge knows stays so until it is not the latest any more. -/
theorem Knows.answer_of_ne (hmild : request.IsMild order readiness ns) (h : r.Knows ns k stored)
    (hne : k ≠ i) : (r.answer order readiness i request next).Knows ns k stored := by
  constructor
  · intro hstored
    rw [latest_answer]
    split
    · rfl
    · exact h.latest hstored
  · intro hlatest hstored
    rw [latest_answer] at hlatest
    split at hlatest
    · cases hlatest
      exact absurd rfl hne
    · rename_i hoff
      obtain ⟨pools, hlisted, his⟩ := h.stored hlatest hstored
      refine ⟨pools, ?_, his.of_configMaps_eq (hmild.configMaps (by simpa using hoff) r.store)⟩
      exact (Function.update_of_ne hne _ _).trans hlisted

/-- Every merge goes on to keep its promise. -/
theorem Consistent.tasks_answer (hr : r.Consistent order readiness ns)
    (htask : r.tasks i = .ask request next) (k : ι) :
    ∃ stored : Prop, (r.answer order readiness i request next).Knows ns k stored ∧
      ((r.answer order readiness i request next).tasks k).Guarantees order readiness ns Task.Kept
        ((r.answer order readiness i request next).listed k) stored := by
  obtain ⟨stored, hknows, hguarantees⟩ := hr.tasks i
  rw [htask] at hguarantees
  obtain ⟨hmild, hnext⟩ := hguarantees
  by_cases hk : k = i
  · rw [hk]
    refine ⟨_, hknows.answer_self hmild, ?_⟩
    have htasks : (r.answer order readiness i request next).tasks i =
      next (r.store.serve order readiness request).1 := Function.update_self i _ _
    rw [listed_answer_self, htasks]
    exact hnext r.store hr.keyed
  · -- a merge that has not asked has the same task and listing as before
    obtain ⟨stored', hknows', hguarantees'⟩ := hr.tasks k
    refine ⟨stored', hknows'.answer_of_ne hmild hk, ?_⟩
    have htasks : (r.answer order readiness i request next).tasks k = r.tasks k :=
      Function.update_of_ne hk _ _
    have hlisted : (r.answer order readiness i request next).listed k = r.listed k :=
      Function.update_of_ne hk _ _
    rw [htasks, hlisted]
    exact hguarantees'

/-- The pools that were listed last are still merged as the stored ones are. -/
theorem Consistent.lister_answer (hr : r.Consistent order readiness ns)
    (hmild : request.IsMild order readiness ns) {j : ι}
    (hj : (r.answer order readiness i request next).lister = some j) :
    ∃ pools, (r.answer order readiness i request next).listed j = some pools ∧
      ((r.answer order readiness i request next).changed = false → Artifact.ofPools pools =
        ⟨(r.answer order readiness i request next).store.entries ns⟩) := by
  have hentries : (r.answer order readiness i request next).store.entries ns =
    r.store.entries ns := hmild.entries hr.keyed
  rw [hentries]
  rw [Race.lister_answer] at hj
  cases hlisting : request.listing? (r.store.serve order readiness request).1 with
  | some pools =>
    rw [hlisting] at hj
    cases hj
    refine ⟨pools, ?_, fun _ => hmild.listing hr.keyed hlisting⟩
    rw [listed_answer_self, Request.listedAfter, hlisting]
    rfl
  | none =>
    rw [hlisting] at hj
    obtain ⟨pools, hlisted, hfresh⟩ := hr.lister hj
    rw [listed_answer_of_none hlisting, changed_answer, hlisting]
    exact ⟨pools, hlisted, hfresh⟩

theorem Consistent.answer (hr : r.Consistent order readiness ns)
    (htask : r.tasks i = .ask request next) :
    (r.answer order readiness i request next).Consistent order readiness ns := by
  obtain ⟨_, _, hguarantees⟩ := hr.tasks i
  rw [htask] at hguarantees
  refine ⟨hr.keyed.serve order readiness request, hr.tasks_answer htask,
    hr.lister_answer hguarantees.1, ?_⟩
  intro k pools hlisted
  rw [Race.lister_answer]
  cases hlisting : request.listing? (r.store.serve order readiness request).1 with
  | some pools => rfl
  | none =>
    rw [listed_answer_of_none hlisting] at hlisted
    exact hr.listed hlisted

end Answer

omit [DecidableEq ι] in
theorem Consistent.edit (hr : r.Consistent order readiness ns) (e : PoolEdit) :
    (r.edit ns e).Consistent order readiness ns := by
  have hconfigMaps : (r.edit ns e).store.configMaps = r.store.configMaps :=
    r.store.configMaps_answer_edit e
  refine ⟨hr.keyed.changes (Store.changes_answer hr.keyed e.call), ?_, ?_, hr.listed⟩
  · intro i
    obtain ⟨stored, hknows, hguarantees⟩ := hr.tasks i
    refine ⟨stored, ⟨hknows.latest, fun hlatest hstored => ?_⟩, hguarantees⟩
    obtain ⟨pools, hlisted, his⟩ := hknows.stored hlatest hstored
    exact ⟨pools, hlisted, his.of_configMaps_eq hconfigMaps⟩
  · intro j hj
    obtain ⟨pools, hlisted, hfresh⟩ := hr.lister hj
    refine ⟨pools, hlisted, fun hchanged => ?_⟩
    have hnot : r.changed = false ∧ (r.edit ns e).store.liveSpecs ns = r.store.liveSpecs ns := by
      have h : (r.changed || (r.edit ns e).store.liveSpecs ns != r.store.liveSpecs ns) = false :=
        hchanged
      simpa using h
    rw [hfresh hnot.1, Store.entries_of_liveSpecs_eq hnot.2]

theorem Consistent.step (hr : r.Consistent order readiness ns) (move : Move ι) :
    (r.step order readiness ns move).Consistent order readiness ns := by
  cases move with
  | request i =>
    unfold Race.step
    dsimp only
    split
    · exact hr
    · rename_i request next htask
      exact hr.answer htask
  | edit e => exact hr.edit e

theorem Consistent.run (moves : List (Move ι)) : ∀ {r : Race ι}, r.Consistent order readiness ns →
    (r.run order readiness ns moves).Consistent order readiness ns := by
  induction moves with
  | nil =>
    intro r hr
    exact hr
  | cons move moves ih =>
    intro r hr
    exact ih (hr.step move)

/-! ## Who settles a race -/

/-- **The latest merge settles a race.** If all merges succeed, the config map describes the pools
listed by the merge that has asked for it last. So it describes the live pools, unchanged by users
since pools were listed last, just if this listing is merged as the last one is. -/
theorem latest_settles [Nonempty ι] (horder : ∀ pools, (order pools).Perm pools) {s : Store}
    (hreach : s.Reachable) (now : ι → String) (attempts : ι → Nat) (moves : List (Move ι)) :
    let r := (start ns s now attempts).run order readiness ns moves
    (∀ i, ∃ outcome, (r.tasks i).result? = some (.ok outcome)) → r.changed = false →
      ∃ i listed j listed', r.latest = some i ∧ r.listed i = some listed ∧ r.lister = some j ∧
        r.listed j = some listed' ∧ Artifact.ofPools listed' = ⟨r.store.entries ns⟩ ∧
        (Artifact.ofPools listed).IsStored r.store ns ∧
        ((⟨r.store.entries ns⟩ : Artifact).IsStored r.store ns ↔
          Artifact.ofPools listed = Artifact.ofPools listed') := by
  intro r hok hchanged
  have hr : r.Consistent order readiness ns :=
    (consistent_start hreach.keyed horder now attempts).run moves
  -- a merge that has succeeded knows something
  have hknown (i : ι) : ∃ stored : Prop, r.Knows ns i stored ∧ stored := by
    obtain ⟨stored, hknows, hguarantees⟩ := hr.tasks i
    obtain ⟨outcome, hresult⟩ := hok i
    rw [Task.result?_eq_some.mp hresult] at hguarantees
    exact ⟨stored, hknows, hguarantees ⟨outcome, rfl⟩⟩
  obtain ⟨i, hi⟩ : ∃ i, r.latest = some i := by
    obtain ⟨k⟩ := ‹Nonempty ι›
    obtain ⟨stored, hknows, hstored⟩ := hknown k
    exact Option.isSome_iff_exists.mp (hknows.latest hstored)
  obtain ⟨stored, hknows, hstored⟩ := hknown i
  obtain ⟨listed, hlisted, his⟩ := hknows.stored hi hstored
  obtain ⟨j, hj⟩ := Option.isSome_iff_exists.mp (hr.listed hlisted)
  obtain ⟨listed', hlisted', hfresh⟩ := hr.lister hj
  refine ⟨i, listed, j, listed', hi, hlisted, hj, hlisted', hfresh hchanged, his, ?_⟩
  rw [hfresh hchanged]
  constructor
  · exact his.unique
  · intro heq
    rw [← heq]
    exact his

/-- A pool whose addresses are handed out on a choice. -/
def poolOfChoice (choice : Bool) : AddressPool where
  metadata := { name := some "a", ns := some "x" }
  spec := ⟨"layer2", [], some choice⟩

/-- A race in which one merge lists a pool, a user changes its spec, and the other merge lists it
then. From there on the merges come one after the other, the given one last. -/
def twoListings (last : Bool) : Race Bool :=
  (start "x" {} (fun _ => "now") fun _ => 1).run id (.ok .ready) "x" <|
    [.edit (.create (poolOfChoice true)), .request false,
      .edit (.replace (poolOfChoice false)), .request true] ++
    List.replicate 5 (.request !last) ++ List.replicate 5 (.request last)

theorem latest_settles_newer_last :
    (⟨(twoListings true).store.entries "x"⟩ : Artifact).IsStored (twoListings true).store "x" := by
  obtain ⟨hlatest, hlister, hchanged, hfirst, hsecond⟩ :
      (twoListings true).latest = some true ∧ (twoListings true).lister = some true ∧
        (twoListings true).changed = false ∧
        ((twoListings true).tasks false).result? = some (.ok .created) ∧
        ((twoListings true).tasks true).result? = some (.ok .updated) := by
    decide +kernel
  have hok : ∀ i, ∃ outcome, ((twoListings true).tasks i).result? = some (.ok outcome)
    | false => ⟨.created, hfirst⟩
    | true => ⟨.updated, hsecond⟩
  obtain ⟨i, listed, j, listed', hi, hlisted, hj, hlisted', -, -, hiff⟩ :=
    latest_settles (fun pools => List.Perm.refl (id pools)) ⟨[], rfl⟩ _ _ _ hok hchanged
  obtain rfl : true = i := Option.some.inj (hlatest.symm.trans hi)
  obtain rfl : true = j := Option.some.inj (hlister.symm.trans hj)
  obtain rfl : listed = listed' := Option.some.inj (hlisted.symm.trans hlisted')
  exact hiff.mpr rfl

/-- A merge with an older listing overwrites what another one has written from a newer listing, and
both succeed. -/
theorem older_listing_overwrites :
    ((twoListings false).tasks false).result? = some (.ok .updated) ∧
      ((twoListings false).tasks true).result? = some (.ok .created) ∧
      (twoListings false).changed = false ∧ (twoListings false).lister = some true ∧
      ¬(⟨(twoListings false).store.entries "x"⟩ : Artifact).IsStored (twoListings false).store "x" := by
  decide +kernel

end Race

end PoolOperator
