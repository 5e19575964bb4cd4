import PoolOperator.Proofs.Reconcile.Tell
import PoolOperator.Proofs.Store.Atomic

/-!
# Reports amid other writers

A report writes what it has merged into the conditions that it has read. Others may do what they
like in between: the write goes through only if the object is still the one that was read, so what
it leaves is what was stored, with its conditions merged.
-/

namespace PoolOperator

open Store (StatusWrite WatchedPlaced Placed Judged placeOf)

/-! ## Calls that leave things as they are -/

namespace Exchange

/-- What a call leaves in the store that it was made to, if it gets there. -/
def left (e : Exchange) (failure : Option StoreError) : Store :=
  match failure with
  | some _ => e.store
  | none => (e.store.answer e.call).2

/-- Whether the call has written a status. -/
def hasWritten (e : Exchange) : Bool := (StoreEdit.call e.call).isStatusWrite && e.reply.isOk

/-- Whether a call has changed nothing but the version of the object at a place, and this only if it
has met an ordered conflict. -/
structure IsIdle (e : Exchange) (place : Place) (failure : Option StoreError) : Prop where
  unwritten : e.hasWritten = false
  left : e.left failure = e.store ∨
    e.store.Overtaken (.call e.call) place (e.left failure)

end Exchange

/-- Whether all calls that follow others have changed nothing but a version. -/
def Idle (others : Surroundings) (place : Place) : List Exchange → List Exchange → Prop
  | _, [] => True
  | log, e :: L =>
    e.IsIdle place (others log e.call).failure ∧ Idle others place (log ++ [e]) L

theorem Idle.append {others : Surroundings} {place : Place} {L L' : List Exchange} :
    ∀ {log : List Exchange}, Idle others place log L → Idle others place (log ++ L) L' →
      Idle others place log (L ++ L') := by
  induction L with
  | nil =>
    intro log _ h'
    rwa [List.append_nil] at h'
  | cons e L ih =>
    rintro log ⟨he, hL⟩ h'
    refine ⟨he, ih hL ?_⟩
    rwa [List.append_assoc, List.singleton_append]

theorem Idle.countP {others : Surroundings} {place : Place} {L : List Exchange} :
    ∀ {log : List Exchange}, Idle others place log L → L.countP Exchange.hasWritten = 0 := by
  induction L with
  | nil => exact fun _ => rfl
  | cons e L ih =>
    rintro log ⟨he, hL⟩
    rw [List.countP_cons_of_neg (by rw [he.unwritten]; exact Bool.false_ne_true), ih hL]

/-! ## The two calls of a report -/

/-- A kind of object that a report reads by one call and writes to by another. -/
class Called (α : Type) [Reported α] [WatchedPlaced α] where
  reading : ObjectKey → StoreCall
  writing : α → StoreCall
  found {key : ObjectKey} : (reading key).Reply → Option α
  written {x : α} : (writing x).Reply → α
  fetch_eq (key : ObjectKey) :
    Reported.fetch (α := α) key = Task.call (reading key) >>= fun reply => .done (reply.map found)
  writeStatus_eq (x : α) :
    Reported.writeStatus x = Task.call (writing x) >>= fun reply => .done (reply.map written)
  serve_reading (order : List AddressPool → List AddressPool)
    (readiness : Except OperatorError Readiness) (s : Store) (key : ObjectKey) :
    s.serve order readiness (.store (reading key)) = s.answer (reading key)
  serve_writing (order : List AddressPool → List AddressPool)
    (readiness : Except OperatorError Readiness) (s : Store) (x : α) :
    s.serve order readiness (.store (writing x)) = s.answer (writing x)
  answer_reading (s : Store) (key : ObjectKey) :
    (s.answer (reading key)).1.map found = s.get α key ∧ (s.answer (reading key)).2 = s
  answer_writing (s : Store) (x : α) :
    (s.answer (writing x)).1.map written = (s.patchStatus x).1 ∧
      (s.answer (writing x)).2 = (s.patchStatus x).2
  isStatusWrite_reading (key : ObjectKey) : (StoreEdit.call (reading key)).isStatusWrite = false
  isStatusWrite_writing (x : α) : (StoreEdit.call (writing x)).isStatusWrite = true
  overtaken_writing {s : Store} (x : α) (key : ObjectKey) (h : 0 < s.statusConflicts) :
    s.Overtaken (.call (writing x)) (placeOf α key) (s.overtakenStatus α key)
  status_withStatus (x : α) (status : Option Status) :
    Watched.status (Watched.withStatus x status) = status
  status_withMetadata (x : α) (md : ObjectMeta) :
    Watched.status (Stored.withMetadata x md) = Watched.status x
  isRegistered_of_notedAlike {s s' : Store} (h : s.NotedAlike s') :
    Watched.isRegistered α s' = Watched.isRegistered α s
  statusConflicts_withObjects (s : Store) (m : SortedMap ObjectKey α) :
    (Stored.withObjects s m).statusConflicts = s.statusConflicts
  statusConflicts_record (s : Store) (e : WatchEvent α) :
    (s.record e).statusConflicts = s.statusConflicts

/-- A call goes on with its reply as it is. -/
theorem Task.call_eq_bind_map_id (c : StoreCall) :
    call c = call c >>= fun reply => done (reply.map id) := by
  have hid (reply : Except StoreError c.Reply) : reply.map id = reply :=
    congrFun Except.map_id reply
  simp only [hid]
  rfl

instance : Called AddressPool where
  reading := .getPool
  writing := .patchPoolStatus
  found := id
  written := id
  fetch_eq _ := Task.call_eq_bind_map_id _
  writeStatus_eq _ := Task.call_eq_bind_map_id _
  serve_reading _ _ _ _ := rfl
  serve_writing _ _ _ _ := rfl
  answer_reading _ _ := ⟨congrFun Except.map_id _, rfl⟩
  answer_writing _ _ := ⟨congrFun Except.map_id _, rfl⟩
  isStatusWrite_reading _ := rfl
  isStatusWrite_writing _ := rfl
  overtaken_writing := Store.overtaken_poolStatus
  status_withStatus _ _ := rfl
  status_withMetadata _ _ := rfl
  isRegistered_of_notedAlike h := h.hasPoolKind
  statusConflicts_withObjects _ _ := rfl
  statusConflicts_record _ _ := rfl

instance : Called Instance where
  reading := .getInstance
  writing := .patchInstanceStatus
  found := id
  written := id
  fetch_eq _ := Task.call_eq_bind_map_id _
  writeStatus_eq _ := Task.call_eq_bind_map_id _
  serve_reading _ _ _ _ := rfl
  serve_writing _ _ _ _ := rfl
  answer_reading _ _ := ⟨congrFun Except.map_id _, rfl⟩
  answer_writing _ _ := ⟨congrFun Except.map_id _, rfl⟩
  isStatusWrite_reading _ := rfl
  isStatusWrite_writing _ := rfl
  overtaken_writing := Store.overtaken_instanceStatus
  status_withStatus _ _ := rfl
  status_withMetadata _ _ := rfl
  isRegistered_of_notedAlike h := h.hasInstanceKind
  statusConflicts_withObjects _ _ := rfl
  statusConflicts_record _ _ := rfl

theorem Store.get_of_isRegistered {α : Type} [Watched α] {s : Store}
    (h : Watched.isRegistered α s = true) (key : ObjectKey) :
    s.get α key = .ok ((Stored.objects s).get? key) := by
  have hkind : checkKind α s = .ok () := if_pos h
  rw [get, hkind]
  rfl

theorem Store.eq_of_get_eq_ok {α : Type} [Watched α] {s : Store} {key : ObjectKey}
    {found : Option α} (h : s.get α key = .ok found) : found = (Stored.objects s).get? key := by
  unfold get at h
  cases hkind : checkKind α s with
  | error e =>
    rw [hkind] at h
    cases h
  | ok _ =>
    rw [hkind] at h
    cases h
    rfl

theorem Store.Reachable.not_hasVersion_next {s : Store} {place : Place} {x : AnyObject}
    (hs : s.Reachable) (hx : s.at? place = some x) : ¬x.HasVersion s.nextVersion := by
  obtain ⟨es, rfl⟩ := hs
  exact Store.not_hasVersion_next List.prefix_rfl hx

section Called

variable {α : Type} [Reported α] [WatchedPlaced α] [Called α] {others : Surroundings}
  {readiness : Except OperatorError Readiness} {x y z : Scene} {key : ObjectKey} {object : α}
  {desired : List Condition}

namespace Scene

variable (readiness)

/-- A call leaves what the store that it is made to leaves, if it gets there. -/
theorem resultOf_snd_eq (x : Scene) (call : StoreCall) (reply : Except StoreError call.Reply) :
    (x.resultOf others readiness call).2 =
      (⟨call, x.storeAt others call, reply⟩ : Exchange).left (others x.log call).failure := by
  unfold resultOf Exchange.left
  cases (others x.log call).failure with
  | some e => rfl
  | none => exact Store.serve_store_snd call

/-- An object is read as it is stored at the time, and nothing is changed. -/
theorem run_fetch (others : Surroundings) (x : Scene) (key : ObjectKey) :
    ∃ e reply, (Reported.fetch (α := α) key).run (answer others readiness) x =
        (reply, ⟨e.store, x.log ++ [e]⟩) ∧
      e.store = x.storeAt others (Called.reading α key) ∧
      e.IsIdle (placeOf α key) (others x.log e.call).failure ∧
      ((others x.log e.call).failure = none → reply = e.store.get α key) ∧
      ∀ found, reply = .ok found → found = (Stored.objects e.store).get? key := by
  obtain ⟨hreply, hstore⟩ :=
    Called.answer_reading (α := α) (x.storeAt others (Called.reading α key)) key
  have hleft (reply : Except StoreError (Called.reading α key).Reply) :
      (⟨Called.reading α key, x.storeAt others (Called.reading α key), reply⟩ : Exchange).left
        (others x.log (Called.reading α key)).failure =
          x.storeAt others (Called.reading α key) := by
    unfold Exchange.left
    split
    · rfl
    · exact hstore
  have hgot (hfailure : (others x.log (Called.reading α key)).failure = none) :
      (x.resultOf others readiness (Called.reading α key)).1.map Called.found =
        (x.storeAt others (Called.reading α key)).get α key := by
    rw [resultOf_of_failure_none hfailure, Called.serve_reading, hreply]
  refine ⟨_, _, ?_, rfl, ⟨?_, .inl (hleft (x.resultOf others readiness _).1)⟩, hgot, ?_⟩
  · rw [Called.fetch_eq, Task.run_call_bind (answer_store others readiness x _), Task.run_done,
      resultOf_snd_eq readiness x _ (x.resultOf others readiness _).1, hleft]
  · rw [Exchange.hasWritten, Called.isStatusWrite_reading, Bool.false_and]
  · intro found hfound
    cases hfailure : (others x.log (Called.reading α key)).failure with
    | some e =>
      rw [resultOf, hfailure] at hfound
      cases hfound
    | none => exact Store.eq_of_get_eq_ok ((hgot hfailure).symm.trans hfound)

/-- A status is written as the store has it at the time, or not at all. -/
theorem run_writeStatus (others : Surroundings) (x : Scene)
    (hkey : (Stored.metadata object).HasKey key) :
    ∃ e reply s, (Reported.writeStatus object).run (answer others readiness) x =
        (reply, ⟨s, x.log ++ [e]⟩) ∧
      e.call = Called.writing object ∧ e.store = x.storeAt others (Called.writing object) ∧
      s = e.left (others x.log e.call).failure ∧ e.hasWritten = reply.isOk ∧
      ((others x.log e.call).failure = none → (reply, s) = e.store.patchStatus object) ∧
      StatusWrite e.store key object reply s := by
  obtain ⟨hreply, hstore⟩ :=
    Called.answer_writing (x.storeAt others (Called.writing object)) object
  refine ⟨_, (x.resultOf others readiness (Called.writing object)).1.map Called.written, _, ?_, rfl,
    rfl, resultOf_snd_eq readiness x _ (x.resultOf others readiness _).1, ?_, ?_, ?_⟩
  · rw [Called.writeStatus_eq, Task.run_call_bind (answer_store others readiness x _),
      Task.run_done]
  · rw [Exchange.hasWritten, Called.isStatusWrite_writing, Bool.true_and]
    cases (x.resultOf others readiness (Called.writing object)).1 <;> rfl
  · intro hfailure
    rw [resultOf_of_failure_none hfailure, Called.serve_writing, hreply, hstore]
  · cases hfailure : (others x.log (Called.writing object)).failure with
    | some e =>
      rw [resultOf, hfailure]
      exact .refused e
    | none =>
      rw [resultOf_of_failure_none hfailure, Called.serve_writing, hreply, hstore]
      exact Store.statusWrite_patchStatus hkey

end Scene

/-! ## What a report comes to -/

/-- Whether a call has merged conditions into the object that is stored under a key: right
afterwards the object is what it was right before, with the conditions merged and a version that no
object had, and there has been no other change of objects. -/
structure Merges (key : ObjectKey) (desired : List Condition) (e : Exchange) (s : Store)
    (object : α) (merged : List Condition) : Prop where
  hasWritten : e.hasWritten = true
  before : (Stored.objects e.store).get? key = some object
  merge : Condition.merge? (conditionsOf object) desired = some merged
  after : (Stored.objects s).get? key =
    some (Store.withVersion (withConditions object merged) e.store.nextVersion)
  fresh (place : Place) (x : AnyObject) (h : e.store.at? place = some x) :
    ¬x.HasVersion e.store.nextVersion
  apart (place : Place) (h : place ≠ placeOf α key) : s.at? place = e.store.at? place

/-- What is stored is what was read if it still has its version, so the conditions are merged into
what is stored. -/
theorem merges_of_written {e : Exchange} {s : Store} {stored : α} {merged : List Condition}
    (hs : s.Reachable) (he : e.store.Reachable) (hchanges : Store.Changes s e.store)
    (hread : (Stored.objects s).get? key = some object)
    (hmerge : Condition.merge? (conditionsOf object) desired = some merged)
    (hwritten : e.hasWritten = true) (hstored : (Stored.objects e.store).get? key = some stored)
    (hversion : (Stored.metadata (withConditions object merged)).resourceVersion = none ∨
      (Stored.metadata (withConditions object merged)).resourceVersion =
        (Stored.metadata stored).resourceVersion) (event : WatchEvent α) :
    Merges key desired e ((e.store.put key (e.store.patched stored
      (withConditions object merged))).record event).countStatusWrite object merged := by
  have hmetadata : Stored.metadata (withConditions object merged) = Stored.metadata object :=
    WatchedPlaced.metadata_withStatus _ _
  rw [hmetadata] at hversion
  obtain ⟨v, -, hv⟩ := hs.version hread
  obtain rfl : stored = object := by
    refine hs.eq_of_version_eq hchanges hread hstored ?_
    rcases hversion with hnone | heq
    · rw [hv] at hnone
      cases hnone
    · exact heq.symm
  have hpatched : e.store.patched stored (withConditions stored merged) =
      Store.withVersion (withConditions stored merged) e.store.nextVersion := by
    rw [Store.patched, withConditions, Called.status_withStatus]
  refine ⟨hwritten, hstored, hmerge, ?_, ?_, ?_⟩
  · rw [← Store.at?_eq_some, Store.at?_written, if_pos rfl, hpatched]
  · exact fun _ _ => he.not_hasVersion_next
  · intro place hplace
    rw [Store.at?_written, if_neg hplace]

/-- The ways in which a report can end: with no call that has written a status, or with one. -/
inductive ReportEnd (others : Surroundings) (α : Type) [Reported α] [WatchedPlaced α]
    (key : ObjectKey) (desired : List Condition) (log : List Exchange) :
    Except OperatorError Bool → List Exchange → Store → Prop where
  | idle {result : Except OperatorError Bool} {L : List Exchange} {s : Store}
      (h : Idle others (placeOf α key) log L) (hresult : result ≠ .ok true) :
      ReportEnd others α key desired log result L s
  | wrote {L : List Exchange} {e : Exchange} {s : Store} {object : α} {merged : List Condition}
      (h : Idle others (placeOf α key) log L) (hmerges : Merges key desired e s object merged) :
      ReportEnd others α key desired log (.ok true) (L ++ [e]) s

omit [Called α] in
theorem ReportEnd.after {log L L' : List Exchange} {result : Except OperatorError Bool} {s : Store}
    (h : ReportEnd others α key desired (log ++ L) result L' s)
    (hL : Idle others (placeOf α key) log L) :
    ReportEnd others α key desired log result (L ++ L') s := by
  cases h with
  | idle h hresult => exact .idle (hL.append h) hresult
  | wrote h hmerges =>
    rw [← List.append_assoc]
    exact .wrote (hL.append h) hmerges

variable (others readiness key desired)

theorem reportEnd_reportWithin (total left : Nat) : ∀ {x : Scene}, x.store.Reachable →
    ∃ L, ((Task.reportWithin α key desired total left).run
        (Scene.answer others readiness) x).2.log = x.log ++ L ∧
      ReportEnd others α key desired x.log
        ((Task.reportWithin α key desired total left).run (Scene.answer others readiness) x).1 L
        ((Task.reportWithin α key desired total left).run
          (Scene.answer others readiness) x).2.store := by
  have herror (e : OperatorError) : (Except.error e : Except OperatorError Bool) ≠ .ok true := by
    intro h
    cases h
  have hnone : (Except.ok false : Except OperatorError Bool) ≠ .ok true := by decide
  induction left with
  | zero =>
    intro x _
    exact ⟨[], (List.append_nil _).symm, .idle trivial (herror _)⟩
  | succ left ih =>
    intro x hx
    obtain ⟨e, reply, hrun, hstore, hidle, -, hfound⟩ :=
      Scene.run_fetch (α := α) readiness others x key
    have he : e.store.Reachable := hstore ▸ Scene.reachable_storeAt hx _
    have hread : Idle others (placeOf α key) x.log [e] := ⟨hidle, trivial⟩
    rw [Task.reportWithin, Task.run_bind, hrun]
    rcases reply with err | _ | current
    · exact ⟨[e], rfl, .idle hread (herror _)⟩
    · exact ⟨[e], rfl, .idle hread hnone⟩
    have hcurrent := (hfound (some current) rfl).symm
    dsimp only
    cases hmerge : Condition.merge? (conditionsOf current) desired with
    | none => exact ⟨[e], rfl, .idle hread hnone⟩
    | some merged =>
      have hkey : (Stored.metadata (withConditions current merged)).HasKey key := by
        rw [withConditions, WatchedPlaced.metadata_withStatus]
        exact he.keyed.hasKey hcurrent
      obtain ⟨e', reply, s, hrun', hcall, hstore', hleft, hwritten, -, hwrite⟩ :=
        Scene.run_writeStatus readiness others ⟨e.store, x.log ++ [e]⟩ hkey
      have he' : e'.store.Reachable := hstore' ▸ Scene.reachable_storeAt he _
      have hs : s.Reachable := by
        have hreachable := Scene.reachable_run others readiness (x := ⟨e.store, x.log ++ [e]⟩) he
          (Reported.writeStatus (withConditions current merged))
        rw [hrun'] at hreachable
        exact hreachable
      rw [Task.run_bind, hrun']
      rcases reply with err | updated
      · have hidle' : e'.IsIdle (placeOf α key) (others (x.log ++ [e]) e'.call).failure := by
          refine ⟨hwritten, ?_⟩
          rw [← hleft]
          cases hwrite with
          | refused => exact .inl rfl
          | overtaken _ hordered =>
            rw [hcall]
            exact .inr (Called.overtaken_writing _ key hordered)
        have hwrite' : Idle others (placeOf α key) (x.log ++ [e]) [e'] := ⟨hidle', trivial⟩
        cases err with
        | conflict detail =>
          obtain ⟨L, hlog, hend⟩ := ih (x := ⟨s, x.log ++ [e] ++ [e']⟩) hs
          refine ⟨[e] ++ ([e'] ++ L), hlog.trans ?_, (hend.after hwrite').after hread⟩
          rw [List.append_assoc, List.append_assoc]
        | notFound _ =>
          exact ⟨[e] ++ [e'], List.append_assoc .., .idle (hread.append hwrite') hnone⟩
        | _ =>
          exact ⟨[e] ++ [e'], List.append_assoc .., .idle (hread.append hwrite') (herror _)⟩
      · refine ⟨[e] ++ [e'], List.append_assoc .., ?_⟩
        cases hwrite with
        | written hstored hversion =>
          have hchanges : Store.Changes e.store e'.store := by
            rw [hstore']
            exact Scene.changes_storeAt (x := ⟨e.store, x.log ++ [e]⟩) he.keyed _
          exact .wrote hread
            (merges_of_written he he' hchanges hcurrent hmerge hwritten hstored hversion _)

/-! ## Reports with nobody about -/

variable {others} {desired} {cs merged : List Condition}

theorem conditionsOf_withVersion (x : α) (version : Nat) :
    conditionsOf (Store.withVersion x version) = conditionsOf x := by
  rw [conditionsOf, conditionsOf, Store.withVersion, Called.status_withMetadata]

theorem statusConflicts_overtakenStatus (s : Store) (key : ObjectKey) :
    (s.overtakenStatus α key).statusConflicts = s.statusConflicts - 1 := by
  unfold Store.overtakenStatus Store.bump
  split
  · exact Called.statusConflicts_withObjects _ _
  · rfl

theorem statusConflicts_written (s : Store) (key : ObjectKey) (x : α) (event : WatchEvent α) :
    ((s.put key x).record event).countStatusWrite.statusConflicts = s.statusConflicts :=
  (Called.statusConflicts_record (s.put key x) event).trans
    (Called.statusConflicts_withObjects s _)

/-- Whether there is an object with some conditions under a key, of a kind that is registered. -/
def Stands (α : Type) [Watched α] (key : ObjectKey) (cs : List Condition) (s : Store) : Prop :=
  Watched.isRegistered α s = true ∧
    ∃ x : α, (Stored.objects s).get? key = some x ∧ conditionsOf x = cs

theorem Stands.overtaken [Judged α] {s : Store} (h : Stands α key cs s)
    (hordered : 0 < s.statusConflicts) : Stands α key cs (s.overtakenStatus α key) := by
  obtain ⟨hregistered, x, hx, hcs⟩ := h
  have hovertaken := Called.overtaken_writing x key hordered
  refine ⟨?_, Store.withVersion x s.nextVersion, ?_, ?_⟩
  · rw [Called.isRegistered_of_notedAlike hovertaken.notedAlike, hregistered]
  · have hat := hovertaken.at? (placeOf α key)
    rw [if_pos rfl, Store.at?_eq_some.mpr hx, Option.map_some, ← Store.ofStored_withVersion] at hat
    exact Store.at?_eq_some.mp hat
  · rw [conditionsOf_withVersion, hcs]

/-- Every attempt uses up a conflict until none is left, and then the conditions are written. -/
theorem run_reportWithin_of_quiet [Judged α] (hothers : others.Quiet)
    (hmerge : Condition.merge? cs desired = some merged) (total left : Nat) :
    ∀ {x : Scene}, x.store.Reachable → Stands α key cs x.store →
      let r := (Task.reportWithin α key desired total left).run (Scene.answer others readiness) x
      (x.store.statusConflicts < left → r.1 = .ok true ∧ r.2.store.statusConflicts = 0) ∧
      (left ≤ x.store.statusConflicts →
        r.1 = .error (.conflictsExhausted s!"{Stored.kind α} {key.display} status" total) ∧
          r.2.store.statusConflicts = x.store.statusConflicts - left) := by
  induction left with
  | zero =>
    intro x _ _ r
    exact ⟨fun h => absurd h (Nat.not_lt_zero _), fun _ => ⟨rfl, rfl⟩⟩
  | succ left ih =>
    intro x hx hstands
    obtain ⟨hregistered, object, hobject, hcs⟩ := hstands
    obtain ⟨e, reply, hrun, hstore, -, hreply, -⟩ :=
      Scene.run_fetch (α := α) readiness others x key
    rw [Scene.storeAt_of_quiet hothers] at hstore
    have hgot := hreply (hothers.failure _ _)
    rw [hstore, Store.get_of_isRegistered hregistered, hobject] at hgot
    have hkey : (Stored.metadata (withConditions object merged)).HasKey key := by
      rw [withConditions, WatchedPlaced.metadata_withStatus]
      exact hx.keyed.hasKey hobject
    obtain ⟨e', reply', s, hrun', -, hstore', -, -, hwrite, -⟩ :=
      Scene.run_writeStatus readiness others ⟨e.store, x.log ++ [e]⟩ hkey
    rw [Scene.storeAt_of_quiet hothers, hstore] at hstore'
    have hwritten := hwrite (hothers.failure _ _)
    rw [hstore'] at hwritten
    dsimp only
    rw [Task.reportWithin, Task.run_bind, hrun, hgot]
    dsimp only
    rw [hcs, hmerge]
    dsimp only
    rw [Task.run_bind, hrun']
    by_cases hordered : 0 < x.store.statusConflicts
    · obtain ⟨message, hconflict⟩ :=
        Store.patchStatus_of_ordered hregistered hordered hkey hobject
      rw [hconflict] at hwritten
      obtain ⟨rfl, rfl⟩ := Prod.mk.inj hwritten
      have hconflicts : (x.store.overtakenStatus α key).statusConflicts =
        x.store.statusConflicts - 1 := statusConflicts_overtakenStatus _ _
      have hreach : (x.store.overtakenStatus α key).Reachable := by
        have hanswer := hx.answer (Called.writing (withConditions object merged))
        rwa [(Called.answer_writing _ _).2, hconflict] at hanswer
      obtain ⟨hok, herror⟩ := ih
        (x := ⟨x.store.overtakenStatus α key, x.log ++ [e] ++ [e']⟩) hreach
        (Stands.overtaken key ⟨hregistered, object, hobject, hcs⟩ hordered)
      dsimp only at hok herror
      rw [hconflicts] at hok herror
      refine ⟨fun h => hok (by omega), fun h => ?_⟩
      obtain ⟨hresult, hleft⟩ := herror (by omega)
      exact ⟨hresult, hleft.trans (by omega)⟩
    · have hzero : x.store.statusConflicts = 0 := by omega
      rw [Store.patchStatus_of_stored hregistered hzero hkey hobject
        (congrArg ObjectMeta.resourceVersion (WatchedPlaced.metadata_withStatus _ _))] at hwritten
      cases hwritten
      exact ⟨fun _ => ⟨rfl, (statusConflicts_written _ _ _ _).trans hzero⟩, fun h => by omega⟩

end Called

/-! ## Any report -/

/-- Whether a run of a report on an object of a kind, begun in a scene, has lost no update. -/
structure LosesNoUpdate (α : Type) [Reported α] [WatchedPlaced α] (others : Surroundings)
    (attempts : Nat) (key : ObjectKey) (desired : List Condition) (x : Scene)
    (r : Except OperatorError Bool × Scene) : Prop where
  /-- Of the calls that the report has made, one at most has written a status. It has merged the
  conditions into those that were stored, and has kept those of other types. All others have changed
  nothing but versions, by conflicts that they have met. -/
  among_others : ∃ L, r.2.log = x.log ++ L ∧ L.countP Exchange.hasWritten ≤ 1 ∧
    (r.1 = .ok true ↔ L.countP Exchange.hasWritten = 1) ∧
    (r.1 = .ok true → ∃ (before : List Exchange) (e : Exchange) (object : α)
      (merged : List Condition), L = before ++ [e] ∧
        Idle others (placeOf α key) x.log before ∧ Merges key desired e r.2.store object merged ∧
        ∀ p : String → Bool, (∀ d ∈ desired, p d.type = false) →
          merged.filter (p ·.type) = (conditionsOf object).filter (p ·.type)) ∧
    (r.1 ≠ .ok true → Idle others (placeOf α key) x.log L)
  /-- With nobody about and something to write, attempts use up conflicts until none is left. -/
  alone (hquiet : others.Quiet) (hregistered : Watched.isRegistered α x.store = true) (object : α)
    (merged : List Condition) (hobject : (Stored.objects x.store).get? key = some object)
    (hmerge : Condition.merge? (conditionsOf object) desired = some merged) :
    (x.store.statusConflicts < attempts → r.1 = .ok true ∧ r.2.store.statusConflicts = 0) ∧
      (attempts ≤ x.store.statusConflicts →
        r.1 = .error (.conflictsExhausted s!"{Stored.kind α} {key.display} status" attempts) ∧
          r.2.store.statusConflicts = x.store.statusConflicts - attempts)

theorem losesNoUpdate_report {α : Type} [Reported α] [WatchedPlaced α] [Judged α] [Called α]
    (others : Surroundings) (readiness : Except OperatorError Readiness) {x : Scene}
    (hx : x.store.Reachable) (attempts : Nat) (key : ObjectKey) (desired : List Condition) :
    LosesNoUpdate α others attempts key desired x
      ((Task.report α attempts key desired).run (Scene.answer others readiness) x) where
  among_others := by
    obtain ⟨L, hlog, hend⟩ :=
      reportEnd_reportWithin (α := α) others readiness key desired attempts attempts hx
    refine ⟨L, hlog, ?_⟩
    rw [Task.report]
    generalize (Task.reportWithin α key desired attempts attempts).run
      (Scene.answer others readiness) x = r at hend ⊢
    obtain ⟨result, y⟩ := r
    cases hend with
    | idle h hresult =>
      rw [h.countP]
      exact ⟨Nat.zero_le 1, iff_of_false hresult Nat.zero_ne_one,
        fun hok => absurd hok hresult, fun _ => h⟩
    | @wrote before e _ object merged h hmerges =>
      have hcount : (before ++ [e]).countP Exchange.hasWritten = 1 := by
        rw [List.countP_append, h.countP, List.countP_singleton, if_pos hmerges.hasWritten]
      rw [hcount]
      refine ⟨Nat.le_refl 1, iff_of_true rfl rfl, fun _ => ?_, fun hne => absurd rfl hne⟩
      refine ⟨before, e, object, merged, rfl, h, hmerges, fun p hp => ?_⟩
      rw [← Condition.merged_of_eq_some hmerges.merge]
      exact Condition.filter_merged hp _
  alone hquiet hregistered object merged hobject hmerge :=
    run_reportWithin_of_quiet readiness key hquiet hmerge attempts attempts hx
      ⟨hregistered, object, hobject, rfl⟩

/-- **A report loses no update.** Whatever others do between its calls, a report on a pool or on an
instance writes one status at most, and is true just if it has written one. Right after the write,
the object is what it was right before, with the conditions merged into its own and a new version,
and conditions of other types are as they were. A report that is not true has changed nothing but
versions, by conflicts that it has met. If nobody else is about and there is something to write, it
succeeds unless there are as many conflicts as attempts; then each attempt has used up one. -/
theorem report_loses_no_update (others : Surroundings)
    (readiness : Except OperatorError Readiness) {x : Scene} (hx : x.store.Reachable)
    (attempts : Nat) (key : ObjectKey) (desired : List Condition) :
    LosesNoUpdate AddressPool others attempts key desired x
        ((Task.report AddressPool attempts key desired).run (Scene.answer others readiness) x) ∧
      LosesNoUpdate Instance others attempts key desired x
        ((Task.report Instance attempts key desired).run (Scene.answer others readiness) x) :=
  ⟨losesNoUpdate_report others readiness hx attempts key desired,
    losesNoUpdate_report others readiness hx attempts key desired⟩

/-- A pool, and the same pool with other addresses. -/
def toldPool (address : String) : AddressPool where
  metadata := { name := some "gold", ns := some "a" }
  spec := { protocol := "layer2", addresses := [address] }

/-- Before the second call, somebody gives the pool other addresses. -/
def rewriting : Surroundings := fun log _ =>
  if log.length = 1 then { edits := [.call (.replacePool (toldPool "10.1.0.0/16"))] } else {}

/-- The pool is told for the second time only, and it keeps its new addresses. With nobody about,
one conflict is too many for one attempt, but not for two. -/
theorem report_loses_no_update_rewritten :
    let told : Condition := ⟨"Merged", .true, "Ok", "", none⟩
    let s := ({} : Store).edits [.addPool (toldPool "10.0.0.0/16")]
    let report (attempts : Nat) := Task.report AddressPool attempts ⟨"a", "gold"⟩ [told]
    let r := (report 2).run (Scene.answer rewriting (.ok .ready)) ⟨s, []⟩
    let contested (attempts : Nat) := (report attempts).run
      (Scene.answer (fun _ _ => {}) (.ok .ready)) ⟨s.edit (.orderStatusConflicts 1), []⟩
    (r.1 = .ok true ∧ r.2.log.length = 4 ∧ r.2.log.countP Exchange.hasWritten = 1 ∧
      (r.2.store.pools.get? ⟨"a", "gold"⟩).map (fun p => (p.spec.addresses, p.conditions)) =
        some (["10.1.0.0/16"], [told])) ∧
    (contested 2).1 = .ok true ∧
    (contested 1).1 = .error (.conflictsExhausted "AddressPool a/gold status" 1) := by
  intro told s report r contested
  have hs : s.Reachable := ⟨_, rfl⟩
  have hs' : (s.edit (.orderStatusConflicts 1)).Reachable :=
    ⟨[.addPool (toldPool "10.0.0.0/16"), .orderStatusConflicts 1], rfl⟩
  have htrue : r.1 = .ok true := by decide +kernel
  have hquiet : Surroundings.Quiet fun _ _ => {} :=
    ⟨fun _ _ => rfl, fun _ _ => rfl, fun _ _ pools => .refl pools⟩
  have hcontested (attempts : Nat) := (report_loses_no_update (fun _ _ => {}) (.ok .ready)
    (x := ⟨s.edit (.orderStatusConflicts 1), []⟩) hs' attempts ⟨"a", "gold"⟩ [told]).1.alone hquiet
    rfl _ _ rfl rfl
  obtain ⟨L, hlog, -, hiff, -, -⟩ := (report_loses_no_update rewriting (.ok .ready)
    (x := ⟨s, []⟩) hs 2 ⟨"a", "gold"⟩ [told]).1.among_others
  have hlog : r.2.log = L := hlog
  refine ⟨⟨htrue, by decide +kernel, ?_, by decide +kernel⟩, ?_, ?_⟩
  · rw [hlog]
    exact hiff.mp htrue
  · exact ((hcontested 2).1 (by decide +kernel)).1
  · exact ((hcontested 1).2 (by decide +kernel)).1

end PoolOperator
