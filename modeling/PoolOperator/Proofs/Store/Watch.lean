import PoolOperator.Proofs.Store.Announce
import PoolOperator.Store.Watch
import Mathlib.Data.List.Induction

/-!
# Following a store

A watch tells of the objects that it has found, in any order, and then of each change in its turn.
So who puts together what a watch tells has the objects of the store, as long as nothing is lost.
-/

namespace PoolOperator

/-! ## Reading a watch -/

/-- The objects that are known of from all that a watch has told. -/
def viewOf {α : Type} [Stored α] (told : List (Except StoreError (WatchEvent α))) :
    SortedMap ObjectKey α :=
  (told.filterMap Except.toOption).foldl WatchEvent.apply ∅

/-- What has been passed of what was sent, what has not been read yet, and what has been told. More
than a certain number that have not been read are not kept: the oldest ones are lost at the next
reading, which tells how many they are. -/
inductive Delivered {α : Type} : List (WatchEvent α) → List (WatchEvent α) →
    List (Except StoreError (WatchEvent α)) → Prop where
  | start : Delivered [] [] []
  | sent {passed unread : List (WatchEvent α)} {told : List (Except StoreError (WatchEvent α))}
      (h : Delivered passed unread told) (e : WatchEvent α) : Delivered passed (unread ++ [e]) told
  | told {passed unread : List (WatchEvent α)} {told : List (Except StoreError (WatchEvent α))}
      {e : WatchEvent α} (h : Delivered passed (e :: unread) told)
      (hkept : (e :: unread).length ≤ watchCapacity) :
      Delivered (passed ++ [e]) unread (told ++ [.ok e])
  | lost {passed lost kept : List (WatchEvent α)}
      {told : List (Except StoreError (WatchEvent α))} (h : Delivered passed (lost ++ kept) told)
      (hlost : lost ≠ []) (hkept : kept.length = watchCapacity) :
      Delivered (passed ++ lost) kept
        (told ++ [.error (.watch s!"watch fell behind by {lost.length} events")])

section Delivered

variable {α : Type} {passed unread : List (WatchEvent α)}
  {told : List (Except StoreError (WatchEvent α))}

theorem Delivered.append (h : Delivered passed unread told) (events : List (WatchEvent α)) :
    Delivered passed (unread ++ events) told := by
  induction events generalizing unread with
  | nil => rwa [List.append_nil]
  | cons e events ih =>
    rw [← List.singleton_append, ← List.append_assoc]
    exact ih (h.sent e)

/-- Without an error all that has been passed has been told. -/
theorem Delivered.told_eq (h : Delivered passed unread told) (herror : ∀ e, .error e ∉ told) :
    told = passed.map .ok := by
  induction h with
  | start => rfl
  | sent h e ih => exact ih herror
  | told h _ ih =>
    rw [ih fun e he => herror e (List.mem_append_left _ he), List.map_append]
    rfl
  | lost h _ _ _ => exact absurd (List.mem_append_right _ (List.mem_singleton_self _)) (herror _)

end Delivered

/-- A store, a watch that follows it, and what the watch has told. -/
structure Follower (α : Type) where
  store : Store
  watch : Watch α
  told : List (Except StoreError (WatchEvent α)) := []

/-- What happens around a watch. -/
inductive WatchMove where
  /-- The store changes. -/
  | edit (e : StoreEdit)
  /-- The watch is read. -/
  | read

/-- The change that is made, if one is made. -/
def WatchMove.edit? : WatchMove → Option StoreEdit
  | edit e => some e
  | read => none

/-- A watch that has come up to a number of changes. -/
def Watch.movedTo {α : Type} (w : Watch α) (seen : Nat) : Watch α := { w with seen := some seen }

namespace Follower

open Store

variable {α : Type} [Watched α]

/-- A watch that is opened, and tells of the objects that are there in an order of choice. -/
def start (α : Type) [Watched α] (s : Store) (order : List α → List α) : Follower α where
  store := s
  watch := .start s order

/-- What one move leads to. A reading is noted if the watch has anything to tell. -/
def step (f : Follower α) : WatchMove → Follower α
  | .edit e => { f with store := f.store.edit e }
  | .read =>
    match f.watch.next? f.store with
    | some (told, watch) => { f with watch := watch, told := f.told ++ [told] }
    | none => f

/-- One move after another. -/
def run (f : Follower α) (moves : List WatchMove) : Follower α := moves.foldl step f

/-- What is unread is read in its order, unless there is too much of it. -/
theorem next?_of_events {s : Store} {w : Watch α} {before unread : List (WatchEvent α)}
    (hcomplaint : w.complaint = none) (hreplay : w.replay = [])
    (hseen : w.seen = some before.length)
    (hevents : Watched.events s = unread.reverse ++ before) :
    w.next? s =
      if watchCapacity < unread.length then
        some (.error (.watch s!"watch fell behind by {unread.length - watchCapacity} events"),
          w.movedTo (before.length + (unread.length - watchCapacity)))
      else unread.head?.map fun e => (.ok e, w.movedTo (before.length + 1)) := by
  have hcount : (Watched.events (α := α) s).length - before.length = unread.length := by
    rw [hevents, List.length_append, List.length_reverse, Nat.add_sub_cancel]
  unfold Watch.next?
  simp only [hcomplaint, hreplay, hseen, Option.bind_some, hcount, Watch.movedTo]
  split
  · rfl
  · cases unread with
    | nil => rfl
    | cons e rest =>
      have hget : (Watched.events (α := α) s)[(e :: rest).length - 1]? = some e := by
        rw [hevents, List.reverse_cons, List.append_assoc]
        simp
      rw [if_pos (show 0 < (e :: rest).length from Nat.succ_pos _), hget]
      rfl

section Stands

variable [WatchedPlaced α] [Followed α]

/-- How far a watch has come: what it has replayed, what it has passed of the later changes, what it
has not read of them, and what it has told of them. -/
structure Stands (order : List α → List α) (s : Store) (es : List StoreEdit) (replayed : List α)
    (passed unread : List (WatchEvent α)) (live : List (Except StoreError (WatchEvent α)))
    (f : Follower α) : Prop where
  store : f.store = s.edits es
  complaint : f.watch.complaint = none
  told : f.told = replayed.map (fun x => .ok (.added x)) ++ live
  replay : replayed ++ f.watch.replay = order (Stored.objects s).values
  first : f.watch.replay ≠ [] → passed = [] ∧ live = []
  seen : f.watch.seen = some ((Watched.events (α := α) s).length + passed.length)
  sent : passed ++ unread = s.announcements α es
  delivered : Delivered passed unread live

variable {order : List α → List α} {s : Store} {es : List StoreEdit} {replayed : List α}
  {passed unread : List (WatchEvent α)} {live : List (Except StoreError (WatchEvent α))}
  {f : Follower α}

omit [WatchedPlaced α] [Followed α] in
theorem start_eq (h : Watched.isRegistered α s = true) : start α s order =
    ⟨s, ⟨order (Stored.objects s).values, some (Watched.events (α := α) s).length, none⟩, []⟩ := by
  rw [start, Watch.start, if_pos h]

theorem stands_start (h : Watched.isRegistered α s = true) :
    Stands order s [] [] [] [] [] (start α s order) := by
  rw [start_eq h]
  exact ⟨rfl, rfl, rfl, rfl, fun _ => ⟨rfl, rfl⟩, rfl, rfl, .start⟩

theorem Stands.edit (h : Stands order s es replayed passed unread live f) (e : StoreEdit) :
    Stands order s (es ++ [e]) replayed passed (unread ++ ((s.edits es).announced? α e).toList) live
      (f.step (.edit e)) where
  store := by
    rw [step, h.store, edits_append]
    rfl
  complaint := h.complaint
  told := h.told
  replay := h.replay
  first := h.first
  seen := h.seen
  sent := by rw [announcements_append, ← h.sent, List.append_assoc]
  delivered := h.delivered.append _

/-- What the next reading of a watch comes to. -/
theorem Stands.next? (hs : s.Keyed) (h : Stands order s es replayed passed unread live f)
    (hreplay : f.watch.replay = []) : f.watch.next? f.store =
      if watchCapacity < unread.length then
        some (.error (.watch s!"watch fell behind by {unread.length - watchCapacity} events"),
          f.watch.movedTo ((Watched.events (α := α) s).length + passed.length +
            (unread.length - watchCapacity)))
      else unread.head?.map fun e =>
        (.ok e, f.watch.movedTo ((Watched.events (α := α) s).length + passed.length + 1)) := by
  have hlength : (passed.reverse ++ Watched.events s).length =
      (Watched.events (α := α) s).length + passed.length := by
    rw [List.length_append, List.length_reverse, Nat.add_comm]
  rw [← hlength]
  refine next?_of_events h.complaint hreplay ?_ ?_
  · rw [h.seen, hlength]
  · rw [h.store, events_edits es hs, ← h.sent, List.reverse_append, List.append_assoc]

theorem Stands.next?_replay (h : Stands order s es replayed passed unread live f) {x : α}
    {xs : List α} (hreplay : f.watch.replay = x :: xs) :
    f.watch.next? f.store = some (.ok (.added x), { f.watch with replay := xs }) := by
  unfold Watch.next?
  simp only [h.complaint, hreplay]

theorem Stands.next?_eq_none (hs : s.Keyed) (h : Stands order s es replayed passed unread live f) :
    f.watch.next? f.store = none ↔ f.watch.replay = [] ∧ unread = [] := by
  cases hreplay : f.watch.replay with
  | cons x xs =>
    rw [h.next?_replay hreplay]
    exact iff_of_false nofun (fun h => nomatch h.1)
  | nil =>
    rw [h.next? hs hreplay]
    constructor
    · intro hnone
      split at hnone
      · cases hnone
      · exact ⟨rfl, List.head?_eq_none_iff.mp (Option.map_eq_none_iff.mp hnone)⟩
    · rintro ⟨-, rfl⟩
      rfl

/-- A watch passes some of what is unread, and tells one thing of it. -/
theorem Stands.pass (h : Stands order s es replayed passed unread live f)
    (hreplay : f.watch.replay = [])
    {gone rest : List (WatchEvent α)} (hunread : unread = gone ++ rest)
    {reply : Except StoreError (WatchEvent α)}
    (hdelivered : Delivered (passed ++ gone) rest (live ++ [reply])) :
    Stands order s es replayed (passed ++ gone) rest (live ++ [reply]) { f with
      watch := f.watch.movedTo ((Watched.events (α := α) s).length + passed.length + gone.length)
      told := f.told ++ [reply] } where
  store := h.store
  complaint := h.complaint
  told := by rw [h.told, List.append_assoc]
  replay := h.replay
  first hne := absurd hreplay hne
  seen := by
    rw [List.length_append, ← Nat.add_assoc]
    rfl
  sent := by rw [← h.sent, hunread, List.append_assoc]
  delivered := hdelivered

/-- A reading goes on with the replay, or tells the oldest change that is unread, or tells how many
are lost. -/
theorem Stands.read (hs : s.Keyed) (h : Stands order s es replayed passed unread live f) :
    ∃ replayed passed unread live,
      Stands order s es replayed passed unread live (f.step .read) := by
  cases hreplay : f.watch.replay with
  | cons x xs =>
    obtain ⟨rfl, rfl⟩ := h.first (by rw [hreplay]; exact nofun)
    refine ⟨replayed ++ [x], [], unread, [], ?_⟩
    rw [step, h.next?_replay hreplay]
    refine ⟨h.store, h.complaint, ?_, ?_, fun _ => ⟨rfl, rfl⟩, h.seen, h.sent, h.delivered⟩
    · simp [h.told]
    · rw [← h.replay, hreplay, List.append_assoc]
      rfl
  | nil =>
    have hnext := h.next? hs hreplay
    rw [step]
    by_cases hbehind : watchCapacity < unread.length
    · have hsplit : unread = unread.take (unread.length - watchCapacity) ++
          unread.drop (unread.length - watchCapacity) := (List.take_append_drop _ _).symm
      generalize hlost : unread.take (unread.length - watchCapacity) = lost at hsplit
      generalize hkept : unread.drop (unread.length - watchCapacity) = kept at hsplit
      have hlength : lost.length = unread.length - watchCapacity := by
        rw [← hlost, List.length_take]
        omega
      have hdelivered : Delivered (passed ++ lost) kept
          (live ++ [.error (.watch s!"watch fell behind by {lost.length} events")]) := by
        refine .lost (hsplit ▸ h.delivered) ?_ ?_
        · rintro rfl
          rw [List.length_nil] at hlength
          omega
        · rw [← hkept, List.length_drop]
          omega
      rw [hnext, if_pos hbehind, ← hlength]
      exact ⟨_, _, _, _, h.pass hreplay hsplit hdelivered⟩
    · rw [hnext, if_neg hbehind]
      cases hunread : unread with
      | nil => exact ⟨_, _, _, _, hunread ▸ h⟩
      | cons e rest =>
        have hkept : (e :: rest).length ≤ watchCapacity := hunread ▸ Nat.le_of_not_lt hbehind
        exact ⟨_, _, _, _, h.pass hreplay (hunread.trans (List.singleton_append ..).symm)
          ((hunread ▸ h.delivered).told hkept)⟩

/-- **Wherever a watch stands.** -/
theorem stands_run (order : List α → List α) (hs : s.Keyed)
    (hregistered : Watched.isRegistered α s = true) (moves : List WatchMove) :
    ∃ replayed passed unread live,
      Stands order s (moves.filterMap WatchMove.edit?) replayed passed unread live
        ((start α s order).run moves) := by
  induction moves using List.reverseRecOn with
  | nil => exact ⟨_, _, _, _, stands_start hregistered⟩
  | append_singleton moves move ih =>
    obtain ⟨replayed, passed, unread, live, h⟩ := ih
    rw [run, List.foldl_append, List.filterMap_append]
    cases move with
    | edit e => exact ⟨_, _, _, _, h.edit e⟩
    | read =>
      rw [show [WatchMove.read].filterMap WatchMove.edit? = [] from rfl, List.append_nil]
      exact h.read hs

omit [WatchedPlaced α] [Followed α] in
theorem viewOf_told (replayed : List α) (passed : List (WatchEvent α)) :
    viewOf (replayed.map (fun x => .ok (.added x)) ++ passed.map .ok) =
      passed.foldl WatchEvent.apply ((replayed.map WatchEvent.added).foldl WatchEvent.apply ∅) := by
  rw [viewOf, List.filterMap_append, List.filterMap_map, List.filterMap_map, List.foldl_append]
  have hreplayed : replayed.filterMap (Except.toOption ∘ fun x =>
      (.ok (.added x) : Except StoreError (WatchEvent α))) = replayed.map .added := by
    rw [← List.filterMap_eq_map]
    rfl
  have hpassed : passed.filterMap (Except.toOption ∘
      (.ok : WatchEvent α → Except StoreError (WatchEvent α))) = passed := List.filterMap_some
  rw [hreplayed, hpassed]

/-- What has been told when all has been told, and nothing has been lost. -/
theorem Stands.viewOf_eq (horder : ∀ xs, (order xs).Perm xs) (hs : s.Keyed)
    (h : Stands order s es replayed passed unread live f)
    (hnone : f.watch.next? f.store = none) (herror : ∀ e, .error e ∉ f.told) :
    viewOf f.told = (s.announcements α es).foldl WatchEvent.apply (Stored.objects s) := by
  obtain ⟨hreplay, rfl⟩ := (h.next?_eq_none hs).mp hnone
  have hlive : live = passed.map .ok := by
    refine h.delivered.told_eq fun e he => herror e ?_
    rw [h.told]
    exact List.mem_append_right _ he
  have hvalues := h.replay
  rw [hreplay, List.append_nil] at hvalues
  have hperm : replayed.Perm (Stored.objects s).values := hvalues ▸ horder _
  rw [h.told, hlive, viewOf_told, foldl_apply_perm hperm (fun _ _ => hs.hasKey), ← h.sent,
    List.append_nil]

end Stands

end Follower

/-! ## Any watch -/

section Any

open Store

/-- An object without its version. -/
def unversioned {α : Type} [Stored α] (x : α) : α :=
  Stored.withMetadata x { Stored.metadata x with resourceVersion := none }

theorem unversioned_withVersion {α : Type} [Watched α] [WatchedPlaced α] [Followed α] (x : α)
    (version : Nat) : unversioned (withVersion x version) = unversioned x := by
  rw [unversioned, withVersion, Placed.metadata_withMetadata,
    Followed.withMetadata_withMetadata, unversioned]

/-- **A watch shows the store.** Whenever a watch is opened, and whatever happens afterwards, it
tells the objects that it has found, in any order, and then what is announced by the changes that
succeed, each once and in their order, as long as it is not too far behind. If it has told
everything, and no error, the objects that it has told of are those of the store, up to their
versions; and up to nothing, if no ordered conflict has been met. -/
theorem watch_shows_store {α : Type} [Watched α] [WatchedPlaced α] [Followed α]
    {order : List α → List α} (horder : ∀ xs, (order xs).Perm xs) (es : List StoreEdit)
    (moves : List WatchMove)
    (hregistered : Watched.isRegistered α (({} : Store).edits es) = true) :
    let s := ({} : Store).edits es
    let changes := moves.filterMap WatchMove.edit?
    let f := (Follower.start α s order).run moves
    f.store = s.edits changes ∧
    (∃ replayed passed unread live,
      f.told = replayed.map (fun x => .ok (.added x)) ++ live ∧
      replayed ++ f.watch.replay = order (Stored.objects s).values ∧
      (f.watch.replay ≠ [] → live = []) ∧
      passed ++ unread = s.announcements α changes ∧
      Delivered passed unread live ∧
      (f.watch.next? f.store = none ↔ f.watch.replay = [] ∧ unread = [])) ∧
    (∀ e error, f.store.outcome e = .error error → f.store.announced? α e = none) ∧
    (f.watch.next? f.store = none → (∀ e, .error e ∉ f.told) →
      (∀ key, ((viewOf f.told).get? key).map unversioned =
        ((Stored.objects (α := α) f.store).get? key).map unversioned) ∧
      (s.conflictsMet α changes = 0 → viewOf f.told = Stored.objects f.store)) := by
  intro s changes f
  have hs : s.Keyed := Store.Reachable.keyed ⟨es, rfl⟩
  obtain ⟨replayed, passed, unread, live, h⟩ := Follower.stands_run order hs hregistered moves
  refine ⟨h.store, ⟨replayed, passed, unread, live, h.told, h.replay, fun hne => (h.first hne).2,
    h.sent, h.delivered, h.next?_eq_none hs⟩, fun e error => announced?_of_error,
    fun hnone herror => ?_⟩
  rw [h.viewOf_eq horder hs hnone herror, h.store]
  constructor
  · apply shows_edits changes hs (fun _ => rfl)
    intro _ x version
    exact unversioned_withVersion x version
  · intro hzero
    apply SortedMap.eq_of_get?
    intro key
    have hshows := shows_edits (f := id) changes hs (fun _ => rfl)
      (fun hne => absurd hzero hne) key
    rw [Option.map_id] at hshows
    exact hshows

/-- A pool that has a status to be written. -/
def watchedPool : AddressPool where
  metadata := { name := some "gold", ns := some "a" }
  spec := { protocol := "layer2" }
  status := some {}

/-- The pool and another one. -/
def watchedPools : List StoreEdit :=
  [.addPool watchedPool,
    .addPool { watchedPool with metadata := { name := some "silver", ns := some "a" } }]

/-- The pool is deleted and comes again, and its status is written after a number of conflicts have
been ordered. Meanwhile all that is told is read. -/
def watchedMoves (conflicts : Nat) : List WatchMove :=
  [.edit (.call (.deletePool ⟨"a", "gold"⟩)), .edit (.addPool watchedPool), .read,
    .edit (.orderStatusConflicts conflicts), .edit (.call (.patchPoolStatus watchedPool)),
    .read, .read, .read, .read]

/-- A watch is opened when the pools are there, and tells of them in the reverse of their order. It
shows the pool in its last version, unless a conflict has given it another one. -/
theorem watch_shows_store_contested :
    let f (conflicts : Nat) :=
      (Follower.start AddressPool (({} : Store).edits watchedPools) List.reverse).run
        (watchedMoves conflicts)
    viewOf (f 0).told = (f 0).store.pools ∧ viewOf (f 1).told ≠ (f 1).store.pools ∧
      ∀ key, ((viewOf (f 1).told).get? key).map unversioned =
        ((f 1).store.pools.get? key).map unversioned := by
  intro f
  have hquiet (conflicts : Nat) (h : (f conflicts).told.all (·.isOk) = true) (e : StoreError) :
      .error e ∉ (f conflicts).told := by
    intro he
    cases List.all_eq_true.mp h _ he
  obtain ⟨-, -, -, hcalm⟩ :=
    watch_shows_store (α := AddressPool) List.reverse_perm watchedPools (watchedMoves 0) rfl
  obtain ⟨-, -, -, hcontested⟩ :=
    watch_shows_store (α := AddressPool) List.reverse_perm watchedPools (watchedMoves 1) rfl
  refine ⟨?_, by decide +kernel, ?_⟩
  · exact (hcalm (by decide +kernel) (hquiet 0 (by decide +kernel))).2 (by decide +kernel)
  · exact (hcontested (by decide +kernel) (hquiet 1 (by decide +kernel))).1

end Any

end PoolOperator
