import PoolOperator.Api.Request
import PoolOperator.Proofs.Object.Wire
import PoolOperator.Proofs.Store.Atomic

/-!
# Statuses over an API

A status is sent as a merge patch, which an API server applies to the object as it is written in
JSON. What it has then reads as the object with the status that was sent and with nothing else
changed, which is what a store in memory keeps of the same write, up to the new version.
-/

namespace PoolOperator

open Json

/-! ## The patch of a status -/

/-- Conditions that are sent take the place of all that were there. -/
theorem mergePatch_status (old : Option Status) (new : Status) :
    mergePatch ((old.map Status.toJson).getD .null) new.toJson = new.toJson := by
  cases old with
  | none => simp [Status.toJson, mergePatch, mergeMembers, setMember]
  | some old => simp [Status.toJson, mergePatch, mergeMembers, setMember, eraseMember]

/-- The version of an object changes nothing when it is sent back. -/
theorem mergePatch_version {md : ObjectMeta} {version : String}
    (h : md.resourceVersion = some version) :
    mergePatch md.toJson (.obj [("resourceVersion", .str version)]) = md.toJson := by
  have hversion : md.resourceVersion.map Json.str = some (.str version) := by
    rw [h]
    rfl
  have hmerge : mergePatch (.str version) (.str version) = .str version := by
    rw [mergePatch]
    intro _ h
    cases h
  rw [ObjectMeta.toJson, hversion, ofMembers_eq, mergePatch_obj]
  congr 1
  have hsent : Json.str version ≠ .null := by
    intro h
    cases h
  refine mergeMembers_same ?_ ?_ hmerge hsent
  · exact (names_present _).nodup (by simp)
  · exact member?_present (by simp) (by simp)

section Root

variable (apiVersion kind : String) (md : ObjectMeta) (spec : Json)

/-- The member for a status stands at the end of an object, before and after a patch. -/
theorem mergeMembers_status (old new : Option Status) (changes : List (String × Json)) :
    mergeMembers (rootMembers apiVersion kind md.toJson spec ++ statusMember old)
        (("status", (new.map Status.toJson).getD .null) :: changes) =
      mergeMembers (rootMembers apiVersion kind md.toJson spec ++ statusMember new) changes := by
  have hfresh : ∀ m ∈ rootMembers apiVersion kind md.toJson spec, m.1 ≠ "status" := by
    simp [rootMembers]
  cases new with
  | none =>
    rw [Option.map_none, Option.getD_none, mergeMembers_null]
    cases old with
    | none =>
      show mergeMembers (eraseMember _ (_ ++ [])) _ = mergeMembers (_ ++ []) _
      rw [List.append_nil, eraseMember_fresh hfresh]
    | some old =>
      show mergeMembers (eraseMember _ (_ ++ [_])) _ = mergeMembers (_ ++ []) _
      rw [eraseMember_last hfresh, List.append_nil]
  | some new =>
    have hmember : member? "status" (rootMembers apiVersion kind md.toJson spec ++
        statusMember old) = old.map Status.toJson := by
      cases old <;> rfl
    have hsent : new.toJson ≠ .null := nofun
    rw [Option.map_some, Option.getD_some, mergeMembers_cons hsent, hmember, mergePatch_status]
    cases old with
    | none =>
      show mergeMembers (setMember _ _ (_ ++ [])) _ = _
      rw [List.append_nil, setMember_fresh hfresh]
      rfl
    | some old =>
      show mergeMembers (setMember _ _ (_ ++ [_])) _ = _
      rw [setMember_last hfresh]
      rfl

/-- The metadata of an object stays when its version is sent back. -/
theorem mergeMembers_metadata {version : String} (h : md.resourceVersion = some version)
    (status : Option Status) :
    mergeMembers (rootMembers apiVersion kind md.toJson spec ++ statusMember status)
        [("metadata", .obj [("resourceVersion", .str version)])] =
      rootMembers apiVersion kind md.toJson spec ++ statusMember status := by
  refine mergeMembers_same ?_ ?_ (mergePatch_version h) nofun
  · cases status <;> simp [rootMembers, statusMember]
  · cases status <;> rfl

/-- An object to which a status has been sent. -/
theorem mergePatch_rootJson (old new : Option Status) :
    mergePatch (rootJson apiVersion kind md spec old) (Api.statusPatch md.resourceVersion new) =
      rootJson apiVersion kind md spec new := by
  rw [rootJson, Api.statusPatch, ofMembers_eq, mergePatch_obj, rootJson]
  congr 1
  refine (mergeMembers_status apiVersion kind md spec old new _).trans ?_
  cases hversion : md.resourceVersion with
  | none => exact mergeMembers_nil _
  | some version => exact mergeMembers_metadata apiVersion kind md spec hversion new

end Root

theorem AddressPool.mergePatch_toJson (p : AddressPool) (status : Option Status) :
    mergePatch p.toJson (Api.statusPatch p.metadata.resourceVersion status) =
      toJson { p with status := status } := by
  rw [toJson_eq, toJson_eq]
  exact mergePatch_rootJson _ _ _ _ _ _

theorem Instance.mergePatch_toJson (i : Instance) (status : Option Status) :
    mergePatch i.toJson (Api.statusPatch i.metadata.resourceVersion status) =
      toJson { i with status := status } := by
  rw [toJson_eq, toJson_eq]
  exact mergePatch_rootJson _ _ _ _ _ _

/-! ## The request -/

/-- A status is sent to where the object is, and nothing but the patch is sent. -/
theorem Api.of_patching_eq_ok {c : Api.Collection} {watchNs : String} {md : ObjectMeta}
    {status : Option Status} {r : Api.Request} (h : patching c watchNs md status = .ok r) :
    r.method = .patch ∧ r.contentType = some "application/merge-patch+json" ∧
      r.body = some (statusPatch md.resourceVersion status) := by
  unfold patching at h
  cases hkey : keyOf c watchNs md with
  | error e =>
    rw [hkey] at h
    cases h
  | ok key =>
    rw [hkey] at h
    change (if key.name.isEmpty then .error unanswered else request .patch _ _ _) = .ok r at h
    split at h
    · cases h
    · unfold request at h
      split at h
      · cases h
        exact ⟨rfl, rfl, rfl⟩
      · cases h

/-! ## The write in memory -/

namespace Store

variable {α : Type} [Watched α] [WatchedPlaced α] {s : Store} {key : ObjectKey} {o p : α}

/-- The object that is stored has the status that was written, and all else that it had. -/
theorem get?_of_patchStatus (hs : s.Reachable)
    (hregistered : Watched.isRegistered α s = true) (hconflicts : s.statusConflicts = 0)
    (hstored : (Stored.objects s).get? key = some o)
    (hname : (Stored.metadata p).name = (Stored.metadata o).name)
    (hns : (Stored.metadata p).ns = (Stored.metadata o).ns)
    (hversion : (Stored.metadata p).resourceVersion = (Stored.metadata o).resourceVersion) :
    (s.patchStatus p).1 = .ok (s.patched o p) ∧
      (Stored.objects (s.patchStatus p).2).get? key = some (s.patched o p) := by
  obtain ⟨hns', hname'⟩ := hs.keyed.hasKey hstored
  have hkey : (Stored.metadata p).HasKey key := ⟨hns.trans hns', hname.trans hname'⟩
  rw [patchStatus_of_stored hregistered hconflicts hkey hstored hversion]
  refine ⟨rfl, ?_⟩
  rw [← at?_eq_some, at?_written, if_pos rfl]

end Store

/-- Whether it makes no difference to which of the two stores a status of an object is written. -/
structure StatusWritesAgree (α : Type) [Watched α] [Wire α] (write : α → StoreCall) : Prop where
  /-- What an object is written as is read as this object. -/
  reads_back (o : α) : Wire.ofJson? (Wire.toJson o) = some o
  /-- What is sent is the patch, to be merged. -/
  sends (watchNs : String) (p : α) (r : Api.Request)
    (h : Api.requestFor watchNs (write p) = .ok r) :
    r.method = .patch ∧ r.contentType = some "application/merge-patch+json" ∧
      r.body = some (Api.statusPatch (Stored.metadata p).resourceVersion (Watched.status p))
  /-- An object that is patched is the same but for the status that was sent. -/
  patches (o p : α)
    (hversion : (Stored.metadata p).resourceVersion = (Stored.metadata o).resourceVersion) :
    Wire.ofJson? ((Wire.toJson o).mergePatch
        (Api.statusPatch (Stored.metadata p).resourceVersion (Watched.status p))) =
      some (Watched.withStatus o (Watched.status p))
  /-- The same object is stored in memory, with a version of its own. -/
  stores (s : Store) (key : ObjectKey) (o p : α) (hs : s.Reachable)
    (hregistered : Watched.isRegistered α s = true) (hconflicts : s.statusConflicts = 0)
    (hstored : (Stored.objects s).get? key = some o)
    (hname : (Stored.metadata p).name = (Stored.metadata o).name)
    (hns : (Stored.metadata p).ns = (Stored.metadata o).ns)
    (hversion : (Stored.metadata p).resourceVersion = (Stored.metadata o).resourceVersion) :
    s.outcome (.call (write p)) = .ok () ∧
      (Stored.objects (s.edit (.call (write p)))).get? key =
        some (Store.withVersion (Watched.withStatus o (Watched.status p)) s.nextVersion)

/-- What a kind has to do with patches, for its status writes to agree. -/
theorem statusWritesAgree_of {α : Type} [Watched α] [Store.WatchedPlaced α] [Wire α]
    {write : α → StoreCall} {c : Api.Collection}
    (hreads : ∀ o : α, Wire.ofJson? (Wire.toJson o) = some o)
    (hsends : ∀ watchNs p, Api.requestFor watchNs (write p) =
      Api.patching c watchNs (Stored.metadata p) (Watched.status p))
    (hpatches : ∀ (o : α) (status : Option Status), (Wire.toJson o).mergePatch
      (Api.statusPatch (Stored.metadata o).resourceVersion status) =
        Wire.toJson (Watched.withStatus o status))
    (houtcome : ∀ (s : Store) p,
      s.outcome (.call (write p)) = (s.patchStatus p).1.map fun _ => ())
    (hedit : ∀ (s : Store) p, s.edit (.call (write p)) = (s.patchStatus p).2) :
    StatusWritesAgree α write where
  reads_back := hreads
  sends watchNs p r h := by
    rw [hsends] at h
    exact Api.of_patching_eq_ok h
  patches o p hversion := by rw [hversion, hpatches, hreads]
  stores s key o p hs hregistered hconflicts hstored hname hns hversion := by
    obtain ⟨hresult, hleft⟩ :=
      Store.get?_of_patchStatus hs hregistered hconflicts hstored hname hns hversion
    rw [houtcome, hedit, hresult]
    exact ⟨rfl, hleft⟩

/-- **Both stores write the same status.** The patch that is sent for an object in its stored
version, merged into what the stored object is written as, reads as the stored object with the
status that was sent, or with none if none was sent. A store in memory keeps just this object of the
same write, in a new version. -/
theorem status_writes_agree :
    StatusWritesAgree AddressPool .patchPoolStatus ∧
      StatusWritesAgree Instance .patchInstanceStatus := by
  constructor
  · exact statusWritesAgree_of AddressPool.readsBack.read_write (fun _ _ => rfl)
      AddressPool.mergePatch_toJson (fun _ _ => rfl) fun _ _ => rfl
  · exact statusWritesAgree_of Instance.readsBack.read_write (fun _ _ => rfl)
      Instance.mergePatch_toJson (fun _ _ => rfl) fun _ _ => rfl

/-- A pool with a status that is stored, and the same pool with other labels, another specification
and no status, in the version in which it is stored. -/
def judgedPool : AddressPool where
  metadata := { name := some "gold", ns := some "a" }
  spec := { protocol := "layer2", addresses := ["10.0.0.0/24"] }
  status := some { conditions := [⟨"Merged", .true, "", "", some "2024-01-01T00:00:00Z"⟩] }

@[inherit_doc judgedPool] def unjudgedPool : AddressPool where
  metadata := {
    name := some "gold"
    ns := some "a"
    labels := some (.ofList [("tier", "one")])
    resourceVersion := some "1" }
  spec := { protocol := "bgp" }

/-- The status is gone in both stores. Labels and specification are as they were. -/
theorem status_writes_agree_gone :
    let s := ({} : Store).edits [.addPool judgedPool]
    let o := ({} : Store).asCreated judgedPool
    ∃ r, Api.requestFor "a" (.patchPoolStatus unjudgedPool) = .ok r ∧
      r.body = some (Api.statusPatch (some "1") none) ∧
      AddressPool.ofJson? (o.toJson.mergePatch (Api.statusPatch (some "1") none)) =
        some { o with status := none } ∧
      (s.edit (.call (.patchPoolStatus unjudgedPool))).pools.get? ⟨"a", "gold"⟩ =
        some (Store.withVersion { o with status := none } 2) := by
  intro s o
  obtain ⟨-, hsends, hpatches, hstores⟩ := status_writes_agree.1
  have hstored : s.pools.get? ⟨"a", "gold"⟩ = some o := rfl
  have hversion : unjudgedPool.metadata.resourceVersion = o.metadata.resourceVersion := by
    decide +kernel
  have hsent : (Api.requestFor "a" (.patchPoolStatus unjudgedPool)).isOk = true := by
    decide +kernel
  cases hr : Api.requestFor "a" (.patchPoolStatus unjudgedPool) with
  | error e =>
    rw [hr] at hsent
    cases hsent
  | ok r =>
    refine ⟨r, rfl, (hsends "a" unjudgedPool r hr).2.2, hpatches o unjudgedPool hversion, ?_⟩
    exact (hstores s ⟨"a", "gold"⟩ o unjudgedPool ⟨_, rfl⟩ rfl rfl hstored rfl rfl hversion).2

end PoolOperator
