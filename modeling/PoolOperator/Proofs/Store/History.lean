import PoolOperator.Proofs.Store.Status
import PoolOperator.Proofs.Store.Version

/-!
# Objects over time

What versions and uids say about two moments of a run, and what a write that is based on a version
can rely on.
-/

namespace PoolOperator

/-- Whether an object has a version, as a number. -/
def AnyObject.HasVersion (x : AnyObject) (v : Nat) : Prop :=
  x.metadata.resourceVersion = some (toString v)

/-- Whether a call replaces, patches or deletes what is at a place, in a given version only. -/
inductive StoreCall.IsBasedOn (version : String) : StoreCall → Place → Prop where
  | replacePool {pool : AddressPool} {key : ObjectKey} (hkey : pool.metadata.HasKey key)
      (hversion : pool.metadata.resourceVersion = some version) :
      IsBasedOn version (.replacePool pool) ⟨.pools, key⟩
  | patchPoolStatus {pool : AddressPool} {key : ObjectKey} (hkey : pool.metadata.HasKey key)
      (hversion : pool.metadata.resourceVersion = some version) :
      IsBasedOn version (.patchPoolStatus pool) ⟨.pools, key⟩
  | replaceConfigMap {configMap : ConfigMap} {key : ObjectKey}
      (hkey : configMap.metadata.HasKey key)
      (hversion : configMap.metadata.resourceVersion = some version) :
      IsBasedOn version (.replaceConfigMap configMap) ⟨.configMaps, key⟩
  | deleteConfigMap (key : ObjectKey) :
      IsBasedOn version (.deleteConfigMap key (some version)) ⟨.configMaps, key⟩
  | patchInstanceStatus {object : Instance} {key : ObjectKey} (hkey : object.metadata.HasKey key)
      (hversion : object.metadata.resourceVersion = some version) :
      IsBasedOn version (.patchInstanceStatus object) ⟨.instances, key⟩

namespace Store

variable {s s' : Store} {place place' : Place} {x y : AnyObject} {es fs gs : List StoreEdit}

/-- Whether something holds of a store, and goes on to hold after each of some changes. -/
def Throughout (s : Store) (fs : List StoreEdit) (P : Store → Prop) : Prop :=
  ∀ gs, gs <+: fs → P (s.edits gs)

/-! ## Two moments -/

theorem changes_edits_between (hs : s.Keyed) (h : gs <+: fs) : Changes (s.edits gs) (s.edits fs) := by
  obtain ⟨rest, rfl⟩ := h
  rw [edits_append]
  exact changes_edits rest (hs.changes (changes_edits gs hs))

/-- What is found with a mark that was found before has been at its place since, and has kept what
it keeps together with the mark. -/
theorem keeps_throughout {m : Mark} (hm : m.IsGiven) (hs : s.Reachable)
    (hx : s.at? place = some x) (hy : (s.edits fs).at? place' = some y)
    (hmark : m.read x.metadata = m.read y.metadata) :
    place = place' ∧ m.Keeps x y ∧
      s.Throughout fs fun t => ∃ z, t.at? place = some z ∧ m.Keeps x z := by
  have hdistinct := hs.distinct hm
  have hsince (gs : List StoreEdit) : Since m s (s.edits gs) := (changes_edits gs hs.keyed).since hm
  obtain ⟨hplace, hkeeps⟩ := hdistinct.keeps (hsince fs) hx hy hmark
  refine ⟨hplace, hkeeps, fun gs hgs => ?_⟩
  exact hdistinct.keeps_between (hsince gs) ((changes_edits_between hs.keyed hgs).since hm) hx hy hmark

theorem eq_throughout (hs : s.Reachable) (hx : s.at? place = some x)
    (hy : (s.edits fs).at? place' = some y)
    (hversion : x.metadata.resourceVersion = y.metadata.resourceVersion) :
    place = place' ∧ x = y ∧ s.Throughout fs fun t => t.at? place = some x := by
  obtain ⟨hplace, heq, hbetween⟩ := keeps_throughout Mark.isGiven_version hs hx hy hversion
  refine ⟨hplace, heq, fun gs hgs => ?_⟩
  obtain ⟨z, hz, heq'⟩ := hbetween gs hgs
  have heq' : x = z := heq'
  rw [heq']
  exact hz

/-- What is not what it was has a greater version. -/
theorem version_lt (hs : s.Reachable) (hx : s.at? place = some x)
    (hy : (s.edits fs).at? place = some y) {v w : Nat} (hv : x.HasVersion v) (hw : y.HasVersion w)
    (hne : y ≠ x) : v < w := by
  have hsince := (changes_edits fs hs.keyed).since Mark.isGiven_version
  rcases hsince.object hy with ⟨x', hx', heq⟩ | ⟨n, hleast, _, hn⟩
  · have heq : x' = y := heq
    rw [hx', heq] at hx
    exact absurd (Option.some.inj hx) hne
  · have hless : v < s.nextVersion := (hs.distinct Mark.isGiven_version).lt hx hv
    have hnumber : w = n := toString_injective (Option.some.inj (hw.symm.trans hn))
    omega

/-! ## Writes that are based on a version -/

section Watched

variable {α : Type} [Watched α] {key : ObjectKey} {a b : α}

/-- What has been replaced was there, in the version that was given if one was. -/
theorem stored_of_replace (hkey : (Stored.metadata a).HasKey key)
    (h : s.replace a = (.ok b, s')) :
    ∃ stored : α, (Stored.objects s).get? key = some stored ∧
      ((Stored.metadata a).resourceVersion = none ∨
        (Stored.metadata a).resourceVersion = (Stored.metadata stored).resourceVersion) := by
  obtain ⟨_, -, h⟩ := of_guarded_eq_ok h
  rw [keyOf_eq_ok.mpr hkey] at h
  obtain ⟨stored, hfind, h⟩ := of_guarded_eq_ok (show guarded s (s.find key) _ = _ from h)
  obtain ⟨_, hcheck, -⟩ := of_guarded_eq_ok h
  exact ⟨stored, find_eq_ok.mp hfind, checkVersion_eq_ok.mp hcheck⟩

/-- The same of an object whose status has been written. -/
theorem stored_of_patchStatus (hkey : (Stored.metadata a).HasKey key)
    (h : s.patchStatus a = (.ok b, s')) :
    ∃ stored : α, (Stored.objects s).get? key = some stored ∧
      ((Stored.metadata a).resourceVersion = none ∨
        (Stored.metadata a).resourceVersion = (Stored.metadata stored).resourceVersion) := by
  have hwrite := statusWrite_patchStatus (s := s) hkey
  rw [h] at hwrite
  cases hwrite with
  | written hstored hversion => exact ⟨_, hstored, hversion⟩

end Watched

/-- A write that is based on a version finds an object in this version, if it succeeds. -/
theorem at?_of_isBasedOn {call : StoreCall} {version : String} (h : call.IsBasedOn version place)
    {reply : call.Reply} (hreply : (s.answer call).1 = .ok reply) :
    ∃ x, s.at? place = some x ∧ x.metadata.resourceVersion = some version := by
  have hanswer : s.answer call = (.ok reply, (s.answer call).2) := Prod.ext hreply rfl
  have hfound {α : Type} [Stored α] [Placed α] {key : ObjectKey} {given : Option String}
      (hgiven : given = some version)
      (hstored : ∃ stored : α, (Stored.objects s).get? key = some stored ∧
        (given = none ∨ given = (Stored.metadata stored).resourceVersion)) :
      ∃ x, s.at? (placeOf α key) = some x ∧ x.metadata.resourceVersion = some version := by
    obtain ⟨stored, hstored, hnone | hversion⟩ := hstored
    · rw [hgiven] at hnone
      cases hnone
    · refine ⟨Placed.ofStored stored, at?_eq_some.mpr hstored, ?_⟩
      rw [Placed.metadata_ofStored, ← hversion, hgiven]
  cases h with
  | replacePool hkey hversion => exact hfound hversion (stored_of_replace hkey hanswer)
  | patchPoolStatus hkey hversion => exact hfound hversion (stored_of_patchStatus hkey hanswer)
  | replaceConfigMap hkey hversion =>
    exact hfound hversion (stored_of_replaceConfigMap hkey hanswer)
  | deleteConfigMap key => exact hfound rfl (stored_of_deleteConfigMap hanswer)
  | patchInstanceStatus hkey hversion => exact hfound hversion (stored_of_patchStatus hkey hanswer)

/-- Writes remove nothing and leave uids as they are. -/
theorem Writes.uid (h : Writes s s') (hx : s.at? place = some x) :
    ∃ y, s'.at? place = some y ∧ y.metadata.uid = x.metadata.uid := by
  induction h with
  | refl => exact ⟨x, hx, rfl⟩
  | @tail t t' _ hwrite ih =>
    obtain ⟨y, hy, huid⟩ := ih
    cases hwrite with
    | noted hat hnext => exact ⟨y, by rw [hat, hy], huid⟩
    | @put place' z hput horigin =>
      by_cases heq : place = place'
      · subst heq
        cases horigin with
        | new hfree _ _ =>
          rw [hfree] at hy
          cases hy
        | stored hstored huid' _ =>
          rw [hstored] at hy
          cases hy
          exact ⟨z, by rw [hput.at?, if_pos rfl], huid'.trans huid⟩
      · exact ⟨y, by rw [hput.at?, if_neg heq, hy], huid⟩

/-! ## Any run -/

/-- **A version stands for one object, at all times.** Every object of a store is under its own key
and has a version that has been given, and no two have the same. From one moment to a later one, what
is at a place has got a greater version, or has not changed in between. What has the same version at
two moments is the same object, which has not changed in between; so a write that is based on a
version succeeds only if the object that had this version is still there, unchanged. What has the
same uid has not been deleted in between, and only what deletes an object takes its uid away. -/
theorem version_identifies (es fs : List StoreEdit) :
    let s := ({} : Store).edits es
    let s' := s.edits fs
    (∀ place x, s.at? place = some x → x.metadata.HasKey place.key ∧
      (∃ v, v < s.nextVersion ∧ x.HasVersion v) ∧ x.metadata.uid ≠ none) ∧
    (∀ place place' x y, s.at? place = some x → s.at? place' = some y → place ≠ place' →
      x.metadata.resourceVersion ≠ y.metadata.resourceVersion) ∧
    (∀ place x y v w, s.at? place = some x → s'.at? place = some y → x.HasVersion v →
      y.HasVersion w → v < w ∨ v = w ∧ s.Throughout fs fun t => t.at? place = some x) ∧
    (∀ place place' x y, s.at? place = some x → s'.at? place' = some y →
      x.metadata.resourceVersion = y.metadata.resourceVersion →
        place = place' ∧ x = y ∧ s.Throughout fs fun t => t.at? place = some x) ∧
    (∀ call version place place' x reply, call.IsBasedOn version place →
      s.at? place' = some x → x.metadata.resourceVersion = some version →
      (s'.answer call).1 = .ok reply →
        place' = place ∧ s'.at? place = some x ∧ s.Throughout fs fun t => t.at? place = some x) ∧
    (∀ place place' x y, s.at? place = some x → s'.at? place' = some y →
      x.metadata.uid = y.metadata.uid → place = place' ∧
        s.Throughout fs fun t => ∃ z, t.at? place = some z ∧ z.metadata.uid = x.metadata.uid) ∧
    ∀ call, ¬call.IsDelete → ∀ place x, s.at? place = some x →
      ∃ y, (s.answer call).2.at? place = some y ∧ y.metadata.uid = x.metadata.uid := by
  intro s s'
  have hs : s.Reachable := ⟨es, rfl⟩
  have hversions := hs.distinct Mark.isGiven_version
  refine ⟨?_, ?_, ?_, ?_, ?_, ?_, ?_⟩
  · intro place x hx
    obtain ⟨n, -, hn⟩ := (hs.distinct Mark.isGiven_uid).given hx
    refine ⟨keyed_iff.mp hs.keyed place x hx, hversions.given hx, ?_⟩
    rw [show x.metadata.uid = some (Mark.uid.text n) from hn]
    exact Option.some_ne_none _
  · intro place place' x y hx hy hne heq
    exact hne (hversions.place_eq hx hy heq)
  · intro place x y v w hx hy hv hw
    by_cases heq : y = x
    · rw [heq] at hy hw
      have hnumber : v = w := toString_injective (Option.some.inj (hv.symm.trans hw))
      exact .inr ⟨hnumber, (eq_throughout hs hx hy rfl).2.2⟩
    · exact .inl (version_lt hs hx hy hv hw heq)
  · intro place place' x y hx hy hversion
    exact eq_throughout hs hx hy hversion
  · intro call version place place' x reply hcall hx hversion hreply
    obtain ⟨y, hy, hversion'⟩ := at?_of_isBasedOn hcall hreply
    obtain ⟨rfl, rfl, hbetween⟩ := eq_throughout hs hx hy (hversion.trans hversion'.symm)
    exact ⟨rfl, hy, hbetween⟩
  · intro place place' x y hx hy huid
    obtain ⟨hplace, -, hbetween⟩ := keeps_throughout Mark.isGiven_uid hs hx hy huid
    refine ⟨hplace, fun gs hgs => ?_⟩
    obtain ⟨z, hz, hkeeps⟩ := hbetween gs hgs
    exact ⟨z, hz, Eq.symm hkeeps⟩
  · intro call hcall place x hx
    exact (writes_answer hs.keyed hcall).uid hx

/-- A config map that comes, is deleted, and is made anew with the same content. -/
def remade : ConfigMap where
  metadata := { name := some "config", ns := some "a" }

/-- The deletion of this config map, in a version or in any. -/
def unmake (version : Option String) : StoreCall := .deleteConfigMap ⟨"a", "config"⟩ version

/-- Who has read the first of the two config maps cannot delete the second one. -/
theorem version_identifies_remade :
    let s := ({} : Store).edits [.addConfigMap remade]
    let s' := s.edits [.call (unmake none), .addConfigMap remade]
    (∃ x, s.at? ⟨.configMaps, "a", "config"⟩ = some x ∧ x.HasVersion 1) ∧
      ∀ reply, (s'.answer (unmake (some "1"))).1 ≠ .ok reply := by
  intro s s'
  obtain ⟨x, hx, hversion⟩ : ∃ x, s.at? ⟨.configMaps, "a", "config"⟩ = some x ∧
      x.metadata.resourceVersion = some "1" := ⟨_, rfl, rfl⟩
  refine ⟨⟨x, hx, hversion⟩, ?_⟩
  intro reply hreply
  obtain ⟨-, -, -, -, hbased, -, -⟩ := version_identifies [.addConfigMap remade]
    [.call (unmake none), .addConfigMap remade]
  obtain ⟨-, -, hbetween⟩ := hbased (unmake (some "1")) "1" _ _ x reply (.deleteConfigMap _) hx
    hversion hreply
  -- the place has been empty in between
  have hdeleted := hbetween [.call (unmake none)] ⟨_, rfl⟩
  have hnone : (s.edit (.call (unmake none))).at? ⟨.configMaps, "a", "config"⟩ = none := rfl
  cases hnone.symm.trans hdeleted

end Store

end PoolOperator
