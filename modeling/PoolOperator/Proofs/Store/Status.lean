import PoolOperator.Proofs.Store.ConfigMap

/-!
# Writing a status

A write of a status is refused without a trace, or overtaken by a conflict that has been ordered, or
it puts the stored object back with another status and a new version. Nothing else happens.
-/

namespace PoolOperator.Store

variable {α : Type} [Watched α] {s : Store} {key : ObjectKey} {x stored : α}

/-- An object as it is stored once the status of another one has been written to it. -/
def patched (s : Store) (stored x : α) : α :=
  withVersion (Watched.withStatus stored (Watched.status x)) s.nextVersion

/-- Counts a write of a status. -/
def countStatusWrite (s : Store) : Store := { s with statusWrites := s.statusWrites + 1 }

/-- What a write of a status can come to. -/
inductive StatusWrite (s : Store) (key : ObjectKey) (x : α) :
    Except StoreError α → Store → Prop where
  | refused (e : StoreError) : StatusWrite s key x (.error e) s
  | overtaken (message : String) (hordered : 0 < s.statusConflicts) :
      StatusWrite s key x (.error (.conflict message))
        ({ s with statusConflicts := s.statusConflicts - 1 }.bump α key)
  | written {stored : α} (hstored : (Stored.objects s).get? key = some stored)
      (hversion : (Stored.metadata x).resourceVersion = none ∨
        (Stored.metadata x).resourceVersion = (Stored.metadata stored).resourceVersion) :
      StatusWrite s key x (.ok (s.patched stored x))
        ((s.put key (s.patched stored x)).record
          (.modified (s.patched stored x))).countStatusWrite

theorem statusWrite_patchStatus (hkey : (Stored.metadata x).HasKey key) :
    StatusWrite s key x (s.patchStatus x).1 (s.patchStatus x).2 := by
  have hkey' : keyOf x = .ok key := keyOf_eq_ok.mpr hkey
  unfold patchStatus
  cases checkKind α s with
  | error e => exact .refused e
  | ok _ =>
    show StatusWrite s key x (guarded s (keyOf x) _).1 (guarded s (keyOf x) _).2
    rw [hkey']
    show StatusWrite s key x (guarded s (s.find key) _).1 (guarded s (s.find key) _).2
    cases hfind : s.find (α := α) key with
    | error e => exact .refused e
    | ok stored =>
      by_cases hordered : 0 < s.statusConflicts
      · simp only [guarded, if_pos hordered]
        exact .overtaken _ hordered
      · simp only [guarded, if_neg hordered]
        cases hcheck : checkVersion key stored (Stored.metadata x).resourceVersion with
        | error e => exact .refused e
        | ok _ => exact .written (find_eq_ok.mp hfind) (checkVersion_eq_ok.mp hcheck)

/-- A status is written in the version that is stored, whatever the kind of the object. -/
theorem patchStatus_of_stored (hregistered : Watched.isRegistered α s = true)
    (hconflicts : s.statusConflicts = 0) (hkey : (Stored.metadata x).HasKey key)
    (hstored : (Stored.objects s).get? key = some stored)
    (hversion : (Stored.metadata x).resourceVersion = (Stored.metadata stored).resourceVersion) :
    s.patchStatus x = (.ok (s.patched stored x),
      ((s.put key (s.patched stored x)).record
        (.modified (s.patched stored x))).countStatusWrite) := by
  have hkind : checkKind α s = .ok () := if_pos hregistered
  have hkey' : keyOf x = .ok key := keyOf_eq_ok.mpr hkey
  have hfind : s.find (α := α) key = .ok stored := find_eq_ok.mpr hstored
  have hcheck : checkVersion key stored (Stored.metadata stored).resourceVersion = .ok () :=
    checkVersion_self key stored
  have hordered : ¬0 < s.statusConflicts := by omega
  simp only [patchStatus, guarded, hkind, hkey', hfind, if_neg hordered, hversion, hcheck]
  rfl

/-- A status that is written is found at its place, and all other places are as before. -/
theorem at?_written [WatchedPlaced α] (s : Store) (key : ObjectKey) (x : α) (e : WatchEvent α)
    (place : Place) : ((s.put key x).record e).countStatusWrite.at? place =
      if place = placeOf α key then some (Placed.ofStored x) else s.at? place := by
  show ((s.put key x).record e).at? place = _
  rw [WatchedPlaced.at?_record, at?_put]

end PoolOperator.Store
