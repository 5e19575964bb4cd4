import PoolOperator.Store.Call
import PoolOperator.Store.Write

/-!
# How a store answers calls

One answer per call, and the changes that others may make to a store between two calls.
-/

namespace PoolOperator

/-- The answer of a store to a call, and the store afterwards. -/
def Store.answer (s : Store) : (call : StoreCall) → Except StoreError call.Reply × Store
  | .listPools ns => (s.list AddressPool ns, s)
  | .getPool key => (s.get AddressPool key, s)
  | .createPool pool => s.create pool
  | .replacePool pool => s.replace pool
  | .deletePool key => s.delete AddressPool key
  | .patchPoolStatus pool => s.patchStatus pool
  | .getConfigMap key => (.ok (s.configMaps.get? key), s)
  | .createConfigMap configMap => s.createConfigMap configMap
  | .replaceConfigMap configMap => s.replaceConfigMap configMap
  | .deleteConfigMap key version => s.deleteConfigMap key version
  | .listInstances ns => (s.list Instance ns, s)
  | .getInstance key => (s.get Instance key, s)
  | .createInstance object => s.create object
  | .deleteInstance key => s.delete Instance key
  | .patchInstanceStatus object => s.patchStatus object

/-- A change of a store from outside. -/
inductive StoreEdit where
  | call (call : StoreCall)
  | addPool (pool : AddressPool)
  | addConfigMap (configMap : ConfigMap)
  | addInstance (object : Instance)
  /-- Orders a number of conflicts for writes of config maps. -/
  | orderConfigMapConflicts (count : Nat)
  /-- Orders a number of conflicts for writes of a status. -/
  | orderStatusConflicts (count : Nat)
  | setPoolKind (isRegistered : Bool)
  | setInstanceKind (isRegistered : Bool)
deriving DecidableEq

namespace Store

/-- The store after a change from outside. -/
def edit (s : Store) : StoreEdit → Store
  | .call call => (s.answer call).2
  | .addPool pool => (s.add pool).2
  | .addConfigMap configMap => (s.addConfigMap configMap).2
  | .addInstance object => (s.add object).2
  | .orderConfigMapConflicts count => { s with configMapConflicts := count }
  | .orderStatusConflicts count => { s with statusConflicts := count }
  | .setPoolKind isRegistered => { s with hasPoolKind := isRegistered }
  | .setInstanceKind isRegistered => { s with hasInstanceKind := isRegistered }

/-- The store after a list of changes from outside. -/
def edits (s : Store) (es : List StoreEdit) : Store := es.foldl edit s

@[simp] theorem edits_nil (s : Store) : s.edits [] = s := rfl

@[simp] theorem edits_cons (s : Store) (e : StoreEdit) (es : List StoreEdit) :
    s.edits (e :: es) = (s.edit e).edits es := rfl

theorem edits_append (s : Store) (es fs : List StoreEdit) :
    s.edits (es ++ fs) = (s.edits es).edits fs := by
  simp [edits]

end Store

end PoolOperator
