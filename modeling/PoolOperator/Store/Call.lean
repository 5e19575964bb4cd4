import PoolOperator.Object.ConfigMap
import PoolOperator.Object.Instance
import PoolOperator.Object.Pool

/-!
# Calls of a store

What can be asked of a store of objects, and the type of the reply to each call. A write names the
version it is based on in the metadata of its object; a write that names none is unconditional.
-/

namespace PoolOperator

/-- A call of a store. -/
inductive StoreCall where
  | listPools (ns : String)
  | getPool (key : ObjectKey)
  | createPool (pool : AddressPool)
  | replacePool (pool : AddressPool)
  | deletePool (key : ObjectKey)
  /-- Writes the status of a pool and nothing else. -/
  | patchPoolStatus (pool : AddressPool)
  | getConfigMap (key : ObjectKey)
  | createConfigMap (configMap : ConfigMap)
  | replaceConfigMap (configMap : ConfigMap)
  /-- Deletes a config map, but no other version of it than the one given. -/
  | deleteConfigMap (key : ObjectKey) (version : Option String)
  | listInstances (ns : String)
  | getInstance (key : ObjectKey)
  | createInstance (object : Instance)
  | deleteInstance (key : ObjectKey)
  /-- Writes the status of an instance and nothing else. -/
  | patchInstanceStatus (object : Instance)
deriving DecidableEq

/-- The kinds of call. -/
inductive StoreMethod where
  | listPools
  | getPool
  | createPool
  | replacePool
  | deletePool
  | patchPoolStatus
  | getConfigMap
  | createConfigMap
  | replaceConfigMap
  | deleteConfigMap
  | listInstances
  | getInstance
  | createInstance
  | deleteInstance
  | patchInstanceStatus
deriving DecidableEq, Repr

namespace StoreCall

/-- What a call is answered with when it succeeds. -/
abbrev Reply : StoreCall → Type
  | listPools _ => List AddressPool
  | getPool _ => Option AddressPool
  | createPool _ | replacePool _ | patchPoolStatus _ => AddressPool
  | getConfigMap _ => Option ConfigMap
  | createConfigMap _ | replaceConfigMap _ => ConfigMap
  | deletePool _ | deleteConfigMap .. | deleteInstance _ => Unit
  | listInstances _ => List Instance
  | getInstance _ => Option Instance
  | createInstance _ | patchInstanceStatus _ => Instance

/-- The kind of a call. -/
def method : StoreCall → StoreMethod
  | listPools _ => .listPools
  | getPool _ => .getPool
  | createPool _ => .createPool
  | replacePool _ => .replacePool
  | deletePool _ => .deletePool
  | patchPoolStatus _ => .patchPoolStatus
  | getConfigMap _ => .getConfigMap
  | createConfigMap _ => .createConfigMap
  | replaceConfigMap _ => .replaceConfigMap
  | deleteConfigMap .. => .deleteConfigMap
  | listInstances _ => .listInstances
  | getInstance _ => .getInstance
  | createInstance _ => .createInstance
  | deleteInstance _ => .deleteInstance
  | patchInstanceStatus _ => .patchInstanceStatus

end StoreCall

end PoolOperator
