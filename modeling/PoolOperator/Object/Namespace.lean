import PoolOperator.Object.Meta

/-!
# Namespaces

Objects live in namespaces, which are objects themselves.
-/

namespace PoolOperator

/-- A namespace, of which only the metadata counts. -/
structure Namespace where
  metadata : ObjectMeta
deriving DecidableEq, Inhabited

end PoolOperator
