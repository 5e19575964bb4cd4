import PoolOperator.Definition

/-!
# Command

Prints the resource definitions as a stream of documents.
-/

/-- Prints the manifest. -/
def main : IO Unit := IO.print PoolOperator.Definition.manifest
