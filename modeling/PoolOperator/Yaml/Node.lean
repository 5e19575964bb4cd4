import PoolOperator.Yaml.Token

/-!
# Nodes of YAML

The tree of a document. Nodes may be marked, and an alias stands for the last node with its mark.
-/

namespace PoolOperator.Yaml

/-- A value of a document, with its tag if it has one. -/
inductive Node where
  | scalar (tag : Option String) (style : Style) (text : String)
  | list (tag : Option String) (items : List Node)
  | record (tag : Option String) (members : List (Node × Node))
  | alias (mark : Nat)
  | marked (mark : Nat) (node : Node)
deriving Repr, Inhabited

namespace Node

/-- A value that is not written at all. -/
def empty (tag : Option String) : Node := .scalar tag .plain ""

/-- A node without its mark. -/
def bare : Node → Node
  | .marked _ node => node.bare
  | node => node

mutual

/-- How many values, aliases, and starts and ends of collections a node consists of. -/
def size : Node → Nat
  | .scalar .. => 1
  | .alias _ => 1
  | .list _ items => 2 + sizeOfItems items
  | .record _ members => 2 + sizeOfMembers members
  | .marked _ node => node.size

/-- The same for a list of nodes. -/
def sizeOfItems : List Node → Nat
  | [] => 0
  | node :: nodes => node.size + sizeOfItems nodes

/-- The same for the members of a record. -/
def sizeOfMembers : List (Node × Node) → Nat
  | [] => 0
  | (key, value) :: members => key.size + value.size + sizeOfMembers members

end

mutual

/-- The marked nodes, in the order in which they start. -/
def marks : Node → List (Nat × Node)
  | .scalar .. => []
  | .alias _ => []
  | .list _ items => marksOfItems items
  | .record _ members => marksOfMembers members
  | .marked mark node => (mark, node) :: node.marks

/-- The same for a list of nodes. -/
def marksOfItems : List Node → List (Nat × Node)
  | [] => []
  | node :: nodes => node.marks ++ marksOfItems nodes

/-- The same for the members of a record. -/
def marksOfMembers : List (Node × Node) → List (Nat × Node)
  | [] => []
  | (key, value) :: members => key.marks ++ value.marks ++ marksOfMembers members

end

end Node

end PoolOperator.Yaml
