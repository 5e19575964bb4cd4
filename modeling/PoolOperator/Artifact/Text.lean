import PoolOperator.Artifact
import PoolOperator.Yaml.Printer
import PoolOperator.Yaml.Record

/-!
# The text of an artifact

An artifact is stored as a text in YAML. Reading it gives entries in normal form, in the order in
which they are written.
-/

namespace PoolOperator

open Yaml (Document Following Node)

namespace PoolEntry

/-- Reads an entry from a node. -/
def ofNode (d : Document) (node : Node) : Following PoolEntry := do
  let known := ["name", "protocol", "auto-assign", "addresses"]
  let fields ← d.fields known [] (← d.members node)
  let name ← d.text (← fields.lookup "name")
  let protocol ← Protocol.ofWord? (← d.word (← fields.lookup "protocol"))
  let autoAssign ←
    match fields.lookup "auto-assign" with
    | some node => d.bool? node
    | none => pure none
  let addresses ←
    match fields.lookup "addresses" with
    | some node => do (← d.items node).mapM d.text
    | none => pure []
  return ⟨name, protocol, autoAssign, addresses⟩

end PoolEntry

namespace Artifact

/-- The text of an artifact. -/
def encode (a : Artifact) : String := Yaml.render a.toJson

/-- Reads an artifact from a node. -/
def ofNode (d : Document) (node : Node) : Following Artifact := do
  let fields ← d.fields ["address-pools"] [] (← d.members node)
  match fields.lookup "address-pools" with
  | some node => return ⟨← (← d.items node).mapM (PoolEntry.ofNode d)⟩
  | none => return {}

/-- Reads the text of an artifact. A text without a document is an artifact without entries. -/
def decode? (text : String) : Option Artifact := do
  match ← Yaml.readText? text with
  | none => return {}
  | some root => return (← (ofNode (.ofNode root) root).run' 0).normal

/-- Reads the text of an artifact, or says that it cannot be read. -/
def decode (text : String) : Except ArtifactError Artifact :=
  match decode? text with
  | some a => .ok a
  | none => .error .unreadable

/-- Whether a stored text already describes an artifact. Its layout does not count. -/
def isDescribedBy (a : Artifact) (stored : String) : Bool :=
  match decode stored with
  | .ok current => current == a
  | .error _ => false

end Artifact

end PoolOperator
