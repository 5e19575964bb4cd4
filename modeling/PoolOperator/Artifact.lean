import PoolOperator.Address.Block
import PoolOperator.Object.Wire

/-!
# The merged configuration

One artifact per namespace holds an entry for every valid pool, ordered by name. A pool is valid if
it has a name, a known protocol and only blocks of addresses; the first fault in this order is the
one that is reported.
-/

namespace PoolOperator

/-- A pool as it appears in the artifact. -/
structure PoolEntry where
  name : String
  protocol : Protocol
  /-- Whether addresses may be handed out unasked. They may if this is absent. -/
  autoAssign : Option Bool := none
  addresses : List String := []
deriving DecidableEq, Repr, Inhabited

/-- The merged configuration of a namespace. -/
structure Artifact where
  pools : List PoolEntry := []
deriving DecidableEq, Repr, Inhabited

/-- Why a pool has no entry, or a stored text is no artifact. -/
inductive ArtifactError where
  | missingName
  | unsupportedProtocol (pool word : String)
  | invalidAddress (pool address reason : String)
  | unreadable
deriving DecidableEq, Repr

/-- The wording of an artifact error. -/
def ArtifactError.message : ArtifactError → String
  | .missingName => "address pool has no name"
  | .unsupportedProtocol pool word => s!"address pool {pool}: {Protocol.unsupportedMessage word}"
  | .invalidAddress pool address reason =>
    s!"address pool {pool}: invalid address '{address}': {reason}"
  | .unreadable => "the text is not an artifact"

/-- The normal form of a choice whose default is yes: only a no is kept. -/
def normalAutoAssign (choice : Option Bool) : Option Bool := choice.filter (!·)

theorem normalAutoAssign_eq (choice : Option Bool) :
    normalAutoAssign choice = if choice = some false then some false else none := by
  rcases choice with _ | _ | _ <;> rfl

namespace PoolEntry

/-- Whether all addresses of a pool can be read; if not, the first that cannot. -/
def checkAddresses (pool : String) : List String → Except ArtifactError Unit
  | [] => .ok ()
  | address :: rest =>
    match AddressBlock.parse address with
    | .ok _ => checkAddresses pool rest
    | .error e => .error (.invalidAddress pool address e.message)

/-- The entry of a valid pool. -/
def ofPool (p : AddressPool) : Except ArtifactError PoolEntry :=
  match p.metadata.name.filter (!·.isEmpty) with
  | none => .error .missingName
  | some name =>
    match Protocol.ofWord? p.spec.protocol with
    | none => .error (.unsupportedProtocol name p.spec.protocol)
    | some protocol =>
      match checkAddresses name p.spec.addresses with
      | .error e => .error e
      | .ok () => .ok ⟨name, protocol, normalAutoAssign p.spec.autoAssign, p.spec.addresses⟩

/-- The entry with its choice of assignment in normal form. -/
def normal (e : PoolEntry) : PoolEntry := { e with autoAssign := normalAutoAssign e.autoAssign }

/-- Whether one entry may stand before another. -/
def precedes (a b : PoolEntry) : Bool := decide (a.name ≤ b.name)

/-- An entry in JSON; addresses are always written. -/
def toJson (e : PoolEntry) : Json :=
  .ofMembers
    [("name", some (.str e.name)), ("protocol", some (.str e.protocol.word)),
      ("auto-assign", e.autoAssign.map .bool),
      ("addresses", some (.arr (e.addresses.map .str)))]

/-- Reads an entry from JSON. -/
def ofJson? (v : Json) : Option PoolEntry := do
  match ← v.fields? ["name", "protocol", "auto-assign", "addresses"] with
  | [name, protocol, autoAssign, addresses] =>
    return {
      name := ← Json.required Json.str? name
      protocol := ← (← Json.required Json.word? protocol) |> Protocol.ofWord?
      autoAssign := ← Json.optional Json.bool? autoAssign
      addresses := ← Json.defaulted (Json.list? Json.str?) [] addresses }
  | _ => none

end PoolEntry

namespace Artifact

/-- The artifact of a list of entries, which it orders by name. Entries of one name stay in their
order. -/
def ofEntries (entries : List PoolEntry) : Artifact := ⟨entries.mergeSort PoolEntry.precedes⟩

/-- Whether there is no entry. -/
def isEmpty (a : Artifact) : Bool := a.pools.isEmpty

/-- The artifact with every entry in normal form. -/
def normal (a : Artifact) : Artifact := ⟨a.pools.map PoolEntry.normal⟩

/-- An artifact in JSON. -/
def toJson (a : Artifact) : Json := .obj [("address-pools", .arr (a.pools.map PoolEntry.toJson))]

/-- Reads an artifact from JSON. -/
def ofJson? (v : Json) : Option Artifact := do
  match ← v.fields? ["address-pools"] with
  | [pools] => return ⟨← Json.defaulted (Json.list? PoolEntry.ofJson?) [] pools⟩
  | _ => none

end Artifact

end PoolOperator
