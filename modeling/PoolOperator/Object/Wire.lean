import PoolOperator.Json.Record
import PoolOperator.Object.ConfigMap
import PoolOperator.Object.Instance
import PoolOperator.Object.Namespace

/-!
# Objects in JSON

How objects are written and read. What is absent is not written; what is unknown is passed over.
Written objects name their kind, and pools and instances are read without regard to the kind
that they name.
-/

namespace PoolOperator

/-- A kind of object that travels in JSON. -/
class Wire (α : Type) where
  toJson : α → Json
  ofJson? : Json → Option α

namespace ObjectMeta

/-- Metadata in JSON. -/
def toJson (md : ObjectMeta) : Json :=
  .ofMembers
    [("name", md.name.map .str), ("generateName", md.generateName.map .str),
      ("namespace", md.ns.map .str), ("labels", md.labels.map .ofTexts),
      ("annotations", md.annotations.map .ofTexts),
      ("deletionTimestamp", md.deletionTimestamp.map fun t => .str t.text),
      ("resourceVersion", md.resourceVersion.map .str), ("uid", md.uid.map .str),
      ("generation", md.generation.map fun n => .int n.toInt)]

/-- Reads metadata from an object. -/
def ofJson? (v : Json) : Option ObjectMeta := do
  let members ← v.obj?
  let field (name : String) := Json.member? name members
  return {
    name := ← Json.optional Json.str? (field "name")
    generateName := ← Json.optional Json.str? (field "generateName")
    ns := ← Json.optional Json.str? (field "namespace")
    labels := ← Json.optional Json.texts? (field "labels")
    annotations := ← Json.optional Json.texts? (field "annotations")
    deletionTimestamp := ←
      Json.optional (fun t => t.str?.bind Timestamp.parse?) (field "deletionTimestamp")
    resourceVersion := ← Json.optional Json.str? (field "resourceVersion")
    uid := ← Json.optional Json.str? (field "uid")
    generation := ← (Json.optional Json.int64? (field "generation")).map (·.map Int64.ofInt) }

end ObjectMeta

namespace Condition

/-- A condition in JSON; reason and message are always written. -/
def toJson (c : Condition) : Json :=
  .ofMembers
    [("type", some (.str c.type)), ("status", some (.str c.status.word)),
      ("reason", some (.str c.reason)), ("message", some (.str c.message)),
      ("lastTransitionTime", c.lastTransitionTime.map .str)]

/-- Reads a condition. -/
def ofJson? (v : Json) : Option Condition := do
  match ← v.fields? ["type", "status", "reason", "message", "lastTransitionTime"] with
  | [type, status, reason, message, time] =>
    return {
      type := ← Json.required Json.str? type
      status := ← (← Json.required Json.word? status) |> ConditionStatus.ofWord?
      reason := ← Json.defaulted Json.str? "" reason
      message := ← Json.defaulted Json.str? "" message
      lastTransitionTime := ← Json.optional Json.str? time }
  | _ => none

end Condition

namespace Status

/-- A status in JSON. -/
def toJson (s : Status) : Json :=
  .obj [("conditions", .arr (s.conditions.map Condition.toJson))]

/-- Reads a status. -/
def ofJson? (v : Json) : Option Status := do
  match ← v.fields? ["conditions"] with
  | [conditions] => return ⟨← Json.defaulted (Json.list? Condition.ofJson?) [] conditions⟩
  | _ => none

end Status

/-- Metadata, specification and status of an object; a list must hold all three. -/
def rootFields? (v : Json) : Option (Option Json × Option Json × Option Json) :=
  match v with
  | .arr [md, spec, status] => some (some md, some spec, some status)
  | .obj members =>
    some (Json.member? "metadata" members, Json.member? "spec" members,
      Json.member? "status" members)
  | _ => none

namespace PoolSpec

/-- A pool's specification in JSON; addresses are always written. -/
def toJson (s : PoolSpec) : Json :=
  .ofMembers
    [("protocol", some (.str s.protocol)), ("addresses", some (.arr (s.addresses.map .str))),
      ("autoAssign", s.autoAssign.map .bool)]

/-- Reads a pool's specification. -/
def ofJson? (v : Json) : Option PoolSpec := do
  match ← v.fields? ["protocol", "addresses", "autoAssign"] with
  | [protocol, addresses, autoAssign] =>
    return {
      protocol := ← Json.required Json.str? protocol
      addresses := ← Json.defaulted (Json.list? Json.str?) [] addresses
      autoAssign := ← Json.optional Json.bool? autoAssign }
  | _ => none

end PoolSpec

namespace AddressPool

/-- A pool in JSON. -/
def toJson (p : AddressPool) : Json :=
  .ofMembers
    [("apiVersion", some (.str "metallb.io/v1alpha1")), ("kind", some (.str "AddressPool")),
      ("metadata", some p.metadata.toJson), ("spec", some p.spec.toJson),
      ("status", p.status.map Status.toJson)]

/-- Reads a pool. -/
def ofJson? (v : Json) : Option AddressPool := do
  let (md, spec, status) ← rootFields? v
  return {
    metadata := ← Json.required ObjectMeta.ofJson? md
    spec := ← Json.required PoolSpec.ofJson? spec
    status := ← Json.optional Status.ofJson? status }

instance : Wire AddressPool := ⟨toJson, ofJson?⟩

end AddressPool

namespace InstanceSpec

/-- An instance's specification in JSON. -/
def toJson (s : InstanceSpec) : Json :=
  .ofMembers
    [("logLevel", s.logLevel.map .str), ("speakerNodeSelector", s.speakerNodeSelector.map .ofTexts),
      ("controllerNodeSelector", s.controllerNodeSelector.map .ofTexts)]

/-- Reads an instance's specification. -/
def ofJson? (v : Json) : Option InstanceSpec := do
  match ← v.fields? ["logLevel", "speakerNodeSelector", "controllerNodeSelector"] with
  | [logLevel, speaker, controller] =>
    return {
      logLevel := ← Json.optional Json.str? logLevel
      speakerNodeSelector := ← Json.optional Json.texts? speaker
      controllerNodeSelector := ← Json.optional Json.texts? controller }
  | _ => none

end InstanceSpec

namespace Instance

/-- An instance in JSON. -/
def toJson (i : Instance) : Json :=
  .ofMembers
    [("apiVersion", some (.str "metallb.io/v1beta1")), ("kind", some (.str "MetalLB")),
      ("metadata", some i.metadata.toJson), ("spec", some i.spec.toJson),
      ("status", i.status.map Status.toJson)]

/-- Reads an instance. -/
def ofJson? (v : Json) : Option Instance := do
  let (md, spec, status) ← rootFields? v
  return {
    metadata := ← Json.required ObjectMeta.ofJson? md
    spec := ← Json.required InstanceSpec.ofJson? spec
    status := ← Json.optional Status.ofJson? status }

instance : Wire Instance := ⟨toJson, ofJson?⟩

end Instance

/-- Whether an object may be read as one of a core kind: what it says about itself must agree. -/
def namesKind (apiVersion kind : String) (members : List (String × Json)) : Bool :=
  let agrees (name value : String) : Bool :=
    match Json.member? name members with
    | none => true
    | some (.str s) => s == value
    | some _ => false
  agrees "apiVersion" apiVersion && agrees "kind" kind

namespace ConfigMap

/-- A map of bytes in JSON. -/
def bytesToJson (m : SortedMap String Base64) : Json :=
  .obj (m.entries.map fun (k, v) => (k, .str v.text))

/-- Reads a map of bytes. -/
def bytes? (v : Json) : Option (SortedMap String Base64) := do
  let members ← v.obj?
  let pairs ← members.mapM fun (k, v) => do
    let text ← v.str?
    let bytes ← Base64.parse? text
    return (k, bytes)
  return SortedMap.ofList pairs

/-- A config map in JSON. -/
def toJson (c : ConfigMap) : Json :=
  .ofMembers
    [("apiVersion", some (.str "v1")), ("kind", some (.str "ConfigMap")),
      ("metadata", some c.metadata.toJson), ("data", c.data.map .ofTexts),
      ("binaryData", c.binaryData.map bytesToJson), ("immutable", c.immutable.map .bool)]

/-- Reads a config map. -/
def ofJson? (v : Json) : Option ConfigMap := do
  let members ← v.obj?
  let field (name : String) := Json.member? name members
  if !namesKind "v1" "ConfigMap" members then none
  return {
    metadata := (← Json.optional ObjectMeta.ofJson? (field "metadata")).getD {}
    data := ← Json.optional Json.texts? (field "data")
    binaryData := ← Json.optional bytes? (field "binaryData")
    immutable := ← Json.optional Json.bool? (field "immutable") }

instance : Wire ConfigMap := ⟨toJson, ofJson?⟩

end ConfigMap

namespace Namespace

/-- A namespace in JSON. -/
def toJson (n : Namespace) : Json :=
  .obj [("apiVersion", .str "v1"), ("kind", .str "Namespace"), ("metadata", n.metadata.toJson)]

/-- Reads a namespace. -/
def ofJson? (v : Json) : Option Namespace := do
  let members ← v.obj?
  if !namesKind "v1" "Namespace" members then none
  return ⟨(← Json.optional ObjectMeta.ofJson? (Json.member? "metadata" members)).getD {}⟩

instance : Wire Namespace := ⟨toJson, ofJson?⟩

end Namespace

end PoolOperator
