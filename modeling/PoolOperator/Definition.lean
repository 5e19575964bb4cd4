import PoolOperator.Condition
import PoolOperator.Definition.Schema
import PoolOperator.Yaml.Printer

/-!
# Resource definitions

The descriptions by which pools and instances are registered with an API server, and the manifest
that holds them both.
-/

namespace PoolOperator

/-- A column in which a kind of object is listed. -/
structure Column where
  name : String
  type : String
  path : String

/-- The description of a kind of object. -/
structure Definition where
  group : String
  version : String
  kind : String
  columns : List Column
  spec : Schema
  status : Schema

namespace Definition

/-! ## In JSON -/

/-- A column in JSON. -/
def columnJson (c : Column) : Json :=
  .obj [("jsonPath", .str c.path), ("name", .str c.name), ("type", .str c.type)]

/-- The name of one object of a kind. -/
def singular (d : Definition) : String := d.kind.toLower

/-- The name of the objects of a kind. -/
def plural (d : Definition) : String := d.singular ++ "s"

/-- The schema of a whole object. -/
def schema (d : Definition) : Schema :=
  .titled d.kind
    (.describe s!"Auto-generated derived type for {d.kind}Spec via \x60CustomResource\x60"
      (.record [("spec", d.spec), ("status", d.status.nullable)] ["spec"]))

/-- The only version of a kind, in JSON. -/
def versionJson (d : Definition) : Json :=
  .obj
    [("additionalPrinterColumns", .arr (d.columns.map columnJson)),
      ("name", .str d.version),
      ("schema", .obj [("openAPIV3Schema", d.schema.toJson)]),
      ("served", .bool true),
      ("storage", .bool true),
      ("subresources", .obj [("status", .obj [])])]

/-- A definition in JSON. -/
def toJson (d : Definition) : Json :=
  .obj
    [("apiVersion", .str "apiextensions.k8s.io/v1"),
      ("kind", .str "CustomResourceDefinition"),
      ("metadata", .obj [("name", .str s!"{d.plural}.{d.group}")]),
      ("spec", .obj
        [("group", .str d.group),
          ("names", .obj
            [("categories", .arr []),
              ("kind", .str d.kind),
              ("plural", .str d.plural),
              ("shortNames", .arr []),
              ("singular", .str d.singular)]),
          ("scope", .str "Namespaced"),
          ("versions", .arr [d.versionJson])])]

/-! ## The two kinds -/

/-- The schema of a condition. -/
def conditionSchema : Schema :=
  .describe "Condition represents an observation of a resource's current state."
    (.record
      [("type",
          .describe "Type of condition (Available, Progressing, Degraded, Upgradeable)" .text),
        ("status", .describe "Status of the condition: True, False, or Unknown"
          (.oneOf ([ConditionStatus.true, .false, .unknown].map ConditionStatus.word))),
        ("reason", .withDefault (.str "")
          (.describe "Brief CamelCase reason for the condition's last transition" .text)),
        ("message", .withDefault (.str "")
          (.describe "Human-readable message indicating details about the transition" .text)),
        ("lastTransitionTime", .nullable
          (.describe
            "Last time the condition transitioned from one status to another (RFC3339)" .text))]
      ["type", "status"])

/-- The schema of a list of conditions. -/
def conditionsSchema : Schema := .withDefault (.arr []) (.listOf conditionSchema)

/-- The column of the age, which every kind has. -/
def ageColumn : Column := ⟨"Age", "date", ".metadata.creationTimestamp"⟩

/-- The definition of pools. -/
def pools : Definition where
  group := "metallb.io"
  version := "v1alpha1"
  kind := "AddressPool"
  columns :=
    [⟨"Protocol", "string", ".spec.protocol"⟩, ⟨"Auto Assign", "boolean", ".spec.autoAssign"⟩,
      ageColumn]
  spec :=
    .record
      [("protocol", .describe "Announcement protocol (currently only \"layer2\")" .text),
        ("addresses", .withDefault (.arr [])
          (.describe
            ("Address ranges, CIDRs or single addresses, in the order MetalLB\n" ++
              "should consider them")
            (.listOf .text))),
        ("autoAssign", .nullable
          (.describe
            "Whether MetalLB may assign from this pool automatically (default true)" .flag))]
      ["protocol"]
  status :=
    .record
      [("conditions",
        .describe "Whether the pool made it into the merged configuration" conditionsSchema)]
      []

/-- The definition of instances. -/
def instances : Definition where
  group := "metallb.io"
  version := "v1beta1"
  kind := "MetalLB"
  columns := [ageColumn]
  spec :=
    .record
      [("logLevel", .nullable
          (.describe
            "Log level passed to the MetalLB components (e.g. \"info\", \"debug\")" .text)),
        ("speakerNodeSelector", .nullable
          (.describe "Node selector for the speaker DaemonSet" (.mapOf .text))),
        ("controllerNodeSelector", .nullable
          (.describe "Node selector for the controller Deployment" (.mapOf .text)))]
      []
  status := .record [("conditions", conditionsSchema)] []

/-- Both definitions, each as a document. -/
def manifest : String :=
  String.join ([pools, instances].map fun d => "---\n" ++ Yaml.render d.toJson)

end Definition

end PoolOperator
