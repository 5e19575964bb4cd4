import PoolOperator.Object.Wire
import PoolOperator.Store.Call
import PoolOperator.Store.Error

/-!
# Requests to an API server

The one request that each call of a store takes. A call that cannot be put into a request fails
without one.
-/

namespace PoolOperator.Api

/-- What is to be done with a resource. -/
inductive Method where
  | get
  | post
  | put
  | patch
  | delete
deriving DecidableEq, Repr

/-- The word for a method. -/
def Method.word : Method → String
  | .get => "GET"
  | .post => "POST"
  | .put => "PUT"
  | .patch => "PATCH"
  | .delete => "DELETE"

/-- A request, without the query behind its path. -/
structure Request where
  method : Method
  path : String
  isWatch : Bool := false
  contentType : Option String := none
  body : Option Json := none

/-! ## Paths -/

/-- Whether a character may stand in a path. -/
def isPathChar (c : Char) : Bool := 0x21 ≤ c.toNat && c != '<' && c != '>' && c != '\x60'

/-- Whether a character may stand in a query. -/
def isQueryChar (c : Char) : Bool := 0x21 ≤ c.toNat && c != '<' && c != '>' && c != '"'

/-- The path of a target: what stands before a query or a fragment. Neither it nor the query may
hold characters of other kinds. -/
def pathOf? (target : String) : Option String :=
  let isEnd (c : Char) : Bool := c == '?' || c == '#'
  let path := target.toList.takeWhile (!isEnd ·)
  let query :=
    match target.toList.dropWhile (!isEnd ·) with
    | '?' :: rest => rest.takeWhile (· != '#')
    | _ => []
  if path.all isPathChar && query.all isQueryChar then some (String.ofList path) else none

/-- Where the objects of a kind are kept. -/
structure Collection where
  /-- The group and version of the kind. -/
  root : String
  plural : String
  kind : String

namespace Collection

/-- The collections of the four kinds. -/
def pools : Collection := ⟨"/apis/metallb.io/v1alpha1", "addresspools", "AddressPool"⟩

@[inherit_doc pools] def instances : Collection :=
  ⟨"/apis/metallb.io/v1beta1", "metallbs", "MetalLB"⟩

@[inherit_doc pools] def configMaps : Collection := ⟨"/api/v1", "configmaps", "ConfigMap"⟩

@[inherit_doc pools] def namespaces : Collection := ⟨"/api/v1", "namespaces", "Namespace"⟩

/-- The target of the objects of a namespace. -/
def target (c : Collection) (ns : String) : String := s!"{c.root}/namespaces/{ns}/{c.plural}"

end Collection

/-- A request that could not be built, or never gets an answer. -/
def unanswered : StoreError := .client .transport

/-- A request to a target. -/
def request (method : Method) (target : String) (contentType : Option String := none)
    (body : Option Json := none) : Except StoreError Request :=
  match pathOf? target with
  | some path => .ok { method, path, contentType, body }
  | none => .error unanswered

/-- A request with a body. -/
def sending (method : Method) (target : String) (body : Json) : Except StoreError Request :=
  request method target (some "application/json") (some body)

/-- A request about one object, which must have a name. -/
def naming (c : Collection) (key : ObjectKey) (build : String → Except StoreError Request) :
    Except StoreError Request :=
  if key.name.isEmpty then .error unanswered else build s!"{c.target key.ns}/{key.name}"

/-! ## Calls -/

/-- The namespace of an object that is written. -/
def nsOf (watchNs : String) (md : ObjectMeta) : String := md.ns.getD watchNs

/-- The key of an object that is written over, which must have a name. -/
def keyOf (c : Collection) (watchNs : String) (md : ObjectMeta) : Except StoreError ObjectKey :=
  match md.name with
  | some name => .ok ⟨nsOf watchNs md, name⟩
  | none => .error (.invalidObject s!"{c.kind} is missing metadata.name")

/-- The patch of a status, for the version that the writer has seen. -/
def statusPatch (version : Option String) (status : Option Status) : Json :=
  .ofMembers
    [("status", some ((status.map Status.toJson).getD .null)),
      ("metadata", version.map fun version => .obj [("resourceVersion", .str version)])]

/-- The conditions of a deletion. -/
def deleteOptions (version : Option String) : Json :=
  .ofMembers
    [("preconditions", version.map fun version => .obj [("resourceVersion", .str version)])]

/-- A request that creates an object. -/
def creating (c : Collection) (watchNs : String) (md : ObjectMeta) (body : Json) :
    Except StoreError Request :=
  sending .post (c.target (nsOf watchNs md)) body

/-- A request that replaces an object. -/
def replacing (c : Collection) (watchNs : String) (md : ObjectMeta) (body : Json) :
    Except StoreError Request := do
  let key ← keyOf c watchNs md
  naming c key fun target => sending .put target body

/-- A request that writes the status of an object. -/
def patching (c : Collection) (watchNs : String) (md : ObjectMeta) (status : Option Status) :
    Except StoreError Request := do
  let key ← keyOf c watchNs md
  naming c key fun target =>
    request .patch (target ++ "/status") (some "application/merge-patch+json")
      (some (statusPatch md.resourceVersion status))

/-- A request that deletes an object. -/
def deleting (c : Collection) (key : ObjectKey) (version : Option String) :
    Except StoreError Request :=
  naming c key fun target => sending .delete target (deleteOptions version)

/-- The request that a call takes. Objects without a namespace are in the one that is watched. -/
def requestFor (watchNs : String) : StoreCall → Except StoreError Request
  | .listPools ns => request .get (Collection.pools.target ns)
  | .getPool key => naming .pools key (request .get)
  | .createPool p => creating .pools watchNs p.metadata p.toJson
  | .replacePool p => replacing .pools watchNs p.metadata p.toJson
  | .deletePool key => deleting .pools key none
  | .patchPoolStatus p => patching .pools watchNs p.metadata p.status
  | .getConfigMap key => naming .configMaps key (request .get)
  | .createConfigMap c => creating .configMaps watchNs c.metadata c.toJson
  | .replaceConfigMap c => replacing .configMaps watchNs c.metadata c.toJson
  | .deleteConfigMap key version => deleting .configMaps key version
  | .listInstances ns => request .get (Collection.instances.target ns)
  | .getInstance key => naming .instances key (request .get)
  | .createInstance i => creating .instances watchNs i.metadata i.toJson
  | .deleteInstance key => deleting .instances key none
  | .patchInstanceStatus i => patching .instances watchNs i.metadata i.status

end PoolOperator.Api
