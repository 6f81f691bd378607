import ApiScribe.Registry
import ApiScribe.Resource

set_option autoImplicit false

namespace ApiScribe

abbrev Edges := Dict (List String)

namespace Edges

def targets (edges : Edges) (name : String) : List String := (Dict.get? edges name).getD []

def insertName (name : String) : List String → List String
  | [] => [name]
  | n :: rest =>
    if name = n then n :: rest else if name < n then name :: n :: rest else n :: insertName name rest

/-- Works off the pending names. Every step takes a name from the pending ones, and only a name that
was not reached before adds its targets to them. -/
def reachLoop (edges : Edges) : Nat → List String → List String → List String
  | 0, reached, _ => reached
  | _ + 1, reached, [] => reached
  | steps + 1, reached, name :: pending =>
    if reached.contains name then reachLoop edges steps reached pending
    else reachLoop edges steps (insertName name reached) (edges.targets name ++ pending)

def size : Edges → Nat
  | [] => 0
  | (_, targets) :: rest => 1 + targets.length + size rest

/-- A bound on the steps: every name is worked off once for each place in which it is a target. -/
def steps (edges : Edges) : Nat :=
  1 + 2 * edges.size

def reachable (edges : Edges) (root : String) : List String :=
  edges.reachLoop edges.steps [] (edges.targets root)

end Edges

/-- The resources by declared name. The first one of a name stays. -/
structure ResourceGraph where
  resources : Dict Resource := []
  /-- Names under which different resources were declared, in the order of their second one. -/
  conflicts : List String := []

namespace ResourceGraph

def insert (g : ResourceGraph) (resource : Resource) : ResourceGraph :=
  match Dict.get? g.resources resource.name with
  | none => { g with resources := Dict.insert resource.name resource g.resources }
  | some present =>
    if present.same resource || g.conflicts.contains resource.name then g
    else { g with conflicts := g.conflicts ++ [resource.name] }

def get? (g : ResourceGraph) (name : String) : Option Resource := Dict.get? g.resources name

def size (g : ResourceGraph) : Nat := g.resources.length

def edges (g : ResourceGraph) : Edges :=
  g.resources.map fun e =>
    (e.2.name, (e.2.relations.filter fun r => Dict.contains g.resources r.target).map Relation.target)

def displayName (g : ResourceGraph) (registry : Registry) (name : String) : String :=
  match g.get? name with
  | some resource => resource.displayName
  | none => registry.displayName name

def dataOf (node : SchemaNode) : SchemaNode :=
  (SchemaNode.object.withProperty "data" node).withRequired ["data"]

def identifierData (resource : Resource) : SchemaNode :=
  ((SchemaNode.object.withProperty "id" (.primitive "string" none)).withProperty "type"
    { SchemaNode.primitive "string" none with
      enumValues := some [.text resource.resourceType] }).withRequired ["id", "type"]

def identifierSuffix (collection : Bool) : String :=
  if collection then "IdentifierCollection" else "Identifier"

def relationships (g : ResourceGraph) (registry : Registry) (resource : Resource) : SchemaNode :=
  resource.relations.foldl (fun (node : SchemaNode) r =>
    node.withProperty r.name
      (.ref (g.displayName registry r.target ++ identifierSuffix r.collection))) .object

def includesOf (g : ResourceGraph) (registry : Registry) (members : List String) : SchemaNode :=
  { SchemaNode.array
      { anyOf := some (members.map fun m => .ref (g.displayName registry m ++ "Data")) } with
    nullable := some true }

def root (g : ResourceGraph) (registry : Registry) (resource : Resource)
    (members : List String) : Schema :=
  let node := dataOf (.ref (resource.displayName ++ "Data"))
  let node :=
    if members.isEmpty then node
    else node.withProperty "includes" (g.includesOf registry members)
  match resource.customName with
  | some custom => (Schema.plain node).withCustomName custom
  | none => .plain node

/-- The eight schemas of a resource, each with the name it is registered under. `members` are the
resources that can come along with it. -/
def envelopes (g : ResourceGraph) (registry : Registry) (resource : Resource)
    (members : List String) : List (String × Schema) :=
  let name (suffix : String) : String := resource.displayName ++ suffix
  let relationships := g.relationships registry resource
  let data :=
    ((identifierData resource).withProperty "attributes" (.ref (name "Attributes"))).withProperty
      "relationships" relationships
  [(resource.name, g.root registry resource members),
    (name "Collection", .plain (dataOf (.array (.ref (name "Data"))))),
    (name "Data", .plain data),
    (name "Identifier", .plain (dataOf (.ref (name "IdentifierData")))),
    (name "IdentifierCollection", .plain (dataOf (.array (.ref (name "IdentifierData"))))),
    (name "IdentifierData", .plain (identifierData resource)),
    (name "Attributes", .plain resource.attributes),
    (name "Relationships", .plain relationships)]

def members (g : ResourceGraph) (includes : Bool) (resource : Resource) : List String :=
  if includes then g.edges.reachable resource.name else []

def registerEnvelopes (g : ResourceGraph) (includes : Bool) (registry : Registry) :
    Except Failure Registry :=
  match g.conflicts with
  | name :: _ => .error (.duplicateSchema name)
  | [] =>
    .ok (g.resources.foldl (fun registry e =>
      registry.registerAll (g.envelopes registry e.2 (g.members includes e.2))) registry)

end ResourceGraph

end ApiScribe
