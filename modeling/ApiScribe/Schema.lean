import ApiScribe.Dict
import ApiScribe.Text.Blank
import ApiScribe.Value

set_option autoImplicit false

namespace ApiScribe

open Text

structure SchemaNames where
  declared : Option String := none
  custom : Option String := none
  deriving DecidableEq, Repr

/-- A fragment of a schema. The properties stand in increasing order of their names. -/
structure SchemaNode where
  type : Option String := none
  format : Option String := none
  nullable : Option Bool := none
  reference : Option String := none
  description : Option String := none
  items : Option SchemaNode := none
  properties : Option (List (String × SchemaNode)) := none
  required : Option (List String) := none
  enumValues : Option (List Value) := none
  additional : Option SchemaNode := none
  oneOf : Option (List SchemaNode) := none
  anyOf : Option (List SchemaNode) := none
  allOf : Option (List SchemaNode) := none
  example? : Option Value := none
  names : SchemaNames := {}

def refStart : String := "#/components/schemas/"

def refPath (name : String) : String := refStart ++ name

/-- The name in a reference: the last of exactly four segments, unless it is empty. -/
def refName? (reference : String) : Option String :=
  match splitOnChar '/' reference with
  | [_, _, _, name] => if name.isEmpty then none else some name
  | _ => none

def sameOption {α : Type} (same : α → α → Bool) : Option α → Option α → Bool
  | none, none => true
  | some a, some b => same a b
  | _, _ => false

namespace SchemaNode

instance : Inhabited SchemaNode := ⟨{}⟩

def primitive (type : String) (format : Option String) : SchemaNode :=
  { type := some type, format }

def ref (name : String) : SchemaNode :=
  { reference := some (refPath name), names := { declared := some name } }

def object : SchemaNode := primitive "object" none

def array (items : SchemaNode) : SchemaNode :=
  { type := some "array", items := some items }

def isReference (node : SchemaNode) : Bool := node.reference.isSome

def referencedName (node : SchemaNode) : Option String :=
  node.reference.bind refName?

def isType (node : SchemaNode) (type : String) : Bool := node.type == some type

def withProperty (node : SchemaNode) (name : String) (property : SchemaNode) : SchemaNode :=
  { node with properties := some (Dict.insert name property (node.properties.getD [])) }

def withRequired (node : SchemaNode) (names : List String) : SchemaNode :=
  { node with required := some (node.required.getD [] ++ names) }

mutual

/-- Equality of content: the names beside it do not count, at any depth. -/
def same (a b : SchemaNode) : Bool :=
  match a, b with
  | ⟨type, format, nullable, reference, description, items, properties, required, enumValues,
      additional, oneOf, anyOf, allOf, ex, _⟩,
    ⟨type', format', nullable', reference', description', items', properties', required',
      enumValues', additional', oneOf', anyOf', allOf', ex', _⟩ =>
    type == type' && format == format' && nullable == nullable' && reference == reference' &&
      description == description' && sameNode? items items' &&
      sameProperties? properties properties' && required == required' &&
      sameOption Value.sameItems enumValues enumValues' && sameNode? additional additional' &&
      sameMembers? oneOf oneOf' && sameMembers? anyOf anyOf' && sameMembers? allOf allOf' &&
      sameOption Value.same ex ex'
termination_by structural a

def sameNode? : Option SchemaNode → Option SchemaNode → Bool
  | none, none => true
  | some a, some b => same a b
  | _, _ => false
termination_by structural a => a

def sameMembers? : Option (List SchemaNode) → Option (List SchemaNode) → Bool
  | none, none => true
  | some a, some b => sameMembers a b
  | _, _ => false
termination_by structural a => a

def sameProperties? :
    Option (List (String × SchemaNode)) → Option (List (String × SchemaNode)) → Bool
  | none, none => true
  | some a, some b => sameProperties a b
  | _, _ => false
termination_by structural a => a

def sameMembers : List SchemaNode → List SchemaNode → Bool
  | [], [] => true
  | a :: as, b :: bs => same a b && sameMembers as bs
  | _, _ => false
termination_by structural a => a

def sameProperties : List (String × SchemaNode) → List (String × SchemaNode) → Bool
  | [], [] => true
  | (k, a) :: as, (l, b) :: bs => k == l && same a b && sameProperties as bs
  | _, _ => false
termination_by structural a => a

end

instance : BEq SchemaNode := ⟨same⟩

mutual

/-- The node and the nodes under it, parents first: properties, additional properties, items, then
the members of compositions. A reference has nothing under it. -/
def walk (node : SchemaNode) : List SchemaNode :=
  match node with
  | ⟨type, format, nullable, reference, description, items, properties, required, enumValues,
      additional, oneOf, anyOf, allOf, ex, names⟩ =>
    ⟨type, format, nullable, reference, description, items, properties, required, enumValues,
      additional, oneOf, anyOf, allOf, ex, names⟩ ::
      (if reference.isSome then []
      else
        walkProperties? properties ++ walkNode? additional ++ walkNode? items ++
          walkMembers? oneOf ++ walkMembers? anyOf ++ walkMembers? allOf)

def walkNode? : Option SchemaNode → List SchemaNode
  | none => []
  | some node => walk node

def walkProperties? : Option (List (String × SchemaNode)) → List SchemaNode
  | none => []
  | some properties => walkProperties properties

def walkMembers? : Option (List SchemaNode) → List SchemaNode
  | none => []
  | some members => walkMembers members

def walkProperties : List (String × SchemaNode) → List SchemaNode
  | [] => []
  | (_, node) :: rest => walk node ++ walkProperties rest

def walkMembers : List SchemaNode → List SchemaNode
  | [] => []
  | node :: rest => walk node ++ walkMembers rest

end

mutual

/-- The node with every reference that `walk` reaches replaced by what `f` makes of it. Nothing else
changes. -/
def mapReferences (f : String → String) (node : SchemaNode) : SchemaNode :=
  match node with
  | ⟨type, format, nullable, some reference, description, items, properties, required, enumValues,
      additional, oneOf, anyOf, allOf, ex, names⟩ =>
    ⟨type, format, nullable, some (f reference), description, items, properties, required,
      enumValues, additional, oneOf, anyOf, allOf, ex, names⟩
  | ⟨type, format, nullable, none, description, items, properties, required, enumValues,
      additional, oneOf, anyOf, allOf, ex, names⟩ =>
    ⟨type, format, nullable, none, description, mapNode? f items, mapProperties? f properties,
      required, enumValues, mapNode? f additional, mapMembers? f oneOf, mapMembers? f anyOf,
      mapMembers? f allOf, ex, names⟩

def mapNode? (f : String → String) : Option SchemaNode → Option SchemaNode
  | none => none
  | some node => some (mapReferences f node)

def mapProperties? (f : String → String) :
    Option (List (String × SchemaNode)) → Option (List (String × SchemaNode))
  | none => none
  | some properties => some (mapProperties f properties)

def mapMembers? (f : String → String) : Option (List SchemaNode) → Option (List SchemaNode)
  | none => none
  | some members => some (mapMembers f members)

def mapProperties (f : String → String) :
    List (String × SchemaNode) → List (String × SchemaNode)
  | [] => []
  | (name, node) :: rest => (name, mapReferences f node) :: mapProperties f rest

def mapMembers (f : String → String) : List SchemaNode → List SchemaNode
  | [] => []
  | node :: rest => mapReferences f node :: mapMembers f rest

end

end SchemaNode

inductive Schema where
  /-- A composition of its members, and nothing else. -/
  | composed (members : List SchemaNode) (names : SchemaNames)
  | plain (node : SchemaNode)

namespace Schema

instance : Inhabited Schema := ⟨.plain {}⟩

def names : Schema → SchemaNames
  | .composed _ names => names
  | .plain node => node.names

def withNames (names : SchemaNames) : Schema → Schema
  | .composed members _ => .composed members names
  | .plain node => .plain { node with names }

def customName (schema : Schema) : Option String := schema.names.custom

def withCustomName (schema : Schema) (name : String) : Schema :=
  schema.withNames { schema.names with custom := some name }

def withDeclaredName (schema : Schema) (name : String) : Schema :=
  schema.withNames { schema.names with declared := some name }

def toNode : Schema → SchemaNode
  | .plain node => node
  | .composed members names => { allOf := some members, names }

def same : Schema → Schema → Bool
  | .composed a _, .composed b _ => SchemaNode.sameMembers a b
  | .plain a, .plain b => a.same b
  | _, _ => false

instance : BEq Schema := ⟨same⟩

def walk : Schema → List SchemaNode
  | .plain node => node.walk
  | .composed members _ => SchemaNode.walkMembers members

def mapReferences (f : String → String) : Schema → Schema
  | .plain node => .plain (node.mapReferences f)
  | .composed members names => .composed (SchemaNode.mapMembers f members) names

def anyValueName : String := "AnyValue"

def anyValue : Schema :=
  .plain
    { description :=
        some "Can be anything: string, number, array, object, etc., including `null`" }

end Schema

end ApiScribe
