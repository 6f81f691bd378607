import ApiScribe.Schema
import ApiScribe.Tree.Record

set_option autoImplicit false

namespace ApiScribe

namespace SchemaNode

def fieldNames : List String := Outline.schema.unfold.names

/-- What a tree holds as a node, as a list of nodes and as named nodes; each is read when it is asked
for. -/
structure Nodes where
  node : Unit → Option SchemaNode
  members : Unit → Option (List SchemaNode)
  properties : Unit → Option (List (String × SchemaNode))

def setField? (name : String) (t : Tree) (nodes : Nodes) (node : SchemaNode) :
    Option SchemaNode :=
  match name with
  | "type" => do return { node with type := ← t.optionOf? Tree.asText? }
  | "format" => do return { node with format := ← t.optionOf? Tree.asText? }
  | "nullable" => do return { node with nullable := ← t.optionOf? Tree.asBool? }
  | "$ref" => do return { node with reference := ← t.optionOf? Tree.asText? }
  | "description" => do return { node with description := ← t.optionOf? Tree.asText? }
  | "items" => do return { node with items := ← t.optionOf? fun _ => nodes.node () }
  | "properties" => do
    return { node with properties := ← t.optionOf? fun _ => nodes.properties () }
  | "required" => do
    return { node with required := ← t.optionOf? (Tree.listOf? Tree.asText?) }
  | "enum" => do return { node with enumValues := ← t.optionOf? (Tree.listOf? Tree.toValue?) }
  | "additionalProperties" => do
    return { node with additional := ← t.optionOf? fun _ => nodes.node () }
  | "oneOf" => do return { node with oneOf := ← t.optionOf? fun _ => nodes.members () }
  | "anyOf" => do return { node with anyOf := ← t.optionOf? fun _ => nodes.members () }
  | "allOf" => do return { node with allOf := ← t.optionOf? fun _ => nodes.members () }
  | "example" => do return { node with example? := ← t.optionOf? Tree.toValue? }
  | _ => some node

mutual

/-- Reads a node. `positional` says that a list may stand for a record. -/
def decode? (positional : Bool) : Tree → Option SchemaNode
  | .map _ entries => decodeEntries? positional entries [] {}
  | .seq _ items => if positional then decodeItems? positional items fieldNames {} else none
  | .scalar s => if Tree.isEmptyScalar s then some {} else none
  | _ => none
termination_by structural t => t

def decodeEntries? (positional : Bool) :
    List (Tree × Tree) → List String → SchemaNode → Option SchemaNode
  | [], _, node => some node
  | (key, t) :: rest, seen, node =>
    match Tree.fieldKey? fieldNames key with
    | none => none
    | some .other => decodeEntries? positional rest seen node
    | some (.field name) =>
      if seen.contains name then none
      else
        let nodes : Nodes :=
          ⟨fun _ => decode? positional t, fun _ => decodeMembers? positional t,
            fun _ => decodeProperties? positional t⟩
        match setField? name t nodes node with
        | none => none
        | some node => decodeEntries? positional rest (name :: seen) node
termination_by structural entries => entries

def decodeItems? (positional : Bool) : List Tree → List String → SchemaNode → Option SchemaNode
  | [], [], node => some node
  | t :: rest, name :: names, node =>
    let nodes : Nodes :=
      ⟨fun _ => decode? positional t, fun _ => decodeMembers? positional t,
        fun _ => decodeProperties? positional t⟩
    match setField? name t nodes node with
    | none => none
    | some node => decodeItems? positional rest names node
  | _, _, _ => none
termination_by structural items => items

def decodeMembers? (positional : Bool) : Tree → Option (List SchemaNode)
  | .seq _ items => decodeList? positional items
  | .scalar s => if Tree.isEmptyScalar s then some [] else none
  | _ => none
termination_by structural t => t

def decodeProperties? (positional : Bool) : Tree → Option (List (String × SchemaNode))
  | .map _ entries => (decodeNamed? positional entries).map Dict.ofList
  | .scalar s => if Tree.isEmptyScalar s then some [] else none
  | _ => none
termination_by structural t => t

def decodeList? (positional : Bool) : List Tree → Option (List SchemaNode)
  | [] => some []
  | t :: rest => do return (← decode? positional t) :: (← decodeList? positional rest)
termination_by structural items => items

def decodeNamed? (positional : Bool) :
    List (Tree × Tree) → Option (List (String × SchemaNode))
  | [] => some []
  | (key, t) :: rest => do
    let name ← key.asText?
    return (name, ← decode? positional t) :: (← decodeNamed? positional rest)
termination_by structural entries => entries

end

end SchemaNode

namespace Schema

def composition? : Tree → Option (List SchemaNode)
  | .map _ [(key, t)] =>
    match Tree.fieldKey? ["allOf"] key with
    | some (.field _) => SchemaNode.decodeMembers? true t
    | _ => none
  | .seq _ [t] => SchemaNode.decodeMembers? true t
  | _ => none

/-- Reads a component schema: a composition if the tree holds nothing else, else a node. -/
def decode? (t : Tree) : Option Schema := do
  let settled ← t.settle?
  match composition? settled with
  | some members => return .composed members {}
  | none => return .plain (← SchemaNode.decode? true settled)

end Schema

end ApiScribe
