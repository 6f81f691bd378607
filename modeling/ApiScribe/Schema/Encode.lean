import ApiScribe.Schema

set_option autoImplicit false

namespace ApiScribe

def memberOf {α : Type} (name : String) (write : α → Value) : Option α → List (String × Value)
  | none => []
  | some a => [(name, write a)]

def Value.texts (items : List String) : Value := .list (items.map .text)

namespace SchemaNode

mutual

def encode (node : SchemaNode) : Value :=
  match node with
  | ⟨type, format, nullable, reference, description, items, properties, required, enumValues,
      additional, oneOf, anyOf, allOf, ex, _⟩ =>
    .object <|
      memberOf "type" .text type ++ memberOf "format" .text format ++
        memberOf "nullable" .bool nullable ++ memberOf "$ref" .text reference ++
        memberOf "description" .text description ++ encodeNode "items" items ++
        encodeProperties properties ++ memberOf "required" Value.texts required ++
        memberOf "enum" .list enumValues ++ encodeNode "additionalProperties" additional ++
        encodeMembers "oneOf" oneOf ++ encodeMembers "anyOf" anyOf ++
        encodeMembers "allOf" allOf ++ memberOf "example" id ex

def encodeNode (name : String) : Option SchemaNode → List (String × Value)
  | none => []
  | some node => [(name, encode node)]

def encodeMembers (name : String) : Option (List SchemaNode) → List (String × Value)
  | none => []
  | some members => [(name, .list (encodeList members))]

def encodeProperties : Option (List (String × SchemaNode)) → List (String × Value)
  | none => []
  | some properties => [("properties", .object (encodeNamed properties))]

def encodeList : List SchemaNode → List Value
  | [] => []
  | node :: rest => encode node :: encodeList rest

def encodeNamed : List (String × SchemaNode) → List (String × Value)
  | [] => []
  | (name, node) :: rest => (name, encode node) :: encodeNamed rest

end

end SchemaNode

def Schema.encode : Schema → Value
  | .plain node => node.encode
  | .composed members _ => .object [("allOf", .list (SchemaNode.encodeList members))]

end ApiScribe
