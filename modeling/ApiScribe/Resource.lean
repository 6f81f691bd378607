import ApiScribe.Resolve

set_option autoImplicit false

namespace ApiScribe

open Resolve

structure Relation where
  name : String
  target : String
  collection : Bool
  deriving DecidableEq, Repr

structure Resource where
  name : String
  customName : Option String
  resourceType : String
  attributes : SchemaNode
  relations : List Relation

namespace Resource

def displayName (r : Resource) : String := r.customName.getD r.name

def same (a b : Resource) : Bool :=
  a.name == b.name && a.customName == b.customName && a.resourceType == b.resourceType &&
    a.attributes.same b.attributes && a.relations == b.relations

def primaries (fields : List (Field × FieldSpec)) : List (Field × String) :=
  fields.filterMap fun f =>
    match f.2.role with
    | .primary resourceType => some (f.1, resourceType)
    | _ => none

/-- The resource type of the one primary field, which must be the field `id`. -/
def primaryType (fields : List (Field × FieldSpec)) : Except ResourceFault String :=
  match primaries fields with
  | [] => .error .noPrimary
  | [(field, resourceType)] =>
    if field.name = some "id" then .ok resourceType else .error .primaryNotId
  | _ => .error .severalPrimaries

/-- The resource that a relation leads to: what the items refer to, or the node if it has none. -/
def target? (node : SchemaNode) : Option String :=
  (node.items.getD node).referencedName

structure Draft where
  attributes : SchemaNode := .object
  required : List String := []
  relations : List Relation := []

/-- Reads the fields into a draft. A field that does not resolve is left out; a relation without a
target is a fault. -/
def readFields (table : ExternalTypes) (owner : String) (draft : Draft) :
    List (Field × FieldSpec) → Outcome (Except ResourceFault Draft)
  | [] => (.ok draft, [])
  | (field, spec) :: rest =>
    match spec.name, spec.role with
    | some name, .attr omitEmpty =>
      let (resolved, here) := resolveField table owner field spec
      match resolved with
      | none =>
        let (result, found) := readFields table owner draft rest
        (result, here ++ found)
      | some node =>
        let node := if omitEmpty then { node with nullable := some true } else node
        let draft :=
          { draft with
            attributes := draft.attributes.withProperty name node
            required := if spec.required then draft.required ++ [name] else draft.required }
        let (result, found) := readFields table owner draft rest
        (result, here ++ found)
    | some name, .relation collection =>
      let (resolved, here) := resolveField table owner field spec
      match resolved with
      | none =>
        let (result, found) := readFields table owner draft rest
        (result, here ++ found)
      | some node =>
        match target? node with
        | none => (.error (.relationWithoutTarget name), here)
        | some target =>
          let draft := { draft with relations := draft.relations ++ [⟨name, target, collection⟩] }
          let (result, found) := readFields table owner draft rest
          (result, here ++ found)
    | _, _ => readFields table owner draft rest

def withoutRole (fields : List (Field × FieldSpec)) : List String :=
  (fields.filter (·.2.role = .none)).map (·.1.shownName)

def analyze (table : ExternalTypes) (name : String) (customName : Option String)
    (fields : List (Field × FieldSpec)) : Outcome (Except Failure (Option Resource)) :=
  let failed (fault : ResourceFault) : Except Failure (Option Resource) :=
    .error (.resource name fault)
  if fields.all (·.2.role = .none) then (.ok none, [])
  else if !(withoutRole fields).isEmpty then (failed (.missingFields (withoutRole fields)), [])
  else
    match primaryType fields with
    | .error fault => (failed fault, [])
    | .ok resourceType =>
      let (result, found) := readFields table name {} fields
      match result with
      | .error fault => (failed fault, found)
      | .ok draft =>
        let attributes :=
          { draft.attributes with
            required := if draft.required.isEmpty then none else some draft.required }
        (.ok (some ⟨name, customName, resourceType, attributes, draft.relations⟩), found)

end Resource

end ApiScribe
