import ApiScribe.FieldSpec
import ApiScribe.Diagnostic
import ApiScribe.ExternalTypes
import ApiScribe.Schema

set_option autoImplicit false

namespace ApiScribe

def primitiveSchema? (name : String) : Option SchemaNode :=
  if ["String", "str", "char"].contains name then some (.primitive "string" none)
  else if name = "bool" then some (.primitive "boolean" none)
  else if ["i8", "i16", "i32", "u8", "u16", "u32"].contains name then
    some (.primitive "integer" (some "int32"))
  else if ["i64", "i128", "isize", "u64", "u128", "usize"].contains name then
    some (.primitive "integer" (some "int64"))
  else if name = "f32" then some (.primitive "number" (some "float"))
  else if name = "f64" then some (.primitive "number" (some "double"))
  else if ["DateTime", "NaiveDateTime", "SystemTime", "OffsetDateTime"].contains name then
    some (.primitive "string" (some "date-time"))
  else if ["NaiveDate", "Date"].contains name then some (.primitive "string" (some "date"))
  else if name = "Uuid" then some (.primitive "string" (some "uuid"))
  else if ["Bytes", "ByteBuf", "RawValue"].contains name then
    some (.primitive "string" (some "binary"))
  else none

namespace Resolve

def binary : SchemaNode := .primitive "string" (some "binary")

def isBinary (node : SchemaNode) : Bool :=
  node.isType "string" && node.format == some "binary"

/-- An identifier: an external type, a known one, or else a reference to another declaration. -/
def identifier (table : ExternalTypes) (name : String) (qualifier : Option String) : SchemaNode :=
  match table.lookup name qualifier with
  | some external => .primitive external.type external.format
  | none => (primitiveSchema? name).getD (.ref name)

abbrev Outcome (α : Type) := α × List Diagnostic

def isByte (shape : Shape) : Bool :=
  match shape.innermost with
  | .named name => name == "u8"
  | _ => false

/-- The schema of a sequence, given that of its elements: bytes in sequence are binary, and an
element is never null. -/
def sequenceOf (items : SchemaNode) : SchemaNode :=
  if isBinary items then binary else .array { items with nullable := none }

def isKey (node : SchemaNode) : Bool := node.isType "string" || node.isType "integer"

def shownKey (key : Shape) (node : SchemaNode) : String :=
  (node.referencedName.or node.type).getD key.display

/-- The schema of a mapping, given what its key and its values resolve to. Values of any type have a
schema that says nothing, whatever they resolve to. -/
def mappingOf (key value : Shape) (keyed valued : Outcome (Except ResolveError SchemaNode)) :
    Outcome (Except ResolveError SchemaNode) :=
  match keyed.1 with
  | .error e => (.error e, keyed.2)
  | .ok keyNode =>
    if isKey keyNode then
      match value with
      | .dynamic => (.ok { SchemaNode.object with additional := some {} }, keyed.2)
      | _ =>
        (valued.1.map fun node => { SchemaNode.object with additional := some node },
          keyed.2 ++ valued.2)
    else (.error (.unsupportedMapKey (shownKey key keyNode)), keyed.2)

def subject (owner : String) (field : Field) : String :=
  owner ++ "." ++ field.shownName

def isCoercible (node : SchemaNode) : Bool :=
  !node.isReference && ["string", "integer", "number", "boolean"].any node.isType

def restrict (values : List String) (node : SchemaNode) : SchemaNode :=
  let allowed := some (values.map Value.text)
  match node.items with
  | some items => { node with items := some { items with enumValues := allowed } }
  | none => { node with enumValues := allowed }

def refine (spec : FieldSpec) (node : SchemaNode) : SchemaNode :=
  let node := if spec.enumValues.isEmpty then node else restrict spec.enumValues node
  { node with
    nullable := if spec.nullable then some true else node.nullable
    description := spec.description.or node.description
    example? := spec.example?.or node.example? }

def finishField (owner : String) (field : Field) (spec : FieldSpec)
    (resolved : Outcome (Except ResolveError SchemaNode)) : Outcome (Option SchemaNode) :=
  let record (problem : Problem) : List Diagnostic :=
    resolved.2 ++ [{ problem, subject := subject owner field }]
  match resolved.1 with
  | .error e => (none, record (.unresolved e))
  | .ok node =>
    if spec.stringCoercion then
      if isCoercible node then
        (some (refine spec { node with type := some "string" }), resolved.2)
      else (none, record (.badTags .invalidStringCoercion))
    else (some (refine spec node), resolved.2)

structure Kept where
  spec : FieldSpec
  node : SchemaNode

def addProperty (node : SchemaNode) (k : Kept) : SchemaNode :=
  match k.spec.name with
  | some name => node.withProperty name k.node
  | none => node

def objectOf (kept : List Kept) : SchemaNode :=
  let node := kept.foldl addProperty SchemaNode.object
  let required := kept.filterMap fun k => if k.spec.required then k.spec.name else none
  { node with required := if required.isEmpty then none else some required }

def embedded (kept : List Kept) : List SchemaNode :=
  (kept.filter (·.spec.name.isNone)).map Kept.node

/-- The schema of a record: an object of the named fields and, if fields are embedded, the
composition of these with the object last. -/
def assemble (kept : List Kept) : Schema :=
  if (embedded kept).isEmpty then .plain (objectOf kept)
  else .composed (embedded kept ++ [objectOf kept]) {}

def tagDiagnostics (owner : String) (fields : List Field) : List Diagnostic :=
  fields.filterMap fun field =>
    match FieldSpec.ofField field with
    | .ok _ => none
    | .error e => some { problem := .badTags e, subject := subject owner field }

def specOf? (field : Field) : Option FieldSpec :=
  match FieldSpec.ofField field with
  | .ok spec => if spec.ignored then none else some spec
  | .error _ => none

def annotated (fields : List Field) : List (Field × FieldSpec) :=
  fields.filterMap fun field => (specOf? field).map (field, ·)

mutual

/-- The schema of a shape. `scope` names what the fields of records inside are reported under, and
`qualifier` is the path before an identifier. -/
def resolve (table : ExternalTypes) (scope : Option String) :
    Shape → Option String → Outcome (Except ResolveError SchemaNode)
  | .named name, qualifier => (.ok (identifier table name qualifier), [])
  | .optional inner, qualifier =>
    let (result, found) := resolve table scope inner qualifier
    (result.map fun node => { node with nullable := some true }, found)
  | .sequence element, qualifier =>
    if isByte element then (.ok binary, [])
    else
      let (result, found) := resolve table scope element qualifier
      (result.map sequenceOf, found)
  | .mapping key value, _ =>
    mappingOf key value (resolve table scope key none) (resolve table scope value none)
  | .qualified qualifier inner, _ => resolve table scope inner (some qualifier)
  | .record fields, _ =>
    let owner := scope.getD "<inline>"
    let (kept, found) := keepFields table owner fields
    (.ok (assemble kept).toNode, tagDiagnostics owner fields ++ found)
  | .enumeration variants, _ =>
    (.ok { SchemaNode.primitive "string" none with
      enumValues := some (variants.map Value.text) }, [])
  | .dynamic, _ => (.ok (.ref Schema.anyValueName), [])
  | .unsupported what, _ => (.error (.unsupported what), [])
termination_by structural shape => shape

def keepFields (table : ExternalTypes) (owner : String) : List Field → Outcome (List Kept)
  | [] => ([], [])
  | ⟨name, shape, doc, attributes⟩ :: rest =>
    let field : Field := ⟨name, shape, doc, attributes⟩
    let (kept, found) := keepFields table owner rest
    match specOf? field with
    | none => (kept, found)
    | some spec =>
      let (node, here) :=
        finishField owner field spec (resolve table (some (subject owner field)) shape none)
      match node with
      | none => (kept, here ++ found)
      | some node => (⟨spec, node⟩ :: kept, here ++ found)
termination_by structural fields => fields

end

def resolveField (table : ExternalTypes) (owner : String) (field : Field)
    (spec : FieldSpec) : Outcome (Option SchemaNode) :=
  finishField owner field spec
    (resolve table (some (subject owner field)) field.shape none)

def resolveRecord (table : ExternalTypes) (owner : String) (fields : List Field) :
    Outcome Schema :=
  let (kept, found) := keepFields table owner fields
  (assemble kept, tagDiagnostics owner fields ++ found)

end Resolve

end ApiScribe
