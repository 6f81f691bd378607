import ApiScribe.Proofs.FieldSpec.Marks
import ApiScribe.Proofs.Resolve.Invariant
import ApiScribe.Proofs.Resource.Analysis
import ApiScribe.Proofs.Schema.References
import ApiScribe.Proofs.Source.Lowering

set_option autoImplicit false

namespace ApiScribe

namespace Shape

def identifier? : Shape → Option String
  | .named name => some name
  | .dynamic => some Schema.anyValueName
  | _ => none

-- The identifier under all `optional` and `qualified` layers and at most one `sequence`.
def leadsTo? (shape : Shape) : Option String :=
  match shape.innermost with
  | .sequence element => element.innermost.identifier?
  | inner => inner.identifier?

theorem leadsTo?_of_identifier {shape : Shape} {name : String}
    (found : shape.innermost.identifier? = some name) : shape.leadsTo? = some name := by
  unfold leadsTo?
  split
  next element same =>
    rw [same] at found
    cases found
  next => exact found

end Shape

namespace Resolve

open Shape

section Shapes

variable {table : ExternalTypes} {scope qualifier : Option String} {shape : Shape}
  {node items : SchemaNode} {target : String}

theorem identifier_referenced {name : String}
    (led : (identifier table name qualifier).referencedName = some target) :
    target = name ∧ (identifier table name qualifier).type = none := by
  obtain ⟨type, format, same⟩ | same := identifier_cases table name qualifier
  · rw [same] at led
    cases led
  · rw [same] at led ⊢
    exact ⟨refName?_refPath led, rfl⟩

theorem identifier_items (name : String) : (identifier table name qualifier).items = none := by
  obtain ⟨type, format, same⟩ | same := identifier_cases table name qualifier
  · rw [same]
    rfl
  · rw [same]
    rfl

theorem sequenceOf_parts (inside : SchemaNode) : (sequenceOf inside).reference = none ∧
    ∀ items, (sequenceOf inside).items = some items →
      (sequenceOf inside).type = some "array" ∧ items.reference = inside.reference := by
  rw [sequenceOf]
  split
  · refine ⟨rfl, ?_⟩
    intro items found
    cases found
  · refine ⟨rfl, ?_⟩
    intro items found
    cases found
    exact ⟨rfl, rfl⟩

theorem resolve_reference (lowered : Lowered shape)
    (found : (resolve table scope shape qualifier).1 = .ok node)
    (led : node.referencedName = some target) :
    shape.innermost.identifier? = some target ∧ shape.isSequence = false ∧ node.type = none := by
  induction lowered generalizing qualifier node with
  | named name =>
    cases found
    obtain ⟨rfl, untyped⟩ := identifier_referenced led
    exact ⟨rfl, rfl, untyped⟩
  | qualified path name =>
    cases found
    obtain ⟨rfl, untyped⟩ := identifier_referenced led
    exact ⟨rfl, rfl, untyped⟩
  | optional _ ih =>
    obtain ⟨inside, below, rfl⟩ := resolve_optional found
    obtain ⟨same, single, untyped⟩ := ih below led
    exact ⟨same, single, untyped⟩
  | sequence _ ih =>
    obtain rfl | ⟨inside, below, rfl⟩ := resolve_sequence found
    · cases led
    · rw [SchemaNode.referencedName, (sequenceOf_parts inside).1] at led
      cases led
  | mapping =>
    obtain ⟨values, rfl, -⟩ := mappingOf_ok found
    cases led
  | dynamic =>
    cases found
    obtain rfl : target = Schema.anyValueName := refName?_refPath led
    exact ⟨rfl, rfl, rfl⟩
  | unsupported => cases found

theorem resolve_items (lowered : Lowered shape)
    (found : (resolve table scope shape qualifier).1 = .ok node)
    (itemized : node.items = some items) (led : items.referencedName = some target) :
    shape.leadsTo? = some target ∧ shape.isSequence = true ∧ node.type = some "array" := by
  induction lowered generalizing qualifier node with
  | named name =>
    cases found
    rw [identifier_items] at itemized
    cases itemized
  | qualified path name =>
    cases found
    rw [identifier_items] at itemized
    cases itemized
  | optional _ ih =>
    obtain ⟨inside, below, rfl⟩ := resolve_optional found
    obtain ⟨same, many, typed⟩ := ih below itemized
    exact ⟨same, many, typed⟩
  | sequence inner =>
    obtain rfl | ⟨inside, below, rfl⟩ := resolve_sequence found
    · cases itemized
    · obtain ⟨typed, same⟩ := (sequenceOf_parts inside).2 items itemized
      rw [SchemaNode.referencedName, same] at led
      exact ⟨(resolve_reference inner below led).1, rfl, typed⟩
  | mapping =>
    obtain ⟨values, rfl, -⟩ := mappingOf_ok found
    cases itemized
  | dynamic =>
    cases found
    cases itemized
  | unsupported => cases found

theorem resolve_target (lowered : Lowered shape)
    (found : (resolve table scope shape qualifier).1 = .ok node)
    (led : Resource.target? node = some target) :
    shape.leadsTo? = some target ∧ node.isType "array" = shape.isSequence ∧
      isCoercible node = false := by
  cases itemized : node.items with
  | none =>
    rw [Resource.target?, itemized] at led
    obtain ⟨same, single, untyped⟩ := resolve_reference lowered found led
    refine ⟨leadsTo?_of_identifier same, ?_, ?_⟩
    · simp [SchemaNode.isType, single, untyped]
    · simp [isCoercible, SchemaNode.isType, untyped]
  | some items =>
    rw [Resource.target?, itemized] at led
    obtain ⟨same, many, typed⟩ := resolve_items lowered found itemized led
    refine ⟨same, ?_, ?_⟩
    · simp [SchemaNode.isType, many, typed]
    · simp [isCoercible, SchemaNode.isType, typed]

end Shapes

section Fields

variable {table : ExternalTypes} {owner : String} {field : Field} {spec : FieldSpec}

theorem finishField_node {resolved : Outcome (Except ResolveError SchemaNode)} {node : SchemaNode}
    (found : (finishField owner field spec resolved).1 = some node) :
    ∃ inner, resolved.1 = .ok inner ∧ (node = refine spec inner ∨
      isCoercible inner = true ∧ node = refine spec { inner with type := some "string" }) := by
  unfold finishField at found
  dsimp only at found
  split at found
  next => cases found
  next inner result =>
    split_ifs at found with coerced coercible
    · cases found
      exact ⟨inner, result, .inr ⟨coercible, rfl⟩⟩
    · cases found
      exact ⟨inner, result, .inl rfl⟩

theorem target?_withType (node : SchemaNode) (type : Option String) :
    Resource.target? { node with type } = Resource.target? node := by
  cases itemized : node.items <;> simp [Resource.target?, SchemaNode.referencedName, itemized]

theorem refine_leads (spec : FieldSpec) (node : SchemaNode) :
    (refine spec node).type = node.type ∧
      Resource.target? (refine spec node) = Resource.target? node := by
  unfold refine restrict
  dsimp only
  split
  · cases itemized : node.items <;>
      simp [Resource.target?, SchemaNode.referencedName, itemized]
  · cases itemized : node.items <;>
      simp [Resource.target?, SchemaNode.referencedName, itemized]

theorem resolveField_target {node : SchemaNode} {target : String} (lowered : Lowered field.shape)
    (found : (resolveField table owner field spec).1 = some node)
    (led : Resource.target? node = some target) :
    field.shape.leadsTo? = some target ∧ node.isType "array" = field.shape.isSequence := by
  obtain ⟨inner, below, rfl | ⟨coercible, rfl⟩⟩ := finishField_node found
  · rw [(refine_leads spec inner).2] at led
    obtain ⟨same, array, -⟩ := resolve_target lowered below led
    rw [SchemaNode.isType, (refine_leads spec inner).1]
    exact ⟨same, array⟩
  · rw [(refine_leads spec _).2, target?_withType] at led
    obtain ⟨-, -, uncoercible⟩ := resolve_target lowered below led
    rw [coercible] at uncoercible
    cases uncoercible

end Fields

end Resolve

namespace Resource

open Resolve

theorem relation_parts {table : ExternalTypes} {name : String} {f : Field × FieldSpec}
    {relation : Relation} (recorded : relation? table name f = some relation) :
    f.2.role = .relation relation.collection ∧ ∃ node,
      (resolveField table name f.1 f.2).1 = some node ∧ target? node = some relation.target := by
  unfold relation? related? at recorded
  split at recorded
  next own collection named role =>
    cases resolved : (resolveField table name f.1 f.2).1 with
    | none => simp [resolved] at recorded
    | some node =>
      rw [resolved, Option.map_some, Option.bind_some] at recorded
      obtain ⟨target, led, rfl⟩ := Option.map_eq_some_iff.mp recorded
      exact ⟨role, node, rfl, led⟩
  next => cases recorded

/-- In the shape of a type of a source text stands no record and no enumeration, and a qualifier
only right before an identifier. A resource has the relations of its fields; each relation of a
field with such a shape is a collection exactly if the schema of the field is an array, and leads to
the identifier of the shape. -/
theorem relations_by_shape :
    (∀ type : Source.TypeExpr, type.shape.Lowered) ∧
    ∀ (table : ExternalTypes) (name : String) (customName : Option String) (fields : List Field)
      (resource : Resource),
      (analyze table name customName (annotated fields)).1 = .ok (some resource) →
      resource.relations = (annotated fields).filterMap (relation? table name) ∧
      ∀ field spec relation, (field, spec) ∈ annotated fields →
        (∃ type : Source.TypeExpr, field.shape = type.shape) →
        relation? table name (field, spec) = some relation →
        ∃ node, (resolveField table name field spec).1 = some node ∧
          (relation.collection = true ↔ node.isType "array" = true) ∧
          field.shape.leadsTo? = some relation.target := by
  refine ⟨Source.TypeExpr.shape_lowered, ?_⟩
  intro table name customName fields resource succeeded
  obtain ⟨resourceType, -, rfl, -⟩ := analyze_found succeeded
  refine ⟨rfl, ?_⟩
  intro field spec relation listed ⟨type, same⟩ recorded
  have lowered : field.shape.Lowered := same ▸ type.shape_lowered
  obtain ⟨role, node, resolved, led⟩ := relation_parts recorded
  obtain ⟨target, array⟩ := resolveField_target lowered resolved led
  obtain ⟨read, counts⟩ := specOf?_iff.mp (mem_annotated_iff.mp listed).2
  have collection : relation.collection = field.shape.isSequence :=
    FieldSpec.ofField_relation read counts role
  exact ⟨node, resolved, by rw [array, collection], target⟩

def usersType : Source.TypeExpr :=
  let user : Source.TypeExpr := .path false false [⟨"model", .none⟩, ⟨"User", .none⟩]
  .path false false
    [⟨"Option", .angle [.type (.path false false [⟨"Vec", .angle [.type user]⟩])]⟩]

def authorsField : Field :=
  ⟨some "authors", usersType.shape, "", [⟨"jsonapi", "relation = \"writers\""⟩]⟩

def articleFields : List Field :=
  [⟨some "id", .named "Uuid", "", [⟨"jsonapi", "primary = \"articles\""⟩]⟩, authorsField]

def article : Resource where
  name := "Article"
  customName := none
  resourceType := "articles"
  attributes := .object
  relations := [⟨"writers", "User", true⟩]

theorem relations_by_shape_authors :
    (analyze [] "Article" none (annotated articleFields)).1 = .ok (some article) ∧
    ∃ node, (resolveField [] "Article" authorsField
        { name := some "writers", role := .relation true }).1 = some node ∧
      node.isType "array" = true ∧ authorsField.shape.leadsTo? = some "User" := by
  have succeeded : (analyze [] "Article" none (annotated articleFields)).1 = .ok (some article) :=
    rfl
  have specified : specOf? authorsField = some { name := some "writers", role := .relation true } :=
    rfl
  have listed : (authorsField, { name := some "writers", role := .relation true }) ∈
      annotated articleFields :=
    mem_annotated_iff.mpr ⟨by simp [articleFields], specified⟩
  obtain ⟨node, resolved, array, target⟩ := (relations_by_shape.2 [] "Article" none articleFields
    article succeeded).2 authorsField _ ⟨"writers", "User", true⟩ listed ⟨usersType, rfl⟩ rfl
  exact ⟨succeeded, node, resolved, array.mp rfl, target⟩

end Resource

end ApiScribe
