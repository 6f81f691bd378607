import ApiScribe.Proofs.FieldSpec
import ApiScribe.Proofs.Resolve.Invariant
import ApiScribe.Proofs.Schema.Unnamed

set_option autoImplicit false

namespace ApiScribe

open ApiScribe.Tree

def Shape.isFlat : Shape → Bool
  | .named _ => true
  | .optional inner => isFlat inner
  | .sequence element => isFlat element
  | .mapping key value => isFlat key && isFlat value
  | .qualified _ (.named _) => true
  | .qualified _ _ => false
  | .record _ => false
  | .enumeration _ => true
  | .dynamic => true
  | .unsupported _ => true

namespace Resolve

open SchemaNode

theorem legible_invariant : Invariant Legible where
  nothing := by constructor <;> simp
  primitive type format := by constructor <;> simp [SchemaNode.primitive]
  ref name := by constructor <;> simp [SchemaNode.ref]
  array items _ _ := by constructor <;> simp [SchemaNode.array]
  mapping values := by constructor <;> simp [SchemaNode.object, SchemaNode.primitive]
  object node formed := by
    obtain ⟨properties, required, rfl, sorted⟩ := formed
    constructor
    next => exact fun d same => (sorted d same).1
    next => simp [SchemaNode.object, SchemaNode.primitive]
    next => simp [SchemaNode.object, SchemaNode.primitive]
  composed members := by constructor <;> simp [Schema.toNode]
  nullable flag legible := { legible with }
  coerced coercible legible := { legible with }
  allowed values legible := by
    refine { legible with enumValues := ?_ }
    intro vs same v member
    cases same
    obtain ⟨text, -, rfl⟩ := List.mem_map.mp member
    rfl
  allowedItems values found legible := { legible with }
  described description legible := { legible with }
  exemplified specified given legible := by
    refine { legible with example? := ?_ }
    intro v same
    cases same
    exact FieldSpec.ofField_example (specOf?_ofField specified) given

theorem identifier_evident (table : ExternalTypes) (name : String) (qualifier : Option String) :
    (Schema.plain (identifier table name qualifier)).Evident := by
  rcases identifier_cases table name qualifier with ⟨type, format, same⟩ | same
  · rw [same]
    exact .inl rfl
  · rw [same]
    exact .inr (.inl rfl)

theorem sequenceOf_evident (items : SchemaNode) : (Schema.plain (sequenceOf items)).Evident := by
  rw [sequenceOf]
  split
  next => exact .inl rfl
  next => exact .inl rfl

theorem resolve_evident {table : ExternalTypes} {scope qualifier : Option String} {shape : Shape}
    {node : SchemaNode} (flat : shape.isFlat = true)
    (found : (resolve table scope shape qualifier).1 = .ok node) :
    (Schema.plain node).Evident := by
  fun_induction Shape.isFlat shape generalizing node with
  | case1 name =>
    cases found
    exact identifier_evident table name qualifier
  | case2 inner ih =>
    obtain ⟨inside, below, rfl⟩ := resolve_optional found
    have evident := ih flat below
    exact evident
  | case3 element ih =>
    rcases resolve_sequence found with rfl | ⟨inside, -, rfl⟩
    · exact .inl rfl
    · exact sequenceOf_evident inside
  | case4 key value _ _ =>
    obtain ⟨values, rfl, -⟩ := mappingOf_ok found
    exact .inl rfl
  | case5 path name =>
    cases found
    exact identifier_evident table name (some path)
  | case6 => cases flat
  | case7 => cases flat
  | case8 variants =>
    cases found
    exact .inl rfl
  | case9 =>
    cases found
    exact .inr (.inl rfl)
  | case10 => cases found

theorem objectWith_readable {node : SchemaNode} (formed : ObjectWith (Throughout Legible) node) :
    (Schema.plain node).Readable where
  legible := objectWith_throughout legible_invariant formed
  evident := .inl (by rw [formed.type_eq]; rfl)

theorem resolve_readable {table : ExternalTypes} {scope qualifier : Option String} {shape : Shape}
    {node : SchemaNode} (flat : shape.isFlat = true)
    (found : (resolve table scope shape qualifier).1 = .ok node) :
    (Schema.plain node).Readable where
  legible := resolve_throughout legible_invariant shape qualifier found
  evident := resolve_evident flat found

theorem resolveRecord_readable (table : ExternalTypes) (owner : String) (fields : List Field) :
    (resolveRecord table owner fields).1.Readable := by
  refine ⟨resolveRecord_throughout legible_invariant table owner fields, ?_⟩
  have kept : ∀ k ∈ (keepFields table owner fields).1, k.node.Throughout Legible :=
    keepFields_throughout legible_invariant fields
  simp only [resolveRecord, assemble]
  split
  next => exact (objectWith_readable (objectOf_objectWith kept)).evident
  next => trivial

end Resolve

end ApiScribe
