import ApiScribe.Proofs.Compilation.Declarations
import ApiScribe.Proofs.FieldSpec
import ApiScribe.Proofs.Resolve.Invariant

set_option autoImplicit false

namespace ApiScribe

namespace Resolve

theorem custom_invariant : Invariant fun node => node.names.custom = none where
  nothing := rfl
  primitive _ _ := rfl
  ref _ := rfl
  array _ _ _ := rfl
  mapping _ := rfl
  object node formed := by
    obtain ⟨properties, required, rfl, -⟩ := formed
    rfl
  composed _ := rfl
  nullable _ unnamed := unnamed
  coerced _ unnamed := unnamed
  allowed _ unnamed := unnamed
  allowedItems _ _ unnamed := unnamed
  described _ unnamed := unnamed
  exemplified _ _ unnamed := unnamed

theorem toNode_names (schema : Schema) : schema.toNode.names = schema.names := by
  cases schema <;> rfl

end Resolve

namespace Declaration

structure Plain (declaration : Declaration) : Prop where
  unnamed : ∀ marker, SchemaMarker.find? declaration.doc = some marker → marker.customName = none
  untagged : ∀ fields, declaration.shape = .record fields →
    ∀ field ∈ fields, ∀ attr ∈ field.attributes, attr.name ≠ "jsonapi"

theorem annotated_role {fields : List Field}
    (untagged : ∀ field ∈ fields, ∀ attr ∈ field.attributes, attr.name ≠ "jsonapi") :
    ∀ f ∈ Resolve.annotated fields, f.2.role = .none := by
  intro f member
  obtain ⟨field, here, found⟩ := List.mem_filterMap.mp member
  obtain ⟨spec, specified, rfl⟩ := Option.map_eq_some_iff.mp found
  exact FieldSpec.ofField_role (untagged field here) (Resolve.specOf?_ofField specified)

theorem product_plain {declaration : Declaration} (plain : declaration.Plain)
    (table : ExternalTypes) (customName : Option String) :
    (declaration.product table customName).1 = .ok .nothing ∨
      ∃ schema, (declaration.product table customName).1 = .ok (.schema schema) ∧
        schema.customName = none := by
  rw [product]
  split
  next fields shape =>
    have without := annotated_role (plain.untagged fields shape)
    have none : (Resolve.annotated fields).all (·.2.role = .none) = true := by
      simpa [List.all_eq_true] using without
    simp only [Resource.analyze, none, if_true]
    refine .inr ⟨_, rfl, ?_⟩
    have unnamed := Resolve.resolveRecord_throughout Resolve.custom_invariant table
      declaration.name fields
    have custom := unnamed.top
    rwa [Resolve.toNode_names] at custom
  next shape notRecord =>
    rcases resolved : Resolve.resolve table (some declaration.name) declaration.shape none with
      ⟨result, found⟩
    cases result with
    | ok node =>
      refine .inr ⟨_, rfl, ?_⟩
      exact (Resolve.resolve_throughout Resolve.custom_invariant _ _
        (congrArg Prod.fst resolved)).top
    | error error => exact .inl rfl

theorem withExample_custom (declaration : Declaration) (schema : Schema) :
    (declaration.withExample schema).1.customName = schema.customName := by
  rw [withExample]
  split
  next => rfl
  next =>
    split
    next => rfl
    next => cases schema <;> rfl

theorem given_plain {declaration : Declaration} (plain : declaration.Plain)
    (table : ExternalTypes) :
    declaration.given table = .nothing ∨
      ∃ schema, declaration.given table = .schema schema ∧ schema.customName = none := by
  rw [given]
  split
  next => exact .inl rfl
  next marker marked =>
    rcases product_plain plain table marker.customName with none | ⟨schema, produced, unnamed⟩
    · rw [none]
      exact .inl rfl
    · rw [produced]
      simp only [plain.unnamed marker marked]
      exact .inr ⟨_, rfl, (withExample_custom declaration schema).trans unnamed⟩

end Declaration

end ApiScribe
