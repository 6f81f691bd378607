import ApiScribe.Proofs.Resolve.Invariant

set_option autoImplicit false

namespace ApiScribe

structure SchemaNode.WellShaped (node : SchemaNode) : Prop where
  reference : node.reference.isSome → node.type = none ∧ node.format = none ∧ node.items = none ∧
    node.properties = none ∧ node.required = none ∧ node.additional = none ∧ node.oneOf = none ∧
    node.anyOf = none ∧ node.allOf = none
  composition : node.allOf.isSome → node.type = none ∧ node.format = none ∧ node.items = none ∧
    node.properties = none ∧ node.required = none ∧ node.additional = none
  array : ∀ items, node.items = some items → node.type = some "array" ∧ node.properties = none ∧
    node.additional = none ∧ items.nullable = none ∧ Resolve.isBinary items = false
  object : node.properties.isSome ∨ node.additional.isSome → node.type = some "object" ∧
    ¬ (node.properties.isSome ∧ node.additional.isSome)
  alternatives : node.oneOf = none ∧ node.anyOf = none

namespace Resolve

open SchemaNode

theorem isCoercible_plain {node : SchemaNode} (shaped : node.WellShaped)
    (coercible : isCoercible node = true) :
    node.reference = none ∧ node.allOf = none ∧ node.items = none ∧ node.properties = none ∧
      node.additional = none := by
  simp only [isCoercible, isReference, isType, List.any_cons, List.any_nil, Bool.or_false,
    Bool.and_eq_true, Bool.not_eq_true', Option.isSome_eq_false_iff, Option.isNone_iff_eq_none,
    Bool.or_eq_true, beq_iff_eq] at coercible
  obtain ⟨inner, typed⟩ := coercible
  have some : node.type ≠ none ∧ node.type ≠ some "array" ∧ node.type ≠ some "object" := by
    rcases typed with same | same | same | same <;> simp [same]
  refine ⟨inner, ?_, ?_, ?_, ?_⟩
  · by_contra composed
    exact some.1 (shaped.composition (Option.isSome_iff_ne_none.mpr composed)).1
  · by_contra listed
    obtain ⟨items, found⟩ := Option.ne_none_iff_exists'.mp listed
    exact some.2.1 (shaped.array items found).1
  · by_contra keyed
    exact some.2.2 (shaped.object (.inl (Option.isSome_iff_ne_none.mpr keyed))).1
  · by_contra mapped
    exact some.2.2 (shaped.object (.inr (Option.isSome_iff_ne_none.mpr mapped))).1

theorem wellShaped_invariant : Invariant WellShaped where
  nothing := by constructor <;> simp
  primitive type format := by constructor <;> simp [SchemaNode.primitive]
  ref name := by constructor <;> simp [SchemaNode.ref]
  array items notNull notBinary := by constructor <;> simp [SchemaNode.array, notNull, notBinary]
  mapping values := by constructor <;> simp [SchemaNode.object, SchemaNode.primitive]
  object node formed := by
    obtain ⟨properties, required, rfl, -⟩ := formed
    constructor <;> simp [SchemaNode.object, SchemaNode.primitive]
  composed members := by constructor <;> simp [Schema.toNode]
  nullable flag shaped := { shaped with }
  coerced coercible shaped := by
    obtain ⟨inner, single, plain, closed, fixed⟩ := isCoercible_plain shaped coercible
    constructor <;> simp [inner, single, plain, closed, fixed, shaped.alternatives]
  allowed values shaped := { shaped with }
  allowedItems values found shaped := by
    obtain ⟨array, keyed, additional, notNull, notBinary⟩ := shaped.array _ found
    refine { shaped with reference := ?_, composition := ?_, array := ?_ }
    · intro refers
      exact absurd (shaped.reference refers).1 (by simp [array])
    · intro composed
      exact absurd (shaped.composition composed).1 (by simp [array])
    · intro items same
      cases same
      exact ⟨array, keyed, additional, notNull, notBinary⟩
  described description shaped := { shaped with }
  exemplified specified given shaped := { shaped with }

theorem resolved_wellShaped (table : ExternalTypes) :
    (∀ scope shape qualifier node, (resolve table scope shape qualifier).1 = .ok node →
      node.Throughout WellShaped) ∧
    ∀ owner fields, (resolveRecord table owner fields).1.toNode.Throughout WellShaped := by
  constructor
  · intro scope shape qualifier node found
    exact resolve_throughout wellShaped_invariant shape qualifier found
  · intro owner fields
    exact resolveRecord_throughout wellShaped_invariant table owner fields

def sampleOrders : Shape :=
  .sequence (.optional (.record [
    ⟨none, .named "Base", "", []⟩,
    ⟨some "states", .sequence (.optional (.named "String")), "",
      [⟨"validate", "enum = \"open paid\""⟩]⟩,
    ⟨some "totals", .mapping (.named "String") (.named "Money"), "", []⟩]))

def sampleOrdersNode : SchemaNode :=
  .array {
    allOf := some [.ref "Base", {
      type := some "object"
      properties := some [
        ("states", .array { type := some "string", enumValues := some [.text "open", .text "paid"] }),
        ("totals", { type := some "object", additional := some (.primitive "array" none) })] }] }

theorem resolved_wellShaped_orders :
    (resolve [("Money", ⟨"array", none⟩)] none sampleOrders none).1 = .ok sampleOrdersNode ∧
      sampleOrdersNode.Throughout WellShaped := by
  have found : (resolve [("Money", ⟨"array", none⟩)] none sampleOrders none).1 =
      .ok sampleOrdersNode := rfl
  exact ⟨found, (resolved_wellShaped _).1 none sampleOrders none sampleOrdersNode found⟩

end Resolve

end ApiScribe
