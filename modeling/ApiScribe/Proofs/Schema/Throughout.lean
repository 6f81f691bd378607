import ApiScribe.Proofs.Dict
import ApiScribe.Proofs.Schema.Places

set_option autoImplicit false

namespace ApiScribe.SchemaNode

inductive Throughout (holds : SchemaNode → Prop) : SchemaNode → Prop
  | intro {node : SchemaNode} (here : holds node)
      (below : ∀ child ∈ node.children, Throughout holds child) : Throughout holds node

theorem nested {holds : SchemaNode → Prop}
    (step : ∀ node, (∀ child ∈ node.children, holds child) → holds node) (node : SchemaNode) :
    holds node := by
  apply step
  intro child member
  have smaller := sizeOf_child_lt member
  exact nested step child
termination_by sizeOf node

section Throughout

variable {holds : SchemaNode → Prop} {node : SchemaNode}

theorem Throughout.top (throughout : node.Throughout holds) : holds node := by
  cases throughout with
  | intro here below => exact here

theorem Throughout.under (throughout : node.Throughout holds) :
    ∀ child ∈ node.children, child.Throughout holds := by
  cases throughout with
  | intro here below => exact below

theorem Throughout.leaf (here : holds node) (leaf : node.children = []) :
    node.Throughout holds :=
  ⟨here, by simp [leaf]⟩

theorem Throughout.change (throughout : node.Throughout holds) {other : SchemaNode}
    (same : other.children = node.children) (here : holds node → holds other) :
    other.Throughout holds :=
  ⟨here throughout.top, by rw [same]; exact throughout.under⟩

end Throughout

@[simp] theorem children_array (items : SchemaNode) : (array items).children = [items] := rfl

theorem mem_children {node child : SchemaNode} : child ∈ node.children ↔
    (∃ d, node.properties = some d ∧ ∃ e ∈ d, e.2 = child) ∨ node.additional = some child ∨
      node.items = some child ∨ (∃ ms, node.oneOf = some ms ∧ child ∈ ms) ∨
      (∃ ms, node.anyOf = some ms ∧ child ∈ ms) ∨ ∃ ms, node.allOf = some ms ∧ child ∈ ms := by
  have keyed {o : Option (List (String × SchemaNode))} :
      (∃ e ∈ o.getD [], e.2 = child) ↔ ∃ d, o = some d ∧ ∃ e ∈ d, e.2 = child := by
    cases o <;> simp
  have listed {o : Option (List SchemaNode)} :
      child ∈ o.getD [] ↔ ∃ ms, o = some ms ∧ child ∈ ms := by
    cases o <;> simp
  simp only [children, List.mem_append, List.mem_map, Option.mem_toList, or_assoc, keyed, listed]

theorem mem_children_withItems {node items child : SchemaNode}
    (member : child ∈ children { node with items := some items }) :
    child = items ∨ child ∈ node.children := by
  rw [mem_children] at member ⊢
  grind

-- An object of which nothing is set but properties, in order, and the names of the required ones.
def ObjectWith (holds : SchemaNode → Prop) (node : SchemaNode) : Prop :=
  ∃ properties required, node = { object with properties, required } ∧
    ∀ d, properties = some d → Dict.Sorted d ∧ ∀ e ∈ d, holds e.2

section ObjectWith

variable {holds : SchemaNode → Prop} {node : SchemaNode}

theorem objectWith_object : ObjectWith holds object :=
  ⟨none, none, rfl, by simp⟩

theorem ObjectWith.withProperty (formed : ObjectWith holds node) (name : String)
    {property : SchemaNode} (added : holds property) :
    ObjectWith holds (node.withProperty name property) := by
  obtain ⟨properties, required, rfl, inside⟩ := formed
  refine ⟨some (Dict.insert name property (properties.getD [])), required, rfl, ?_⟩
  have before : Dict.Sorted (properties.getD []) ∧ ∀ e ∈ properties.getD [], holds e.2 := by
    cases properties with
    | none => simp [Dict.Sorted]
    | some d => exact inside d rfl
  intro d same
  cases same
  refine ⟨Dict.insert_sorted before.1 name property, ?_⟩
  intro e member
  rcases Dict.mem_insert member with rfl | earlier
  · exact added
  · exact before.2 e earlier

theorem ObjectWith.required (formed : ObjectWith holds node) (required : Option (List String)) :
    ObjectWith holds { node with required } := by
  obtain ⟨properties, other, rfl, inside⟩ := formed
  exact ⟨properties, required, rfl, inside⟩

theorem ObjectWith.type_eq (formed : ObjectWith holds node) : node.type = some "object" := by
  obtain ⟨properties, required, rfl, inside⟩ := formed
  rfl

theorem ObjectWith.children (formed : ObjectWith holds node) :
    ∀ child ∈ node.children, holds child := by
  obtain ⟨properties, required, rfl, inside⟩ := formed
  intro child member
  cases properties with
  | none => simp [SchemaNode.children, object, primitive] at member
  | some d =>
    simp only [SchemaNode.children, object, primitive, Option.getD_some, Option.toList_none,
      Option.getD_none, List.append_nil, List.mem_map] at member
    obtain ⟨e, here, rfl⟩ := member
    exact (inside d rfl).2 e here

end ObjectWith

end ApiScribe.SchemaNode
