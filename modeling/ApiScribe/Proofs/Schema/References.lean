import ApiScribe.Proofs.Dict
import ApiScribe.Proofs.Schema.Places
import ApiScribe.Proofs.Text.Pieces

set_option autoImplicit false

namespace ApiScribe

open Text

-- The reference has exactly four segments between slashes, the last of which is the name.
def EndsIn (reference name : String) : Prop :=
  name ≠ "" ∧ ∃ a b c, (∀ segment ∈ [a, b, c, name.toList], '/' ∉ segment) ∧
    reference.toList = ['/'].intercalate [a, b, c, name.toList]

theorem refName?_eq_some_iff (reference name : String) :
    refName? reference = some name ↔ EndsIn reference name := by
  unfold refName?
  constructor
  · intro named
    split at named
    next a b c last segments =>
      split at named
      next => cases named
      next nonempty =>
        obtain rfl := Option.some.inj named
        have cut : pieces (· == '/') reference.toList =
            [a.toList, b.toList, c.toList, last.toList] := by
          have texts := congrArg (List.map String.toList) segments
          simpa [splitOnChar, Function.comp_def] using texts
        obtain ⟨-, whole, text⟩ := (pieces_eq_iff '/' _ _).mp cut
        exact ⟨by simpa using nonempty, _, _, _, whole, text⟩
    next => cases named
  · rintro ⟨nonempty, a, b, c, whole, text⟩
    have cut := (pieces_eq_iff '/' _ _).mpr ⟨by simp, whole, text⟩
    simp [splitOnChar, cut, nonempty]

-- Only the component itself can be found in the reference to it. A name with a slash in it is not
-- found.
theorem refName?_refPath {name found : String} (named : refName? (refPath name) = some found) :
    found = name := by
  have segments : splitOnChar '/' (refPath name) =
      "#" :: "components" :: "schemas" ::
        (pieces (· == '/') name.toList).map String.ofList := by
    have characters : (refPath name).toList =
        '#' :: '/' :: 'c' :: 'o' :: 'm' :: 'p' :: 'o' :: 'n' :: 'e' :: 'n' :: 't' :: 's' :: '/' ::
          's' :: 'c' :: 'h' :: 'e' :: 'm' :: 'a' :: 's' :: '/' :: name.toList := by
      rw [refPath, String.toList_append]
      rfl
    rw [splitOnChar, characters]
    simp [pieces]
  rw [refName?, segments] at named
  cases parts : pieces (· == '/') name.toList with
  | nil => exact absurd parts (pieces_ne_nil _ _)
  | cons piece rest =>
    cases rest with
    | nil =>
      rw [parts] at named
      simp only [List.map_cons, List.map_nil] at named
      split at named
      · cases named
      · rw [← Option.some.inj named, eq_of_pieces_eq_singleton parts, String.ofList_toList]
    | cons second others => simp [parts] at named

namespace SchemaNode

def references (node : SchemaNode) : List String := node.walk.filterMap reference

theorem references_of_reference {node : SchemaNode} {reference : String}
    (leaf : node.reference = some reference) : node.references = [reference] := by
  simp [references, walk_eq, isReference, leaf]

theorem references_of_inner {node : SchemaNode} (inner : node.reference = none) :
    node.references = node.children.flatMap references := by
  rw [references, walk_eq, List.filterMap_cons, inner]
  simp only [isReference, inner, Option.isSome_none, Bool.false_eq_true, if_false]
  exact List.filterMap_flatMap

@[simp] theorem references_ref (name : String) : (ref name).references = [refPath name] :=
  references_of_reference rfl

@[simp] theorem references_primitive (type : String) (format : Option String) :
    (primitive type format).references = [] :=
  references_of_inner rfl

@[simp] theorem references_object : object.references = [] :=
  references_primitive _ _

@[simp] theorem references_array (items : SchemaNode) :
    (array items).references = items.references := by
  rw [references_of_inner rfl]
  simp [children, array]

theorem mem_references_withProperty {node property : SchemaNode} {name reference : String}
    (inner : node.reference = none)
    (member : reference ∈ (node.withProperty name property).references) :
    reference ∈ node.references ∨ reference ∈ property.references := by
  have stillInner : (node.withProperty name property).reference = none := inner
  rw [references_of_inner inner]
  rw [references_of_inner stillInner] at member
  obtain ⟨child, below, found⟩ := List.mem_flatMap.mp member
  simp only [children, withProperty, Option.getD_some, List.append_assoc, List.mem_append] at below
  rcases below with inProperties | elsewhere
  · obtain ⟨entry, inserted, rfl⟩ := List.mem_map.mp inProperties
    rcases Dict.mem_insert inserted with rfl | present
    · exact .inr found
    · refine .inl (List.mem_flatMap.mpr ⟨entry.2, ?_, found⟩)
      simp only [children, List.append_assoc, List.mem_append]
      exact .inl (List.mem_map_of_mem present)
  · refine .inl (List.mem_flatMap.mpr ⟨child, ?_, found⟩)
    simp only [children, List.append_assoc, List.mem_append]
    exact .inr elsewhere

@[simp] theorem references_withRequired (node : SchemaNode) (names : List String) :
    (node.withRequired names).references = node.references := by
  cases leaf : node.reference with
  | some reference =>
    rw [references_of_reference leaf]
    exact references_of_reference leaf
  | none =>
    rw [references_of_inner leaf]
    exact references_of_inner leaf

theorem mapReferences_congr {f g : String → String} (node : SchemaNode)
    (same : ∀ reference ∈ node.references, f reference = g reference) :
    node.mapReferences f = node.mapReferences g := by
  cases leaf : node.reference with
  | some reference =>
    rw [mapReferences_of_reference f leaf, mapReferences_of_reference g leaf,
      same reference (by simp [references_of_reference leaf])]
  | none =>
    have below : ∀ child ∈ node.children, child.mapReferences f = child.mapReferences g := by
      intro child member
      have smaller := sizeOf_child_lt member
      apply mapReferences_congr child
      intro reference found
      apply same
      rw [references_of_inner leaf]
      exact List.mem_flatMap.mpr ⟨child, member, found⟩
    have inOption {o : Option SchemaNode} (included : o.toList ⊆ node.children) :
        o.map (mapReferences f) = o.map (mapReferences g) := by
      cases o with
      | none => rfl
      | some child => simp [below child (included (by simp))]
    have inMembers {o : Option (List SchemaNode)} (included : o.getD [] ⊆ node.children) :
        o.map (List.map (mapReferences f)) = o.map (List.map (mapReferences g)) := by
      cases o with
      | none => rfl
      | some members =>
        exact congrArg some (List.map_congr_left fun child member => below child (included member))
    have inProperties : node.properties.map (List.map fun p => (p.1, p.2.mapReferences f)) =
        node.properties.map (List.map fun p => (p.1, p.2.mapReferences g)) := by
      cases properties : node.properties with
      | none => rfl
      | some entries =>
        refine congrArg some (List.map_congr_left fun p member => ?_)
        rw [below p.2 (by simpa [children, properties] using .inl ⟨p.1, member⟩)]
    have parts (child : SchemaNode) : child ∈ node.children ↔
        child ∈ (node.properties.getD []).map Prod.snd ∨ child ∈ node.additional.toList ∨
          child ∈ node.items.toList ∨ child ∈ node.oneOf.getD [] ∨ child ∈ node.anyOf.getD [] ∨
          child ∈ node.allOf.getD [] := by
      simp only [children, List.mem_append, or_assoc]
    rw [mapReferences_of_inner f leaf, mapReferences_of_inner g leaf, inProperties,
      inOption (o := node.additional) fun child here => (parts child).mpr (by tauto),
      inOption (o := node.items) fun child here => (parts child).mpr (by tauto),
      inMembers (o := node.oneOf) fun child here => (parts child).mpr (by tauto),
      inMembers (o := node.anyOf) fun child here => (parts child).mpr (by tauto),
      inMembers (o := node.allOf) fun child here => (parts child).mpr (by tauto)]
termination_by sizeOf node

end SchemaNode

end ApiScribe
