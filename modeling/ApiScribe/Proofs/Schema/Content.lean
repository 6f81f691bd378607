import ApiScribe.Schema
import Mathlib.Data.List.Basic

set_option autoImplicit false

namespace ApiScribe

open Number

def Number.Binary64.canonical (x : Binary64) : Binary64 :=
  if x.isZero then .zero false else x

theorem Number.Binary64.same_iff (x y : Binary64) :
    x.same y = true ↔ x.canonical = y.canonical := by
  have zero_isZero : (Binary64.zero false).isZero = true := rfl
  by_cases left : x.isZero = true <;> by_cases right : y.isZero = true
  · simp [same, canonical, left, right]
  · have different : Binary64.zero false ≠ y := by
      rintro rfl
      exact right zero_isZero
    have unequal : x ≠ y := by
      rintro rfl
      exact right left
    simp [same, canonical, left, right, different, unequal]
  · have different : x ≠ Binary64.zero false := by
      rintro rfl
      exact left zero_isZero
    have unequal : x ≠ y := by
      rintro rfl
      exact left right
    simp [same, canonical, left, right, different, unequal]
  · simp [same, canonical, left, right]

namespace Value

mutual

def canonical : Value → Value
  | .null => .null
  | .bool b => .bool b
  | .int n => .int n
  | .float x => .float x.canonical
  | .text s => .text s
  | .list items => .list (canonicalItems items)
  | .object members => .object (canonicalMembers members)

def canonicalItems : List Value → List Value
  | [] => []
  | x :: xs => canonical x :: canonicalItems xs

def canonicalMembers : List (String × Value) → List (String × Value)
  | [] => []
  | (k, x) :: xs => (k, canonical x) :: canonicalMembers xs

end

mutual

theorem same_iff (a b : Value) : a.same b = true ↔ a.canonical = b.canonical := by
  cases a with
  | list xs =>
    cases b with
    | list ys => simp [same, canonical, sameItems_iff xs ys]
    | _ => simp [same, canonical]
  | object xs =>
    cases b with
    | object ys => simp [same, canonical, sameMembers_iff xs ys]
    | _ => simp [same, canonical]
  | float x => cases b <;> simp [same, canonical, Binary64.same_iff]
  | _ => cases b <;> simp [same, canonical]

theorem sameItems_iff (xs ys : List Value) :
    sameItems xs ys = true ↔ canonicalItems xs = canonicalItems ys := by
  match xs, ys with
  | [], [] => simp [sameItems, canonicalItems]
  | [], _ :: _ => simp [sameItems, canonicalItems]
  | _ :: _, [] => simp [sameItems, canonicalItems]
  | x :: xs, y :: ys => simp [sameItems, canonicalItems, same_iff x y, sameItems_iff xs ys]

theorem sameMembers_iff (xs ys : List (String × Value)) :
    sameMembers xs ys = true ↔ canonicalMembers xs = canonicalMembers ys := by
  match xs, ys with
  | [], [] => simp [sameMembers, canonicalMembers]
  | [], _ :: _ => simp [sameMembers, canonicalMembers]
  | _ :: _, [] => simp [sameMembers, canonicalMembers]
  | (k, x) :: xs, (l, y) :: ys =>
    simp [sameMembers, canonicalMembers, same_iff x y, sameMembers_iff xs ys]

end

end Value

theorem sameOption_iff {α β : Type} (same : α → α → Bool) (view : α → β)
    (kernel : ∀ a b, same a b = true ↔ view a = view b) (a b : Option α) :
    sameOption same a b = true ↔ a.map view = b.map view := by
  cases a <;> cases b <;> simp [sameOption, kernel]

namespace SchemaNode

mutual

/-- The node without names, at any depth, and with canonical values. -/
def content (node : SchemaNode) : SchemaNode :=
  match node with
  | ⟨type, format, nullable, reference, description, items, properties, required, enumValues,
      additional, oneOf, anyOf, allOf, ex, _⟩ =>
    ⟨type, format, nullable, reference, description, contentNode? items,
      contentProperties? properties, required, enumValues.map Value.canonicalItems,
      contentNode? additional, contentMembers? oneOf, contentMembers? anyOf, contentMembers? allOf,
      ex.map Value.canonical, {}⟩

def contentNode? : Option SchemaNode → Option SchemaNode
  | none => none
  | some node => some (content node)

def contentProperties? :
    Option (List (String × SchemaNode)) → Option (List (String × SchemaNode))
  | none => none
  | some properties => some (contentProperties properties)

def contentMembers? : Option (List SchemaNode) → Option (List SchemaNode)
  | none => none
  | some members => some (contentMembers members)

def contentProperties : List (String × SchemaNode) → List (String × SchemaNode)
  | [] => []
  | (name, node) :: rest => (name, content node) :: contentProperties rest

def contentMembers : List SchemaNode → List SchemaNode
  | [] => []
  | node :: rest => content node :: contentMembers rest

end

theorem contentProperties_eq (properties : List (String × SchemaNode)) :
    contentProperties properties = properties.map fun p => (p.1, p.2.content) := by
  induction properties with
  | nil => rfl
  | cons p rest ih => simp [contentProperties, ih]

theorem contentMembers_eq (members : List SchemaNode) :
    contentMembers members = members.map content := by
  induction members with
  | nil => rfl
  | cons node rest ih => simp [contentMembers, ih]

theorem content_eq (node : SchemaNode) : node.content =
    { node with
      items := node.items.map content
      properties := node.properties.map (Dict.mapValues content)
      enumValues := node.enumValues.map Value.canonicalItems
      additional := node.additional.map content
      oneOf := node.oneOf.map (List.map content)
      anyOf := node.anyOf.map (List.map content)
      allOf := node.allOf.map (List.map content)
      example? := node.example?.map Value.canonical
      names := {} } := by
  have one (o : Option SchemaNode) : contentNode? o = o.map content := by
    cases o <;> rfl
  have members (o : Option (List SchemaNode)) : contentMembers? o = o.map (List.map content) := by
    cases o <;> simp [contentMembers?, contentMembers_eq]
  have properties (o : Option (List (String × SchemaNode))) :
      contentProperties? o = o.map (Dict.mapValues content) := by
    cases o <;> simp [contentProperties?, contentProperties_eq, Dict.mapValues]
  cases node
  simp [content, one, members, properties]

mutual

theorem same_iff (a b : SchemaNode) : a.same b = true ↔ a.content = b.content := by
  match a, b with
  | ⟨_, _, _, _, _, items, properties, _, enumValues, additional, oneOf, anyOf, allOf, ex, _⟩,
    ⟨_, _, _, _, _, items', properties', _, enumValues', additional', oneOf', anyOf', allOf', ex',
      _⟩ =>
    -- The names are the only field that neither side looks at.
    simp only [same, content, Bool.and_eq_true, beq_iff_eq, SchemaNode.mk.injEq, and_assoc,
      and_true, sameNode?_iff items items', sameProperties?_iff properties properties',
      sameOption_iff _ _ Value.sameItems_iff, sameNode?_iff additional additional',
      sameMembers?_iff oneOf oneOf', sameMembers?_iff anyOf anyOf', sameMembers?_iff allOf allOf',
      sameOption_iff _ _ Value.same_iff]

theorem sameNode?_iff (a b : Option SchemaNode) :
    sameNode? a b = true ↔ contentNode? a = contentNode? b := by
  match a, b with
  | none, none => simp [sameNode?, contentNode?]
  | none, some _ => simp [sameNode?, contentNode?]
  | some _, none => simp [sameNode?, contentNode?]
  | some a, some b => simp [sameNode?, contentNode?, same_iff a b]

theorem sameProperties?_iff (a b : Option (List (String × SchemaNode))) :
    sameProperties? a b = true ↔ contentProperties? a = contentProperties? b := by
  match a, b with
  | none, none => simp [sameProperties?, contentProperties?]
  | none, some _ => simp [sameProperties?, contentProperties?]
  | some _, none => simp [sameProperties?, contentProperties?]
  | some a, some b => simp [sameProperties?, contentProperties?, sameProperties_iff a b]

theorem sameMembers?_iff (a b : Option (List SchemaNode)) :
    sameMembers? a b = true ↔ contentMembers? a = contentMembers? b := by
  match a, b with
  | none, none => simp [sameMembers?, contentMembers?]
  | none, some _ => simp [sameMembers?, contentMembers?]
  | some _, none => simp [sameMembers?, contentMembers?]
  | some a, some b => simp [sameMembers?, contentMembers?, sameMembers_iff a b]

theorem sameProperties_iff (a b : List (String × SchemaNode)) :
    sameProperties a b = true ↔ contentProperties a = contentProperties b := by
  match a, b with
  | [], [] => simp [sameProperties, contentProperties]
  | [], _ :: _ => simp [sameProperties, contentProperties]
  | _ :: _, [] => simp [sameProperties, contentProperties]
  | (k, a) :: as, (l, b) :: bs =>
    simp [sameProperties, contentProperties, same_iff a b, sameProperties_iff as bs]

theorem sameMembers_iff (a b : List SchemaNode) :
    sameMembers a b = true ↔ contentMembers a = contentMembers b := by
  match a, b with
  | [], [] => simp [sameMembers, contentMembers]
  | [], _ :: _ => simp [sameMembers, contentMembers]
  | _ :: _, [] => simp [sameMembers, contentMembers]
  | a :: as, b :: bs => simp [sameMembers, contentMembers, same_iff a b, sameMembers_iff as bs]

end

mutual

theorem content_mapReferences (f : String → String) (node : SchemaNode) :
    (node.mapReferences f).content = node.content.mapReferences f := by
  match node with
  | ⟨_, _, _, some _, _, _, _, _, _, _, _, _, _, _, _⟩ => simp [mapReferences, content]
  -- Below a reference nothing is turned, so only the other nodes lead on.
  | ⟨_, _, _, none, _, items, properties, _, _, additional, oneOf, anyOf, allOf, _, _⟩ =>
    simp [mapReferences, content, contentNode?_mapNode? f items,
      contentProperties?_mapProperties? f properties, contentNode?_mapNode? f additional,
      contentMembers?_mapMembers? f oneOf, contentMembers?_mapMembers? f anyOf,
      contentMembers?_mapMembers? f allOf]

theorem contentNode?_mapNode? (f : String → String) (node : Option SchemaNode) :
    contentNode? (mapNode? f node) = mapNode? f (contentNode? node) := by
  match node with
  | none => rfl
  | some node => simp [mapNode?, contentNode?, content_mapReferences f node]

theorem contentProperties?_mapProperties? (f : String → String)
    (properties : Option (List (String × SchemaNode))) :
    contentProperties? (mapProperties? f properties) =
      mapProperties? f (contentProperties? properties) := by
  match properties with
  | none => rfl
  | some properties =>
    simp [mapProperties?, contentProperties?, contentProperties_mapProperties f properties]

theorem contentMembers?_mapMembers? (f : String → String) (members : Option (List SchemaNode)) :
    contentMembers? (mapMembers? f members) = mapMembers? f (contentMembers? members) := by
  match members with
  | none => rfl
  | some members => simp [mapMembers?, contentMembers?, contentMembers_mapMembers f members]

theorem contentProperties_mapProperties (f : String → String)
    (properties : List (String × SchemaNode)) :
    contentProperties (mapProperties f properties) =
      mapProperties f (contentProperties properties) := by
  match properties with
  | [] => rfl
  | (name, node) :: rest =>
    simp [mapProperties, contentProperties, content_mapReferences f node,
      contentProperties_mapProperties f rest]

theorem contentMembers_mapMembers (f : String → String) (members : List SchemaNode) :
    contentMembers (mapMembers f members) = mapMembers f (contentMembers members) := by
  match members with
  | [] => rfl
  | node :: rest =>
    simp [mapMembers, contentMembers, content_mapReferences f node,
      contentMembers_mapMembers f rest]

end

mutual

theorem mapReferences_id (node : SchemaNode) : node.mapReferences id = node := by
  match node with
  | ⟨_, _, _, some _, _, _, _, _, _, _, _, _, _, _, _⟩ => rfl
  | ⟨_, _, _, none, _, items, properties, _, _, additional, oneOf, anyOf, allOf, _, _⟩ =>
    simp [mapReferences, mapNode?_id items, mapProperties?_id properties, mapNode?_id additional,
      mapMembers?_id oneOf, mapMembers?_id anyOf, mapMembers?_id allOf]

theorem mapNode?_id (node : Option SchemaNode) : mapNode? id node = node := by
  match node with
  | none => rfl
  | some node => simp [mapNode?, mapReferences_id node]

theorem mapProperties?_id (properties : Option (List (String × SchemaNode))) :
    mapProperties? id properties = properties := by
  match properties with
  | none => rfl
  | some properties => simp [mapProperties?, mapProperties_id properties]

theorem mapMembers?_id (members : Option (List SchemaNode)) : mapMembers? id members = members := by
  match members with
  | none => rfl
  | some members => simp [mapMembers?, mapMembers_id members]

theorem mapProperties_id (properties : List (String × SchemaNode)) :
    mapProperties id properties = properties := by
  match properties with
  | [] => rfl
  | (name, node) :: rest => simp [mapProperties, mapReferences_id node, mapProperties_id rest]

theorem mapMembers_id (members : List SchemaNode) : mapMembers id members = members := by
  match members with
  | [] => rfl
  | node :: rest => simp [mapMembers, mapReferences_id node, mapMembers_id rest]

end

end SchemaNode

namespace Schema

def content : Schema → Schema
  | .composed members _ => .composed (SchemaNode.contentMembers members) {}
  | .plain node => .plain node.content

theorem same_iff (a b : Schema) : a.same b = true ↔ a.content = b.content := by
  cases a <;> cases b <;>
    simp [same, content, SchemaNode.same_iff, SchemaNode.sameMembers_iff]

theorem content_mapReferences (f : String → String) (schema : Schema) :
    (schema.mapReferences f).content = schema.content.mapReferences f := by
  cases schema with
  | composed members names =>
    simp [mapReferences, content, SchemaNode.contentMembers_mapMembers]
  | plain node => simp [mapReferences, content, SchemaNode.content_mapReferences]

theorem mapReferences_id (schema : Schema) : schema.mapReferences id = schema := by
  cases schema with
  | composed members names => simp [mapReferences, SchemaNode.mapMembers_id]
  | plain node => simp [mapReferences, SchemaNode.mapReferences_id]

@[simp] theorem content_withNames (names : SchemaNames) (schema : Schema) :
    (schema.withNames names).content = schema.content := by
  cases schema with
  | composed members _ => rfl
  | plain node =>
    cases node
    simp [withNames, content, SchemaNode.content]

@[simp] theorem content_withDeclaredName (schema : Schema) (name : String) :
    (schema.withDeclaredName name).content = schema.content :=
  content_withNames _ schema

@[simp] theorem customName_withDeclaredName (schema : Schema) (name : String) :
    (schema.withDeclaredName name).customName = schema.customName := by
  cases schema <;> rfl

@[simp] theorem customName_withCustomName (schema : Schema) (name : String) :
    (schema.withCustomName name).customName = some name := by
  cases schema <;> rfl

end Schema

end ApiScribe
