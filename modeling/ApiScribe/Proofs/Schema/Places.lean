import ApiScribe.Schema
import Mathlib.Data.List.Forall2
import Mathlib.Data.Option.Basic

set_option autoImplicit false

namespace ApiScribe.SchemaNode

@[simp] theorem mapNode?_eq (f : String → String) (node : Option SchemaNode) :
    mapNode? f node = node.map (mapReferences f) := by
  cases node <;> rfl

@[simp] theorem mapMembers_eq (f : String → String) (members : List SchemaNode) :
    mapMembers f members = members.map (mapReferences f) := by
  induction members with
  | nil => rfl
  | cons node rest ih => simp [mapMembers, ih]

@[simp] theorem mapProperties_eq (f : String → String) (properties : List (String × SchemaNode)) :
    mapProperties f properties = properties.map fun p => (p.1, p.2.mapReferences f) := by
  induction properties with
  | nil => rfl
  | cons p rest ih => simp [mapProperties, ih]

@[simp] theorem mapMembers?_eq (f : String → String) (members : Option (List SchemaNode)) :
    mapMembers? f members = members.map (List.map (mapReferences f)) := by
  cases members <;> simp [mapMembers?]

@[simp] theorem mapProperties?_eq (f : String → String)
    (properties : Option (List (String × SchemaNode))) :
    mapProperties? f properties =
      properties.map (List.map fun p => (p.1, p.2.mapReferences f)) := by
  cases properties <;> simp [mapProperties?]

theorem mapReferences_of_reference (f : String → String) {node : SchemaNode} {reference : String}
    (leaf : node.reference = some reference) :
    node.mapReferences f = { node with reference := some (f reference) } := by
  obtain ⟨_, _, _, _, _, _, _, _, _, _, _, _, _, _, _⟩ := node
  subst leaf
  simp [mapReferences]

theorem mapReferences_of_inner (f : String → String) {node : SchemaNode}
    (inner : node.reference = none) :
    node.mapReferences f =
      { node with
        items := node.items.map (mapReferences f)
        properties := node.properties.map (List.map fun p => (p.1, p.2.mapReferences f))
        additional := node.additional.map (mapReferences f)
        oneOf := node.oneOf.map (List.map (mapReferences f))
        anyOf := node.anyOf.map (List.map (mapReferences f))
        allOf := node.allOf.map (List.map (mapReferences f)) } := by
  obtain ⟨_, _, _, _, _, _, _, _, _, _, _, _, _, _, _⟩ := node
  subst inner
  simp [mapReferences]

@[simp] theorem reference_mapReferences (f : String → String) (node : SchemaNode) :
    (node.mapReferences f).reference = node.reference.map f := by
  cases leaf : node.reference with
  | none => simp [mapReferences_of_inner f leaf, leaf]
  | some reference => simp [mapReferences_of_reference f leaf]

inductive Step where
  | property (index : Nat)
  | additional
  | items
  | oneOf (index : Nat)
  | anyOf (index : Nat)
  | allOf (index : Nat)
  deriving DecidableEq, Repr

def child? (node : SchemaNode) : Step → Option SchemaNode
  | .property index => (node.properties.getD [])[index]?.map Prod.snd
  | .additional => node.additional
  | .items => node.items
  | .oneOf index => (node.oneOf.getD [])[index]?
  | .anyOf index => (node.anyOf.getD [])[index]?
  | .allOf index => (node.allOf.getD [])[index]?

def at? (node : SchemaNode) : List Step → Option SchemaNode
  | [] => some node
  | step :: rest => if node.isReference then none else (node.child? step).bind (at? · rest)

-- What a node says itself: only how many nodes it has under it counts, and the names of its
-- properties.
def outline (node : SchemaNode) : SchemaNode :=
  { node with
    items := node.items.map fun _ => {}
    properties := node.properties.map (List.map fun p => (p.1, {}))
    additional := node.additional.map fun _ => {}
    oneOf := node.oneOf.map (List.map fun _ => {})
    anyOf := node.anyOf.map (List.map fun _ => {})
    allOf := node.allOf.map (List.map fun _ => {}) }

/-- The node `b` stands for `a` after the turning of references: a reference is turned and keeps all
else, any other node says what it said. -/
def TurnsTo (f : String → String) (a b : SchemaNode) : Prop :=
  match a.reference with
  | some reference => b = { a with reference := some (f reference) }
  | none => b.outline = a.outline

/-- At every place, the node in `b` stands for the one in `a`, and `b` has no other places. -/
def Turned (f : String → String) (a b : SchemaNode) : Prop :=
  ∀ place, Option.Rel (TurnsTo f) (a.at? place) (b.at? place)

theorem child?_mapReferences (f : String → String) {node : SchemaNode}
    (inner : node.reference = none) (step : Step) :
    (node.mapReferences f).child? step = (node.child? step).map (mapReferences f) := by
  rw [mapReferences_of_inner f inner]
  cases step with
  | property index => cases h : node.properties <;> simp [child?, h, Function.comp_def]
  | additional => simp [child?]
  | items => simp [child?]
  | oneOf index => cases h : node.oneOf <;> simp [child?, h]
  | anyOf index => cases h : node.anyOf <;> simp [child?, h]
  | allOf index => cases h : node.allOf <;> simp [child?, h]

theorem at?_mapReferences (f : String → String) (node : SchemaNode) (place : List Step) :
    (node.mapReferences f).at? place = (node.at? place).map (mapReferences f) := by
  induction place generalizing node with
  | nil => rfl
  | cons step rest ih =>
    cases leaf : node.reference with
    | some reference => simp [at?, isReference, leaf]
    | none =>
      simp only [at?, isReference, reference_mapReferences, leaf, child?_mapReferences f leaf]
      cases node.child? step <;> simp [ih]

theorem turnsTo_mapReferences (f : String → String) (node : SchemaNode) :
    TurnsTo f node (node.mapReferences f) := by
  cases leaf : node.reference with
  | some reference => simp [TurnsTo, leaf, mapReferences_of_reference f leaf]
  | none =>
    simp only [TurnsTo, leaf, mapReferences_of_inner f leaf, outline, Option.map_map, List.map_map,
      Function.comp_def]

theorem turned_mapReferences (f : String → String) (node : SchemaNode) :
    Turned f node (node.mapReferences f) := by
  intro place
  rw [at?_mapReferences]
  cases node.at? place with
  | none => exact .none
  | some node => exact .some (turnsTo_mapReferences f node)

@[simp] theorem walkNode?_eq (node : Option SchemaNode) :
    walkNode? node = node.toList.flatMap walk := by
  cases node <;> simp [walkNode?]

@[simp] theorem walkMembers_eq (members : List SchemaNode) :
    walkMembers members = members.flatMap walk := by
  induction members with
  | nil => rfl
  | cons node rest ih => simp [walkMembers, ih]

@[simp] theorem walkProperties_eq (properties : List (String × SchemaNode)) :
    walkProperties properties = properties.flatMap fun p => p.2.walk := by
  induction properties with
  | nil => rfl
  | cons p rest ih => simp [walkProperties, ih]

@[simp] theorem walkMembers?_eq (members : Option (List SchemaNode)) :
    walkMembers? members = (members.getD []).flatMap walk := by
  cases members <;> simp [walkMembers?]

@[simp] theorem walkProperties?_eq (properties : Option (List (String × SchemaNode))) :
    walkProperties? properties = (properties.getD []).flatMap fun p => p.2.walk := by
  cases properties <;> simp [walkProperties?]

def children (node : SchemaNode) : List SchemaNode :=
  (node.properties.getD []).map Prod.snd ++ node.additional.toList ++ node.items.toList ++
    node.oneOf.getD [] ++ node.anyOf.getD [] ++ node.allOf.getD []

theorem walk_eq (node : SchemaNode) :
    node.walk = node :: if node.isReference then [] else node.children.flatMap walk := by
  cases node
  simp [walk, isReference, children, List.flatMap_map]

theorem mem_children_iff (node child : SchemaNode) :
    child ∈ node.children ↔ ∃ step, node.child? step = some child := by
  simp only [children, List.mem_append, List.mem_map, Option.mem_toList, or_assoc]
  simp only [List.mem_iff_getElem?]
  constructor
  · rintro (⟨p, ⟨index, found⟩, rfl⟩ | found | found | ⟨index, found⟩ | ⟨index, found⟩ |
      ⟨index, found⟩)
    · exact ⟨.property index, by simp [child?, found]⟩
    · exact ⟨.additional, found⟩
    · exact ⟨.items, found⟩
    · exact ⟨.oneOf index, found⟩
    · exact ⟨.anyOf index, found⟩
    · exact ⟨.allOf index, found⟩
  · rintro ⟨step, found⟩
    cases step with
    | property index =>
      obtain ⟨p, here, rfl⟩ := Option.map_eq_some_iff.mp found
      exact .inl ⟨p, ⟨index, here⟩, rfl⟩
    | additional => exact .inr (.inl found)
    | items => exact .inr (.inr (.inl found))
    | oneOf index => exact .inr (.inr (.inr (.inl ⟨index, found⟩)))
    | anyOf index => exact .inr (.inr (.inr (.inr (.inl ⟨index, found⟩))))
    | allOf index => exact .inr (.inr (.inr (.inr (.inr ⟨index, found⟩))))

theorem sizeOf_child_lt {node child : SchemaNode} (member : child ∈ node.children) :
    sizeOf child < sizeOf node := by
  obtain ⟨_, _, _, _, _, items, properties, _, _, additional, oneOf, anyOf, allOf, _, _⟩ := node
  have inOption {o : Option SchemaNode} (found : child ∈ o.toList) : sizeOf child < sizeOf o := by
    cases o <;> simp_all
  have inMembers {o : Option (List SchemaNode)} (found : child ∈ o.getD []) :
      sizeOf child < sizeOf o := by
    cases o with
    | none => simp at found
    | some members =>
      have := List.sizeOf_lt_of_mem (Option.getD_some ▸ found)
      simp
      omega
  have inProperties {o : Option (List (String × SchemaNode))}
      (found : child ∈ (o.getD []).map Prod.snd) : sizeOf child < sizeOf o := by
    obtain ⟨p, here, rfl⟩ := List.mem_map.mp found
    cases o with
    | none => simp at here
    | some properties =>
      have := List.sizeOf_lt_of_mem here
      obtain ⟨_, _⟩ := p
      simp_all
      omega
  simp only [children, List.mem_append, or_assoc] at member
  rcases member with found | found | found | found | found | found
  · have := inProperties found
    simp; omega
  · have := inOption found
    simp; omega
  · have := inOption found
    simp; omega
  all_goals
    have := inMembers found
    simp; omega

theorem mem_walk_iff (node other : SchemaNode) :
    other ∈ node.walk ↔ ∃ place, node.at? place = some other := by
  -- By recursion on the size of the node, which every step makes smaller.
  rw [walk_eq, List.mem_cons]
  constructor
  · rintro (rfl | below)
    · exact ⟨[], rfl⟩
    · by_cases leaf : node.isReference = true
      · simp [leaf] at below
      · simp only [leaf, Bool.false_eq_true, if_false, List.mem_flatMap] at below
        obtain ⟨child, member, deeper⟩ := below
        have smaller := sizeOf_child_lt member
        obtain ⟨step, found⟩ := (mem_children_iff node child).mp member
        obtain ⟨place, here⟩ := (mem_walk_iff child other).mp deeper
        exact ⟨step :: place, by simp [at?, leaf, found, here]⟩
  · rintro ⟨place, found⟩
    cases place with
    | nil => exact .inl (Option.some.inj found).symm
    | cons step rest =>
      by_cases leaf : node.isReference = true
      · simp [at?, leaf] at found
      · simp only [at?, leaf, Bool.false_eq_true, if_false, Option.bind_eq_some_iff] at found
        obtain ⟨child, here, deeper⟩ := found
        have member := (mem_children_iff node child).mpr ⟨step, here⟩
        have smaller := sizeOf_child_lt member
        right
        simp only [leaf, Bool.false_eq_true, if_false, List.mem_flatMap]
        exact ⟨child, member, (mem_walk_iff child other).mpr ⟨rest, deeper⟩⟩
termination_by sizeOf node

theorem Turned.mem_walk {f : String → String} {a b node : SchemaNode} {reference : String}
    (turned : a.Turned f b) (member : node ∈ a.walk) (leaf : node.reference = some reference) :
    { node with reference := some (f reference) } ∈ b.walk := by
  obtain ⟨place, here⟩ := (mem_walk_iff a node).mp member
  have stands := turned place
  rw [here] at stands
  cases there : b.at? place with
  | none =>
    rw [there] at stands
    cases stands
  | some other =>
    rw [there] at stands
    cases stands with
    | some turns =>
      simp only [TurnsTo, leaf] at turns
      exact turns ▸ (mem_walk_iff b other).mpr ⟨place, there⟩

end ApiScribe.SchemaNode

namespace ApiScribe.Schema

def Turned (f : String → String) : Schema → Schema → Prop
  | .plain a, .plain b => a.Turned f b
  | .composed a names, .composed b names' => names' = names ∧ List.Forall₂ (SchemaNode.Turned f) a b
  | _, _ => False

theorem turned_mapReferences (f : String → String) (schema : Schema) :
    Turned f schema (schema.mapReferences f) := by
  cases schema with
  | plain node => exact node.turned_mapReferences f
  | composed members names =>
    refine ⟨rfl, ?_⟩
    rw [SchemaNode.mapMembers_eq]
    induction members with
    | nil => exact .nil
    | cons node rest ih => exact .cons (node.turned_mapReferences f) ih

theorem Turned.mem_walk {f : String → String} {a b : Schema} {node : SchemaNode} {reference : String}
    (turned : a.Turned f b) (member : node ∈ a.walk) (leaf : node.reference = some reference) :
    { node with reference := some (f reference) } ∈ b.walk := by
  cases a with
  | plain a =>
    cases b with
    | plain b => exact SchemaNode.Turned.mem_walk turned member leaf
    | composed others names => exact turned.elim
  | composed members names =>
    cases b with
    | plain b => exact turned.elim
    | composed others names' =>
      obtain ⟨-, each⟩ := turned
      simp only [walk, SchemaNode.walkMembers_eq, List.mem_flatMap] at member ⊢
      obtain ⟨a, listed, here⟩ := member
      induction each with
      | nil => cases listed
      | cons head tail ih =>
        rcases List.mem_cons.mp listed with rfl | later
        · exact ⟨_, List.mem_cons_self, head.mem_walk here leaf⟩
        · obtain ⟨b, below, there⟩ := ih later
          exact ⟨b, List.mem_cons_of_mem _ below, there⟩

end ApiScribe.Schema
