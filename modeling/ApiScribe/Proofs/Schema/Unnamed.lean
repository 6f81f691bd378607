import ApiScribe.Proofs.Schema.ReadBack
import ApiScribe.Proofs.Schema.Throughout

set_option autoImplicit false

namespace ApiScribe

open ApiScribe.Tree

namespace SchemaNode

def unnamed (node : SchemaNode) : SchemaNode :=
  { node with
    items := node.items.attach.map fun x => unnamed x.1
    properties := node.properties.attach.map fun d => d.1.attach.map fun e => (e.1.1, unnamed e.1.2)
    additional := node.additional.attach.map fun x => unnamed x.1
    oneOf := node.oneOf.attach.map fun ms => ms.1.attach.map fun m => unnamed m.1
    anyOf := node.anyOf.attach.map fun ms => ms.1.attach.map fun m => unnamed m.1
    allOf := node.allOf.attach.map fun ms => ms.1.attach.map fun m => unnamed m.1
    names := {} }
termination_by sizeOf node
decreasing_by
  all_goals
    apply sizeOf_child_lt
    rw [mem_children]
    grind

theorem unnamed_eq (node : SchemaNode) : node.unnamed =
    { node with
      items := node.items.map unnamed
      properties := node.properties.map (Dict.mapValues unnamed)
      additional := node.additional.map unnamed
      oneOf := node.oneOf.map (List.map unnamed)
      anyOf := node.anyOf.map (List.map unnamed)
      allOf := node.allOf.map (List.map unnamed)
      names := {} } := by
  have entries (d : List (String × SchemaNode)) :
      (d.attach.map fun e => (e.1.1, unnamed e.1.2)) = Dict.mapValues unnamed d := by
    calc (d.attach.map fun e => (e.1.1, unnamed e.1.2))
        = (d.attach.map Subtype.val).map fun e => (e.1, unnamed e.2) := by rw [List.map_map]; rfl
      _ = Dict.mapValues unnamed d := by rw [List.attach_map_subtype_val]; rfl
  rw [unnamed]
  simp [entries]

def under {β : Type} (f : SchemaNode → β) (node : SchemaNode) :
    Option β × Option (List (String × β)) × Option β × Option (List β) × Option (List β) ×
      Option (List β) :=
  (node.items.map f, node.properties.map (Dict.mapValues f), node.additional.map f,
    node.oneOf.map (List.map f), node.anyOf.map (List.map f), node.allOf.map (List.map f))

theorem under_unnamed {β : Type} {f : SchemaNode → β} {node : SchemaNode}
    (same : ∀ child ∈ node.children, f child.unnamed = f child) :
    node.unnamed.under f = node.under f := by
  have one {o : Option SchemaNode} (inside : ∀ x, o = some x → x ∈ node.children) :
      (o.map unnamed).map f = o.map f := by
    cases o with
    | none => rfl
    | some x => simp [same x (inside x rfl)]
  have members {o : Option (List SchemaNode)}
      (inside : ∀ ms, o = some ms → ∀ m ∈ ms, m ∈ node.children) :
      (o.map (List.map unnamed)).map (List.map f) = o.map (List.map f) := by
    cases o with
    | none => rfl
    | some ms => simpa using fun m member => same m (inside ms rfl m member)
  have properties {o : Option (List (String × SchemaNode))}
      (inside : ∀ d, o = some d → ∀ e ∈ d, e.2 ∈ node.children) :
      (o.map (Dict.mapValues unnamed)).map (Dict.mapValues f) = o.map (Dict.mapValues f) := by
    cases o with
    | none => rfl
    | some d =>
      simp only [Option.map_some, Dict.mapValues, List.map_map, Option.some.injEq]
      refine List.map_congr_left fun e member => ?_
      simp [same e.2 (inside d rfl e member)]
  rw [unnamed_eq]
  simp only [under]
  rw [one, properties, one, members, members, members] <;>
    · intros
      rw [mem_children]
      grind

theorem encode_unnamed (node : SchemaNode) : node.unnamed.encode = node.encode := by
  induction node using nested with
  | step node ih =>
    have below := under_unnamed ih
    rw [unnamed_eq] at below ⊢
    simp only [under, Prod.mk.injEq] at below
    obtain ⟨items, properties, additional, oneOf, anyOf, allOf⟩ := below
    have keyed : (node.properties.map (Dict.mapValues unnamed)).map (dictValue encode) =
        node.properties.map (dictValue encode) := by
      have wrapped := congrArg (Option.map Value.object) properties
      simp only [Option.map_map] at wrapped ⊢
      exact wrapped
    have listed {o : Option (List SchemaNode)}
        (equal : (o.map (List.map unnamed)).map (List.map encode) = o.map (List.map encode)) :
        ((o.map (List.map unnamed)).map fun ms => Value.list (ms.map encode)) =
          o.map fun ms => Value.list (ms.map encode) := by
      have wrapped := congrArg (Option.map Value.list) equal
      simp only [Option.map_map] at wrapped ⊢
      exact wrapped
    simp only [encode_eq, slots, items, additional, keyed, listed oneOf, listed anyOf, listed allOf]

theorem content_unnamed (node : SchemaNode) : node.unnamed.content = node.content := by
  induction node using nested with
  | step node ih =>
    have below := under_unnamed ih
    rw [unnamed_eq] at below ⊢
    simp only [under, Prod.mk.injEq] at below
    obtain ⟨items, properties, additional, oneOf, anyOf, allOf⟩ := below
    simp only [content_eq, items, properties, additional, oneOf, anyOf, allOf]

structure Legible (node : SchemaNode) : Prop where
  properties : ∀ d, node.properties = some d → Dict.Sorted d
  enumValues : ∀ vs, node.enumValues = some vs → ∀ v ∈ vs, toValue? (ofValue v) = some v
  example? : ∀ v, node.example? = some v → v ≠ .null ∧ toValue? (ofValue v) = some v

theorem kept_unnamed {p : Bool} {node : SchemaNode} (legible : node.Legible)
    (below : ∀ child ∈ node.children, decode? p (ofValue child.encode) = some child.unnamed) :
    Kept p node.unnamed := by
  have one {o : Option SchemaNode} (inside : ∀ x, o = some x → x ∈ node.children) :
      ∀ x, o.map unnamed = some x → decode? p (ofValue x.encode) = some x := by
    intro x found
    obtain ⟨child, here, rfl⟩ := Option.map_eq_some_iff.mp found
    rw [encode_unnamed]
    exact below child (inside child here)
  have members {o : Option (List SchemaNode)}
      (inside : ∀ ms, o = some ms → ∀ m ∈ ms, m ∈ node.children) :
      ∀ ms, o.map (List.map unnamed) = some ms →
        listOf? (decode? p) (ofValue (.list (ms.map encode))) = some ms := by
    intro ms found
    obtain ⟨others, here, rfl⟩ := Option.map_eq_some_iff.mp found
    have written := listOf?_written fun m member => below m (inside others here m member)
    simpa [Function.comp_def, encode_unnamed] using written
  rw [unnamed_eq]
  refine ⟨one ?_, ?properties, ?enumValues, one ?_, members ?_, members ?_, members ?_,
    legible.example?, rfl⟩
  case properties =>
    intro d found
    obtain ⟨properties, here, rfl⟩ := Option.map_eq_some_iff.mp found
    have inside (e : String × SchemaNode) (member : e ∈ properties) : e.2 ∈ node.children :=
      mem_children.mpr (.inl ⟨properties, here, e, member, rfl⟩)
    have written := dictOf?_written (legible.properties properties here)
      fun e member => below e.2 (inside e member)
    simpa [dictValue, Dict.mapValues, Function.comp_def, encode_unnamed] using written
  case enumValues =>
    intro vs found
    have written : listOf? toValue? (ofValue (.list (vs.map id))) = some (vs.map id) :=
      listOf?_written (legible.enumValues vs found)
    simpa using written
  -- All other parts stand one step under the node.
  all_goals
    intros
    rw [mem_children]
    grind

theorem Throughout.decode?_encode {p : Bool} {node : SchemaNode}
    (legible : node.Throughout Legible) :
    decode? p (ofValue node.encode) = some node.unnamed := by
  induction legible with
  | intro here below ih =>
    rw [← encode_unnamed]
    exact SchemaNode.decode?_encode (kept_unnamed here ih)

theorem Legible.mapReferences {node : SchemaNode} (legible : node.Legible) (f : String → String) :
    (node.mapReferences f).Legible := by
  cases leaf : node.reference with
  | some reference =>
    rw [mapReferences_of_reference f leaf]
    exact { legible with }
  | none =>
    rw [mapReferences_of_inner f leaf]
    refine { legible with properties := ?_ }
    intro d found
    obtain ⟨properties, here, rfl⟩ := Option.map_eq_some_iff.mp found
    exact (legible.properties properties here).map (SchemaNode.mapReferences f)

theorem Throughout.mapReferences {node : SchemaNode} (legible : node.Throughout Legible)
    (f : String → String) : (node.mapReferences f).Throughout Legible := by
  induction legible with
  | @intro node here below ih =>
    refine ⟨here.mapReferences f, ?_⟩
    cases leaf : node.reference with
    | some reference =>
      rw [mapReferences_of_reference f leaf]
      exact below
    | none =>
      intro child member
      obtain ⟨step, found⟩ := (mem_children_iff _ child).mp member
      rw [child?_mapReferences f leaf] at found
      obtain ⟨other, there, rfl⟩ := Option.map_eq_some_iff.mp found
      exact ih other ((mem_children_iff node other).mpr ⟨step, there⟩)

end SchemaNode

namespace Schema

def unnamed : Schema → Schema
  | .composed members _ => .composed (members.map SchemaNode.unnamed) {}
  | .plain node => .plain node.unnamed

theorem content_unnamed (schema : Schema) : schema.unnamed.content = schema.content := by
  cases schema with
  | composed members names =>
    simp [unnamed, content, SchemaNode.contentMembers_eq, Function.comp_def,
      SchemaNode.content_unnamed]
  | plain node => simp [unnamed, content, node.content_unnamed]

def isComposed : Schema → Bool
  | .composed _ _ => true
  | .plain _ => false

theorem isComposed_unnamed (schema : Schema) : schema.unnamed.isComposed = schema.isComposed := by
  cases schema <;> rfl

-- A plain node says more than which members it has.
def Evident : Schema → Prop
  | .composed _ _ => True
  | .plain node => node.type.isSome ∨ node.reference.isSome ∨ node.description.isSome

structure Readable (schema : Schema) : Prop where
  legible : schema.toNode.Throughout SchemaNode.Legible
  evident : schema.Evident

theorem Readable.decode?_encode {schema : Schema} (readable : schema.Readable) :
    decode? (ofValue schema.encode) = some schema.unnamed := by
  obtain ⟨legible, evident⟩ := readable
  cases schema with
  | composed members names =>
    apply decode?_of_composition
    rw [encode_composed]
    refine (composition?_eq_some_iff _ _).mpr ⟨_, .inl rfl, ?_⟩
    refine listOf?_written fun member listed => ?_
    have child : member ∈ (composed members names).toNode.children :=
      SchemaNode.mem_children.mpr (by simpa [toNode] using listed)
    exact (legible.under member child).decode?_encode
  | plain node =>
    have back : SchemaNode.decode? true (ofValue node.encode) = some node.unnamed :=
      SchemaNode.Throughout.decode?_encode legible
    change decode? (ofValue node.encode) = _
    cases opened : composition? (ofValue node.encode) with
    | none =>
      rw [decode?_of_node opened, back]
      rfl
    | some members =>
      -- A node whose value shows a composition has no type, no reference and no description.
      rw [← node.encode_unnamed] at back opened
      have bare := node_of_composition back opened
      rw [SchemaNode.unnamed_eq] at bare
      simp only [toNode, SchemaNode.mk.injEq] at bare
      simp [Evident, bare.1, bare.2.2.2.1, bare.2.2.2.2.1] at evident

theorem Readable.withNames {schema : Schema} (readable : schema.Readable) (names : SchemaNames) :
    (schema.withNames names).Readable := by
  cases schema with
  | composed members others =>
    exact ⟨readable.legible.change rfl fun legible => { legible with }, trivial⟩
  | plain node =>
    exact ⟨readable.legible.change rfl fun legible => { legible with }, readable.evident⟩

theorem toNode_mapReferences (f : String → String) (schema : Schema) :
    (schema.mapReferences f).toNode = schema.toNode.mapReferences f := by
  cases schema with
  | composed members names =>
    simp [mapReferences, toNode, SchemaNode.mapReferences]
  | plain node => rfl

theorem Readable.mapReferences {schema : Schema} (readable : schema.Readable)
    (f : String → String) : (schema.mapReferences f).Readable := by
  constructor
  · rw [toNode_mapReferences]
    exact readable.legible.mapReferences f
  · cases schema with
    | composed members names => trivial
    | plain node =>
      have evident : (plain node).Evident := readable.evident
      cases leaf : node.reference with
      | some reference =>
        exact .inr (.inl (by simp [leaf]))
      | none =>
        simpa [Evident, Schema.mapReferences, SchemaNode.mapReferences_of_inner f leaf] using evident

end Schema

end ApiScribe
