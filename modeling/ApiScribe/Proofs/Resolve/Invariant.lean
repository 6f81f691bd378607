import ApiScribe.Proofs.Schema.Throughout
import ApiScribe.Resolve

set_option autoImplicit false

namespace ApiScribe.Resolve

open SchemaNode

-- A property of a node, whatever stands under it, that no step of resolution destroys.
structure Invariant (holds : SchemaNode → Prop) : Prop where
  nothing : holds {}
  primitive (type : String) (format : Option String) : holds (.primitive type format)
  ref (name : String) : holds (.ref name)
  array (items : SchemaNode) : items.nullable = none → isBinary items = false → holds (.array items)
  mapping (values : SchemaNode) : holds { object with additional := some values }
  object (node : SchemaNode) : ObjectWith (fun _ => True) node → holds node
  composed (members : List SchemaNode) : holds (Schema.composed members {}).toNode
  nullable {node : SchemaNode} (flag : Option Bool) :
    holds node → holds { node with nullable := flag }
  coerced {node : SchemaNode} :
    isCoercible node = true → holds node → holds { node with type := some "string" }
  allowed {node : SchemaNode} (values : List String) :
    holds node → holds { node with enumValues := some (values.map .text) }
  allowedItems {node items : SchemaNode} (values : List String) : node.items = some items →
    holds node →
      holds { node with items := some { items with enumValues := some (values.map .text) } }
  described {node : SchemaNode} (description : Option String) :
    holds node → holds { node with description }
  exemplified {node : SchemaNode} {field : Field} {spec : FieldSpec} {value : Value} :
    specOf? field = some spec → spec.example? = some value → holds node →
      holds { node with example? := some value }

variable {holds : SchemaNode → Prop} (invariant : Invariant holds)

theorem primitiveSchema?_cases {name : String} {node : SchemaNode}
    (found : primitiveSchema? name = some node) :
    ∃ type format, node = SchemaNode.primitive type format := by
  have choice {c : Prop} [Decidable c] {type : String} {format : Option String}
      {others : Option SchemaNode}
      (later : others = some node → ∃ type format, node = SchemaNode.primitive type format)
      (chosen : (if c then some (SchemaNode.primitive type format) else others) = some node) :
      ∃ type format, node = SchemaNode.primitive type format := by
    split at chosen
    · cases chosen
      exact ⟨type, format, rfl⟩
    · exact later chosen
  unfold primitiveSchema? at found
  revert found
  repeat apply choice
  nofun

theorem identifier_cases (table : ExternalTypes) (name : String) (qualifier : Option String) :
    (∃ type format, identifier table name qualifier = SchemaNode.primitive type format) ∨
      identifier table name qualifier = .ref name := by
  rw [identifier]
  split
  next external _ => exact .inl ⟨external.type, external.format, rfl⟩
  next =>
    cases found : primitiveSchema? name with
    | none => exact .inr rfl
    | some node => exact .inl (primitiveSchema?_cases found)

theorem map_eq_ok {ε α β : Type} {result : Except ε α} {f : α → β} {b : β}
    (found : result.map f = .ok b) : ∃ a, result = .ok a ∧ b = f a := by
  cases result with
  | error e => cases found
  | ok a =>
    cases found
    exact ⟨a, rfl, rfl⟩

theorem mappingOf_ok {key value : Shape} {keyed valued : Outcome (Except ResolveError SchemaNode)}
    {node : SchemaNode} (found : (mappingOf key value keyed valued).1 = .ok node) :
    ∃ values, node = { object with additional := some values } ∧
      (values = {} ∨ valued.1 = .ok values) := by
  unfold mappingOf at found
  split at found
  next => cases found
  next =>
    split_ifs at found
    split at found
    next =>
      cases found
      exact ⟨{}, rfl, .inl rfl⟩
    next =>
      obtain ⟨values, result, rfl⟩ := map_eq_ok found
      exact ⟨values, rfl, .inr result⟩

theorem specOf?_ofField {field : Field} {spec : FieldSpec} (specified : specOf? field = some spec) :
    FieldSpec.ofField field = .ok spec := by
  rw [specOf?] at specified
  split at specified
  next read ok =>
    split_ifs at specified
    cases specified
    exact ok
  next => cases specified

section Shapes

variable {table : ExternalTypes} {scope qualifier : Option String} {node : SchemaNode}

theorem resolve_optional {inner : Shape}
    (found : (resolve table scope (.optional inner) qualifier).1 = .ok node) :
    ∃ inside, (resolve table scope inner qualifier).1 = .ok inside ∧
      node = { inside with nullable := some true } :=
  map_eq_ok found

theorem resolve_sequence {element : Shape}
    (found : (resolve table scope (.sequence element) qualifier).1 = .ok node) :
    node = binary ∨ ∃ inside, (resolve table scope element qualifier).1 = .ok inside ∧
      node = sequenceOf inside := by
  have outer : resolve table scope (.sequence element) qualifier =
      if isByte element then (.ok binary, [])
      else
        let below := resolve table scope element qualifier
        (below.1.map sequenceOf, below.2) := rfl
  rw [outer] at found
  split_ifs at found
  · cases found
    exact .inl rfl
  · exact .inr (map_eq_ok found)

end Shapes

include invariant

theorem identifier_throughout (table : ExternalTypes) (name : String) (qualifier : Option String) :
    (identifier table name qualifier).Throughout holds := by
  rcases identifier_cases table name qualifier with ⟨type, format, same⟩ | same
  · rw [same]
    exact .leaf (invariant.primitive type format) rfl
  · rw [same]
    exact .leaf (invariant.ref name) rfl

theorem sequenceOf_throughout {items : SchemaNode} (inside : items.Throughout holds) :
    (sequenceOf items).Throughout holds := by
  rw [sequenceOf]
  split
  next => exact .leaf (invariant.primitive "string" (some "binary")) rfl
  next other =>
    have element : Throughout holds { items with nullable := none } :=
      inside.change rfl (invariant.nullable none)
    have notBinary : isBinary items = false := by simpa using other
    refine ⟨invariant.array _ rfl notBinary, ?_⟩
    simpa using element

theorem mapping_throughout {values : SchemaNode} (inside : values.Throughout holds) :
    Throughout holds { object with additional := some values } := by
  refine ⟨invariant.mapping values, ?_⟩
  simpa [children, object, SchemaNode.primitive] using inside

theorem restrict_throughout (values : List String) {node : SchemaNode}
    (throughout : node.Throughout holds) : (restrict values node).Throughout holds := by
  rw [restrict]
  split
  next items found =>
    refine ⟨invariant.allowedItems values found throughout.top, ?_⟩
    intro child member
    rcases mem_children_withItems member with rfl | other
    · have before := throughout.under items (mem_children.mpr (by simp [found]))
      exact before.change rfl (invariant.allowed values)
    · exact throughout.under child other
  next => exact throughout.change rfl (invariant.allowed values)

theorem refine_throughout {field : Field} {spec : FieldSpec} (specified : specOf? field = some spec)
    {node : SchemaNode} (throughout : node.Throughout holds) :
    (refine spec node).Throughout holds := by
  have restricted : Throughout holds
      (if spec.enumValues.isEmpty then node else restrict spec.enumValues node) := by
    split
    · exact throughout
    · exact restrict_throughout invariant spec.enumValues throughout
  rw [refine]
  generalize (if spec.enumValues.isEmpty then node else restrict spec.enumValues node) = inner
    at restricted ⊢
  refine restricted.change rfl fun here => ?_
  have marked : holds { inner with
      nullable := if spec.nullable then some true else inner.nullable
      description := spec.description.or inner.description } :=
    invariant.described _ (invariant.nullable _ here)
  cases example? : spec.example? with
  | none => exact marked
  | some value => exact invariant.exemplified specified example? marked

theorem finishField_throughout {owner : String} {field : Field} {spec : FieldSpec}
    (specified : specOf? field = some spec)
    {resolved : Outcome (Except ResolveError SchemaNode)} {node : SchemaNode}
    (inside : ∀ inner, resolved.1 = .ok inner → inner.Throughout holds)
    (found : (finishField owner field spec resolved).1 = some node) : node.Throughout holds := by
  unfold finishField at found
  dsimp only at found
  split at found
  next => cases found
  next inner result =>
    split_ifs at found with coerced coercible
    · cases found
      apply refine_throughout invariant specified
      exact (inside inner result).change rfl (invariant.coerced coercible)
    · cases found
      exact refine_throughout invariant specified (inside inner result)

omit invariant in
theorem objectOf_objectWith {good : SchemaNode → Prop} {kept : List Kept}
    (each : ∀ k ∈ kept, good k.node) : ObjectWith good (objectOf kept) := by
  have fold (node : SchemaNode) (formed : ObjectWith good node) :
      ObjectWith good (kept.foldl addProperty node) := by
    induction kept generalizing node with
    | nil => exact formed
    | cons k rest ih =>
      rw [List.forall_mem_cons] at each
      apply ih each.2
      rw [addProperty]
      split
      next name _ => exact formed.withProperty name each.1
      next => exact formed
  exact (fold object objectWith_object).required _

theorem objectWith_throughout {node : SchemaNode} (formed : ObjectWith (Throughout holds) node) :
    node.Throughout holds := by
  refine ⟨invariant.object node ?_, formed.children⟩
  obtain ⟨properties, required, same, inside⟩ := formed
  exact ⟨properties, required, same, fun d here => ⟨(inside d here).1, fun _ _ => trivial⟩⟩

theorem assemble_throughout {kept : List Kept} (each : ∀ k ∈ kept, k.node.Throughout holds) :
    (assemble kept).toNode.Throughout holds := by
  have object := objectWith_throughout invariant (objectOf_objectWith each)
  rw [assemble]
  split
  next => exact object
  next =>
    refine ⟨invariant.composed _, ?_⟩
    intro child member
    simp only [Schema.toNode, children, Option.getD_none, Option.getD_some, Option.toList_none,
      List.map_nil, List.nil_append, List.mem_append, List.mem_singleton] at member
    rcases member with embedded | rfl
    · obtain ⟨k, listed, rfl⟩ := List.mem_map.mp embedded
      exact each k (List.mem_of_mem_filter listed)
    · exact object

mutual

theorem resolve_throughout {table : ExternalTypes} {scope : Option String} {node : SchemaNode}
    (shape : Shape) (qualifier : Option String)
    (found : (resolve table scope shape qualifier).1 = .ok node) : node.Throughout holds := by
  match shape with
  | .named name =>
    cases found
    exact identifier_throughout invariant table name qualifier
  | .optional inner =>
    obtain ⟨inside, below, rfl⟩ := resolve_optional found
    exact (resolve_throughout inner qualifier below).change rfl (invariant.nullable _)
  | .sequence element =>
    rcases resolve_sequence found with rfl | ⟨inside, below, rfl⟩
    · exact .leaf (invariant.primitive "string" (some "binary")) rfl
    · exact sequenceOf_throughout invariant (resolve_throughout element qualifier below)
  | .mapping key value =>
    obtain ⟨values, rfl, rfl | below⟩ := mappingOf_ok found
    · exact mapping_throughout invariant (.leaf invariant.nothing rfl)
    · exact mapping_throughout invariant (resolve_throughout value none below)
  | .qualified path inner => exact resolve_throughout inner (some path) found
  | .record fields =>
    cases found
    exact assemble_throughout invariant (keepFields_throughout fields)
  | .enumeration variants =>
    cases found
    exact .leaf (invariant.allowed variants (invariant.primitive "string" none)) rfl
  | .dynamic =>
    cases found
    exact .leaf (invariant.ref Schema.anyValueName) rfl
  | .unsupported what => cases found

theorem keepFields_throughout {table : ExternalTypes} {owner : String} (fields : List Field) :
    ∀ k ∈ (keepFields table owner fields).1, k.node.Throughout holds := by
  match fields with
  | [] => exact fun k member => nomatch member
  | ⟨name, shape, doc, attributes⟩ :: rest =>
    have others : ∀ k ∈ (keepFields table owner rest).1, k.node.Throughout holds :=
      keepFields_throughout rest
    rw [keepFields]
    dsimp only
    split
    next => exact others
    next spec specified =>
      split
      next => exact others
      next node finished =>
        rw [List.forall_mem_cons]
        refine ⟨?_, others⟩
        apply finishField_throughout invariant specified _ finished
        exact fun inner below => resolve_throughout shape none below

end

theorem resolveRecord_throughout (table : ExternalTypes) (owner : String) (fields : List Field) :
    (resolveRecord table owner fields).1.toNode.Throughout holds :=
  assemble_throughout invariant (keepFields_throughout invariant fields)

end ApiScribe.Resolve
