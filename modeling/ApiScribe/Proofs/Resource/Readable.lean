import ApiScribe.Proofs.Resolve.Legible
import ApiScribe.Proofs.Resource.Graph

set_option autoImplicit false

namespace ApiScribe

open SchemaNode Resolve

theorem ref_legible (name : String) : (SchemaNode.ref name).Throughout Legible :=
  .leaf (legible_invariant.ref name) rfl

theorem text_legible : (SchemaNode.primitive "string" none).Throughout Legible :=
  .leaf (legible_invariant.primitive "string" none) rfl

namespace Resource

theorem resolveField_legible {table : ExternalTypes} {owner : String} {field : Field}
    {spec : FieldSpec} {node : SchemaNode} (specified : specOf? field = some spec)
    (found : (resolveField table owner field spec).1 = some node) : node.Throughout Legible :=
  finishField_throughout legible_invariant specified
    (fun _ below => resolve_throughout legible_invariant field.shape none below) found

theorem readFields_objectWith {table : ExternalTypes} {owner : String} {draft result : Draft}
    {fields : List (Field × FieldSpec)} (specified : ∀ f ∈ fields, specOf? f.1 = some f.2)
    (formed : ObjectWith (Throughout Legible) draft.attributes)
    (read : (readFields table owner draft fields).1 = .ok result) :
    ObjectWith (Throughout Legible) result.attributes := by
  fun_induction readFields table owner draft fields with
  | case1 =>
    cases read
    exact formed
  | case2 _ _ _ _ _ _ _ _ _ _ _ after _ ih =>
    exact ih (List.forall_mem_cons.mp specified).2 formed (by rw [after]; exact read)
  | case3 draft field spec rest name omitEmpty _ _ _ node shown next _ _ after resolved ih =>
    rw [List.forall_mem_cons] at specified
    have legible : node.Throughout Legible :=
      resolveField_legible specified.1 (congrArg Prod.fst resolved)
    have shownLegible : shown.Throughout Legible := by
      simp only [shown]
      split
      next => exact legible.change rfl (legible_invariant.nullable _)
      next => exact legible
    exact ih specified.2 (formed.withProperty name shownLegible) (by rw [after]; exact read)
  | case4 _ _ _ _ _ _ _ _ _ _ _ after _ ih =>
    exact ih (List.forall_mem_cons.mp specified).2 formed (by rw [after]; exact read)
  | case5 => cases read
  | case6 _ _ _ _ _ _ _ _ _ _ _ _ _ _ _ after _ ih =>
    exact ih (List.forall_mem_cons.mp specified).2 formed (by rw [after]; exact read)
  | case7 _ _ _ _ _ _ ih => exact ih (List.forall_mem_cons.mp specified).2 formed read

theorem annotated_specified (fields : List Field) :
    ∀ f ∈ annotated fields, specOf? f.1 = some f.2 := by
  intro f member
  obtain ⟨field, -, found⟩ := List.mem_filterMap.mp member
  obtain ⟨spec, specified, rfl⟩ := Option.map_eq_some_iff.mp found
  exact specified

theorem analyze_objectWith {table : ExternalTypes} {name : String} {customName : Option String}
    {fields : List (Field × FieldSpec)} (specified : ∀ f ∈ fields, specOf? f.1 = some f.2)
    {resource : Resource} (found : (analyze table name customName fields).1 = .ok (some resource)) :
    ObjectWith (Throughout Legible) resource.attributes := by
  unfold analyze at found
  split at found
  next => cases found
  next =>
    split at found
    next => cases found
    next =>
      split at found
      next => cases found
      next =>
        rcases read : readFields table name {} fields with ⟨result, diagnostics⟩
        rw [read] at found
        cases result with
        | error fault => cases found
        | ok draft =>
          cases found
          have formed := readFields_objectWith specified objectWith_object (congrArg Prod.fst read)
          exact formed.required _

end Resource

namespace Registry

def Readable (r : Registry) : Prop := ∀ e ∈ r.entries, e.2.Readable

theorem empty_readable : Readable empty := by
  intro e member
  cases List.mem_singleton.mp member
  refine ⟨.leaf ?_ rfl, .inr (.inr rfl)⟩
  exact legible_invariant.described _ legible_invariant.nothing

theorem Readable.register {r : Registry} (readable : r.Readable) (name : String) {schema : Schema}
    (added : schema.Readable) : (r.register name schema).Readable := by
  unfold Registry.register
  dsimp only
  split
  next =>
    intro e member
    rcases Dict.mem_insert member with rfl | earlier
    · exact added.withNames _
    · exact readable e earlier
  next =>
    split
    next => exact readable
    next => exact readable

theorem Readable.registerAll {r : Registry} (readable : r.Readable)
    {schemas : List (String × Schema)} (added : ∀ s ∈ schemas, s.2.Readable) :
    (r.registerAll schemas).Readable := by
  induction schemas generalizing r with
  | nil => exact readable
  | cons s rest ih =>
    rw [List.forall_mem_cons] at added
    exact ih (readable.register s.1 added.1) added.2

theorem Readable.finalize {r : Registry} (readable : r.Readable) {published : Dict Schema}
    (succeeded : r.finalize = .ok published) :
    Dict.Sorted published ∧ ∀ e ∈ published, e.2.Readable := by
  unfold Registry.finalize at succeeded
  split at succeeded
  next => cases succeeded
  next =>
    obtain ⟨sorted, -, -, found⟩ := publishAll_result r r.entries succeeded (by simp [Dict.Sorted])
    refine ⟨sorted, fun e member => ?_⟩
    have here := Dict.get?_of_mem sorted.nodup member
    simp only [found, Dict.get?, Option.or_none] at here
    obtain ⟨entry, registered, same⟩ := List.mem_map.mp (Dict.mem_of_get? here)
    rw [← (Prod.mk.inj same).2, Registry.published]
    split
    next => exact readable entry registered
    next => exact (readable entry registered).mapReferences _

end Registry

namespace ResourceGraph

def Readable (g : ResourceGraph) : Prop :=
  ∀ e ∈ g.resources, ObjectWith (Throughout Legible) e.2.attributes

theorem Readable.insert {g : ResourceGraph} (readable : g.Readable) {resource : Resource}
    (formed : ObjectWith (Throughout Legible) resource.attributes) :
    (g.insert resource).Readable := by
  unfold ResourceGraph.insert
  split
  next =>
    intro e member
    rcases Dict.mem_insert member with rfl | earlier
    · exact formed
    · exact readable e earlier
  next =>
    split
    next => exact readable
    next => exact readable

theorem dataOf_objectWith {node : SchemaNode} (legible : node.Throughout Legible) :
    ObjectWith (Throughout Legible) (dataOf node) :=
  (objectWith_object.withProperty "data" legible).required _

theorem array_legible {items : SchemaNode} (legible : items.Throughout Legible) :
    (SchemaNode.array items).Throughout Legible := by
  refine ⟨by constructor <;> simp [SchemaNode.array], ?_⟩
  simpa using legible

theorem identifierData_objectWith (resource : Resource) :
    ObjectWith (Throughout Legible) (identifierData resource) := by
  have kind : Throughout Legible { SchemaNode.primitive "string" none with
      enumValues := some [.text resource.resourceType] } :=
    text_legible.change rfl (legible_invariant.allowed [resource.resourceType])
  exact ((objectWith_object.withProperty "id" text_legible).withProperty "type" kind).required _

theorem relationships_objectWith (g : ResourceGraph) (registry : Registry) (resource : Resource) :
    ObjectWith (Throughout Legible) (g.relationships registry resource) := by
  unfold relationships
  have fold (relations : List Relation) (node : SchemaNode)
      (formed : ObjectWith (Throughout Legible) node) :
      ObjectWith (Throughout Legible) (relations.foldl (fun (node : SchemaNode) r =>
        node.withProperty r.name
          (.ref (g.displayName registry r.target ++ identifierSuffix r.collection))) node) := by
    induction relations generalizing node with
    | nil => exact formed
    | cons relation rest ih => exact ih _ (formed.withProperty relation.name (ref_legible _))
  exact fold resource.relations .object objectWith_object

theorem includesOf_legible (g : ResourceGraph) (registry : Registry) (members : List String) :
    (g.includesOf registry members).Throughout Legible := by
  have choice : Throughout Legible
      { anyOf := some (members.map fun m => .ref (g.displayName registry m ++ "Data")) } := by
    refine ⟨by constructor <;> simp, ?_⟩
    intro child member
    simp only [children, Option.getD_none, Option.getD_some, Option.toList_none, List.map_nil,
      List.nil_append, List.append_nil, List.mem_map] at member
    obtain ⟨name, -, rfl⟩ := member
    exact ref_legible _
  exact (array_legible choice).change rfl (legible_invariant.nullable _)

theorem root_readable (g : ResourceGraph) (registry : Registry) (resource : Resource)
    (members : List String) : (g.root registry resource members).Readable := by
  have data := dataOf_objectWith (ref_legible (resource.displayName ++ "Data"))
  have node : ObjectWith (Throughout Legible)
      (if members.isEmpty then dataOf (.ref (resource.displayName ++ "Data"))
      else (dataOf (.ref (resource.displayName ++ "Data"))).withProperty "includes"
        (g.includesOf registry members)) := by
    split
    next => exact data
    next => exact data.withProperty "includes" (includesOf_legible g registry members)
  unfold root
  dsimp only
  split
  next => exact (objectWith_readable node).withNames _
  next => exact objectWith_readable node

theorem envelopes_readable (g : ResourceGraph) (registry : Registry) {resource : Resource}
    (formed : ObjectWith (Throughout Legible) resource.attributes) (members : List String) :
    ∀ s ∈ g.envelopes registry resource members, s.2.Readable := by
  have identifier := identifierData_objectWith resource
  have related := relationships_objectWith g registry resource
  have data := (identifier.withProperty "attributes"
    (ref_legible (resource.displayName ++ "Attributes"))).withProperty "relationships"
      (objectWith_throughout legible_invariant related)
  simp only [envelopes, List.forall_mem_cons]
  refine ⟨root_readable g registry resource members, ?_, objectWith_readable data, ?_, ?_,
    objectWith_readable identifier, objectWith_readable formed, objectWith_readable related,
    by simp⟩
  · exact objectWith_readable (dataOf_objectWith (array_legible (ref_legible _)))
  · exact objectWith_readable (dataOf_objectWith (ref_legible _))
  · exact objectWith_readable (dataOf_objectWith (array_legible (ref_legible _)))

theorem Readable.registerEnvelopes {g : ResourceGraph} (readable : g.Readable) {includes : Bool}
    {registry result : Registry} (before : registry.Readable)
    (registered : g.registerEnvelopes includes registry = .ok result) : result.Readable := by
  unfold ResourceGraph.registerEnvelopes at registered
  split at registered
  next => cases registered
  next =>
    cases registered
    have run (resources : List (String × Resource)) (declared : resources ⊆ g.resources)
        (registry : Registry) (before : registry.Readable) :
        Registry.Readable (resources.foldl (fun registry e =>
          registry.registerAll (g.envelopes registry e.2 (g.members includes e.2))) registry) := by
      induction resources generalizing registry with
      | nil => exact before
      | cons e rest ih =>
        have formed := readable e (declared List.mem_cons_self)
        have after := before.registerAll
          (envelopes_readable g registry formed (g.members includes e.2))
        exact ih (fun _ later => declared (List.mem_cons_of_mem _ later)) _ after
    exact run g.resources (List.Subset.refl _) registry before

end ResourceGraph

end ApiScribe
