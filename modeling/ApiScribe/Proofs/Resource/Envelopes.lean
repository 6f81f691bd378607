import ApiScribe.Proofs.Resource.Graph
import ApiScribe.Proofs.Schema.References

set_option autoImplicit false

namespace ApiScribe

namespace SchemaNode

def property? (node : SchemaNode) (name : String) : Option SchemaNode :=
  Dict.get? (node.properties.getD []) name

theorem property?_withProperty (node property : SchemaNode) (name other : String) :
    (node.withProperty name property).property? other =
      if name = other then some property else node.property? other :=
  Dict.get?_insert _ _ _ _

theorem references_withNames (node : SchemaNode) (names : SchemaNames) :
    ({ node with names } : SchemaNode).references = node.references := by
  obtain inner | ⟨reference, leaf⟩ := Option.eq_none_or_eq_some node.reference
  · rw [references_of_inner inner]
    exact references_of_inner inner
  · rw [references_of_reference leaf]
    exact references_of_reference leaf

theorem property?_content (node : SchemaNode) (name : String) :
    node.content.property? name = (node.property? name).map content := by
  obtain ⟨_, _, _, _, _, _, properties, _, _, _, _, _, _, _, _⟩ := node
  cases properties with
  | none => simp [content, property?, contentProperties?, Dict.get?]
  | some entries =>
    simp [content, property?, contentProperties?, contentProperties_eq, Dict.get?_map]

theorem property?_mapReferences (f : String → String) {node : SchemaNode}
    (inner : node.reference = none) (name : String) :
    (node.mapReferences f).property? name = (node.property? name).map (mapReferences f) := by
  rw [mapReferences_of_inner f inner]
  cases properties : node.properties with
  | none => simp [property?, properties, Dict.get?]
  | some entries => simp [property?, properties, Dict.get?_map]

@[simp] theorem reference_content (node : SchemaNode) :
    node.content.reference = node.reference := by
  cases node
  simp [content]

end SchemaNode

namespace Schema

def references : Schema → List String
  | .plain node => node.references
  | .composed members _ => members.flatMap SchemaNode.references

theorem references_withCustomName (schema : Schema) (name : String) :
    (schema.withCustomName name).references = schema.references := by
  cases schema with
  | composed members names => rfl
  | plain node => exact node.references_withNames _

theorem mapReferences_congr {f g : String → String} (schema : Schema)
    (same : ∀ reference ∈ schema.references, f reference = g reference) :
    schema.mapReferences f = schema.mapReferences g := by
  cases schema with
  | plain node => exact congrArg Schema.plain (node.mapReferences_congr same)
  | composed members names =>
    simp only [mapReferences, SchemaNode.mapMembers_eq]
    refine congrArg (Schema.composed · names) (List.map_congr_left fun node member => ?_)
    exact node.mapReferences_congr fun reference found =>
      same reference (List.mem_flatMap.mpr ⟨node, member, found⟩)

end Schema

namespace ResourceGraph

open SchemaNode

def suffixes : List String :=
  ["", "Collection", "Data", "Identifier", "IdentifierCollection", "IdentifierData", "Attributes",
    "Relationships"]

theorem references_dataOf {node : SchemaNode} {reference : String}
    (member : reference ∈ (dataOf node).references) : reference ∈ node.references := by
  rw [dataOf, references_withRequired] at member
  simpa using mem_references_withProperty rfl member

theorem references_identifierData (resource : Resource) :
    (identifierData resource).references = [] := by
  rw [List.eq_nil_iff_forall_not_mem]
  intro reference member
  rw [identifierData, references_withRequired] at member
  rcases mem_references_withProperty rfl member with inId | inType
  · simpa using mem_references_withProperty rfl inId
  · simp [references_of_inner, primitive, children] at inType

theorem mem_references_relationships {g : ResourceGraph} {r : Registry} {resource : Resource}
    {reference : String} (member : reference ∈ (g.relationships r resource).references) :
    ∃ relation ∈ resource.relations, reference =
      refPath (g.displayName r relation.target ++ identifierSuffix relation.collection) := by
  have run (relations : List Relation) (node : SchemaNode) (inner : node.reference = none)
      (found : reference ∈ (relations.foldl (fun (node : SchemaNode) r' => node.withProperty r'.name
        (.ref (g.displayName r r'.target ++ identifierSuffix r'.collection))) node).references) :
      reference ∈ node.references ∨ ∃ relation ∈ relations, reference =
        refPath (g.displayName r relation.target ++ identifierSuffix relation.collection) := by
    induction relations generalizing node with
    | nil => exact .inl found
    | cons relation rest ih =>
      have step : (node.withProperty relation.name
          (.ref (g.displayName r relation.target ++ identifierSuffix relation.collection))).reference =
          none := inner
      rcases ih _ step found with here | ⟨other, later, same⟩
      · rcases mem_references_withProperty inner here with before | new
        · exact .inl before
        · exact .inr ⟨relation, List.mem_cons_self, by simpa using new⟩
      · exact .inr ⟨other, List.mem_cons_of_mem _ later, same⟩
  simpa using run resource.relations .object rfl member

theorem mem_references_includesOf {g : ResourceGraph} {r : Registry} {members : List String}
    {reference : String} (member : reference ∈ (g.includesOf r members).references) :
    ∃ m ∈ members, reference = refPath (g.displayName r m ++ "Data") := by
  have outer : (g.includesOf r members).reference = none := rfl
  rw [references_of_inner outer] at member
  obtain ⟨items, below, found⟩ := List.mem_flatMap.mp member
  have only : items = { anyOf := some (members.map fun m => ref (g.displayName r m ++ "Data")) } := by
    simpa [children, includesOf, array] using below
  have inner : items.reference = none := by rw [only]
  rw [references_of_inner inner] at found
  obtain ⟨choice, listed, here⟩ := List.mem_flatMap.mp found
  simp only [only, children, Option.getD_some, Option.getD_none, List.map_nil, Option.toList_none,
    List.append_nil, List.nil_append, List.mem_map] at listed
  obtain ⟨m, isMember, rfl⟩ := listed
  exact ⟨m, isMember, by simpa using here⟩

theorem mem_references_root {g : ResourceGraph} {r : Registry} {resource : Resource}
    {members : List String} {reference : String}
    (member : reference ∈ (g.root r resource members).references) :
    reference = refPath (resource.displayName ++ "Data") ∨
      ∃ m ∈ members, reference = refPath (g.displayName r m ++ "Data") := by
  have plain : reference ∈ (if members.isEmpty then dataOf (.ref (resource.displayName ++ "Data"))
      else (dataOf (.ref (resource.displayName ++ "Data"))).withProperty "includes"
        (g.includesOf r members)).references := by
    rw [root] at member
    cases custom : resource.customName with
    | none =>
      simp only [custom] at member
      exact member
    | some name =>
      simp only [custom, Schema.references_withCustomName] at member
      exact member
  split at plain
  · exact .inl (by simpa using references_dataOf plain)
  · rcases mem_references_withProperty rfl plain with inData | inIncludes
    · exact .inl (by simpa using references_dataOf inData)
    · exact .inr (mem_references_includesOf inIncludes)

-- The references of relations to resources that are not declared. They are as free as those of any
-- other schema.
def loose (g : ResourceGraph) (r : Registry) (resource : Resource) : List String :=
  (resource.relations.filter fun relation => (g.get? relation.target).isNone).map fun relation =>
    refPath (r.displayName relation.target ++ identifierSuffix relation.collection)

def turnOnly (chosen : List String) (turn : String → String) (reference : String) : String :=
  if reference ∈ chosen then turn reference else reference

def Generated (g : ResourceGraph) (key : String) : Prop :=
  ∃ name resource suffix, g.get? name = some resource ∧ suffix ∈ suffixes ∧ suffix ≠ "" ∧
    key = resource.displayName ++ suffix

theorem generated_of_related {g : ResourceGraph} {relation : Relation} {target : Resource}
    (related : g.get? relation.target = some target) :
    g.Generated (target.displayName ++ identifierSuffix relation.collection) := by
  refine ⟨_, target, identifierSuffix relation.collection, related, ?_, ?_, rfl⟩
  · cases relation.collection <;> simp [identifierSuffix, suffixes]
  · cases relation.collection <;> simp [identifierSuffix]

theorem generated_or_loose {g : ResourceGraph} {r : Registry} {resource : Resource}
    {relation : Relation} (member : relation ∈ resource.relations) :
    refPath (g.displayName r relation.target ++ identifierSuffix relation.collection) ∈
        g.loose r resource ∨
      g.Generated (g.displayName r relation.target ++ identifierSuffix relation.collection) := by
  cases declared : g.get? relation.target with
  | none =>
    refine .inl (List.mem_map.mpr ⟨relation, ?_, ?_⟩)
    · exact List.mem_filter.mpr ⟨member, by simp [declared]⟩
    · simp [displayName, declared]
  | some target =>
    right
    rw [displayName, declared]
    exact generated_of_related declared

theorem envelopes_references {g : ResourceGraph} {r : Registry} {resource : Resource}
    {includes : Bool} (declared : g.get? resource.name = some resource)
    {suffix : String} {entry : String × Schema}
    (member : (suffix, entry) ∈ suffixes.zip (g.envelopes r resource (g.members includes resource)))
    (different : suffix ≠ "Attributes") {reference : String}
    (found : reference ∈ entry.2.references) :
    reference ∈ g.loose r resource ∨ ∃ key, g.Generated key ∧ reference = refPath key := by
  have own (suffix : String) (known : suffix ∈ suffixes) (nonempty : suffix ≠ "") :
      g.Generated (resource.displayName ++ suffix) :=
    ⟨_, resource, suffix, declared, known, nonempty, rfl⟩
  have related (inRelations : reference ∈ (g.relationships r resource).references) :
      reference ∈ g.loose r resource ∨ ∃ key, g.Generated key ∧ reference = refPath key := by
    obtain ⟨relation, listed, rfl⟩ := mem_references_relationships inRelations
    exact (generated_or_loose listed).imp_right fun generated => ⟨_, generated, rfl⟩
  simp only [suffixes, envelopes, List.zip_cons_cons, List.zip_nil_right, List.mem_cons,
    Prod.mk.injEq, List.not_mem_nil, or_false] at member
  rcases member with ⟨rfl, rfl⟩ | ⟨rfl, rfl⟩ | ⟨rfl, rfl⟩ | ⟨rfl, rfl⟩ | ⟨rfl, rfl⟩ | ⟨rfl, rfl⟩ |
    ⟨rfl, rfl⟩ | ⟨rfl, rfl⟩
  · rcases mem_references_root found with rfl | ⟨m, listed, rfl⟩
    · exact .inr ⟨_, own "Data" (by simp [suffixes]) (by simp), rfl⟩
    · obtain ⟨target, here⟩ := members_declared listed
      refine .inr ⟨_, ⟨m, target, "Data", here, by simp [suffixes], by simp, ?_⟩, rfl⟩
      simp [displayName, here]
  · have only := references_dataOf found
    rw [references_array, references_ref, List.mem_singleton] at only
    exact .inr ⟨_, own "Data" (by simp [suffixes]) (by simp), only⟩
  · rcases mem_references_withProperty rfl found with inData | inRelations
    · rcases mem_references_withProperty rfl inData with inIdentifier | inAttributes
      · simp [references_identifierData] at inIdentifier
      · rw [references_ref, List.mem_singleton] at inAttributes
        exact .inr ⟨_, own "Attributes" (by simp [suffixes]) (by simp), inAttributes⟩
    · exact related inRelations
  · have only := references_dataOf found
    rw [references_ref, List.mem_singleton] at only
    exact .inr ⟨_, own "IdentifierData" (by simp [suffixes]) (by simp), only⟩
  · have only := references_dataOf found
    rw [references_array, references_ref, List.mem_singleton] at only
    exact .inr ⟨_, own "IdentifierData" (by simp [suffixes]) (by simp), only⟩
  · rw [Schema.references, references_identifierData] at found
    simp at found
  · exact absurd rfl different
  · exact related found

theorem customName_root (g : ResourceGraph) (r : Registry) (resource : Resource)
    (members : List String) : (g.root r resource members).customName = resource.customName := by
  rw [root]
  cases custom : resource.customName with
  | some name => exact Schema.customName_withCustomName _ name
  | none =>
    simp only [Schema.customName, Schema.names]
    split <;> rfl

theorem envelopes_names {g : ResourceGraph} {r : Registry} {resource : Resource}
    (unnamed : resource.Unnamed) {members : List String} {suffix : String}
    {entry : String × Schema}
    (member : (suffix, entry) ∈ suffixes.zip (g.envelopes r resource members)) :
    entry.2.customName.getD entry.1 = resource.displayName ++ suffix ∧
      (suffix ≠ "" → entry.1 = resource.displayName ++ suffix ∧ entry.2.customName = none) := by
  have plain (schema : Schema) (key : String) (none : schema.customName = Option.none) :
      schema.customName.getD key = key ∧ (suffix ≠ "" → key = key ∧ schema.customName = Option.none) := by
    simp [none]
  simp only [suffixes, envelopes, List.zip_cons_cons, List.zip_nil_right, List.mem_cons,
    Prod.mk.injEq, List.not_mem_nil, or_false] at member
  rcases member with ⟨rfl, rfl⟩ | ⟨rfl, rfl⟩ | ⟨rfl, rfl⟩ | ⟨rfl, rfl⟩ | ⟨rfl, rfl⟩ | ⟨rfl, rfl⟩ |
    ⟨rfl, rfl⟩ | ⟨rfl, rfl⟩
  · refine ⟨?_, fun different => absurd rfl different⟩
    rw [customName_root, String.append_empty]
    rfl
  · exact plain _ _ rfl
  · exact plain _ _ rfl
  · exact plain _ _ rfl
  · exact plain _ _ rfl
  · exact plain _ _ rfl
  · exact plain _ _ unnamed
  · exact plain _ _ (congrArg SchemaNames.custom (relationships_names g r resource).1)

theorem exists_envelope (g : ResourceGraph) (r : Registry) (resource : Resource)
    (members : List String) {suffix : String} (known : suffix ∈ suffixes) :
    ∃ entry, (suffix, entry) ∈ suffixes.zip (g.envelopes r resource members) := by
  simp only [suffixes, List.mem_cons, List.not_mem_nil, or_false] at known
  rcases known with rfl | rfl | rfl | rfl | rfl | rfl | rfl | rfl <;>
    simp [suffixes, envelopes]

theorem mem_allEnvelopes {g : ResourceGraph} {includes : Bool} {r : Registry} {name : String}
    {resource : Resource} (declared : g.get? name = some resource) {suffix : String}
    {entry : String × Schema}
    (member : (suffix, entry) ∈ suffixes.zip (g.envelopes r resource (g.members includes resource))) :
    entry ∈ g.allEnvelopes includes r :=
  List.mem_flatMap.mpr ⟨(name, resource), Dict.mem_of_get? declared, (List.of_mem_zip member).2⟩

theorem property?_relationships {g : ResourceGraph} {r : Registry} {resource : Resource}
    {front back : List Relation} {relation : Relation}
    (split : resource.relations = front ++ relation :: back)
    (last : ∀ later ∈ back, later.name ≠ relation.name) :
    (g.relationships r resource).property? relation.name =
      some (.ref (g.displayName r relation.target ++ identifierSuffix relation.collection)) := by
  have kept (relations : List Relation) (others : ∀ other ∈ relations, other.name ≠ relation.name)
      (node : SchemaNode) :
      (relations.foldl (fun (node : SchemaNode) r' => node.withProperty r'.name
        (.ref (g.displayName r r'.target ++ identifierSuffix r'.collection))) node).property?
        relation.name = node.property? relation.name := by
    induction relations generalizing node with
    | nil => rfl
    | cons other rest ih =>
      rw [List.foldl_cons, ih fun later member => others later (List.mem_cons_of_mem _ member),
        property?_withProperty, if_neg (others other List.mem_cons_self)]
  rw [relationships, split, List.foldl_append, List.foldl_cons, kept back last,
    property?_withProperty, if_pos rfl]

def allCalls (g : ResourceGraph) (includes : Bool) (calls : List (String × Schema)) :
    List (String × Schema) :=
  calls ++ g.allEnvelopes includes (Registry.empty.registerAll calls)

theorem registerEnvelopes_allCalls {g : ResourceGraph} (formed : g.WellFormed)
    (settled : g.conflicts = []) (includes : Bool) (calls : List (String × Schema)) :
    g.registerEnvelopes includes (Registry.empty.registerAll calls) =
      .ok (Registry.empty.registerAll (g.allCalls includes calls)) := by
  rw [registerEnvelopes_eq formed settled, allCalls, Registry.registerAll_append]

theorem registerEnvelopes_registerAll {g : ResourceGraph} (formed : g.WellFormed)
    {includes : Bool} {calls : List (String × Schema)} {r : Registry}
    (registered : g.registerEnvelopes includes (Registry.empty.registerAll calls) = .ok r) :
    r = Registry.empty.registerAll (g.allCalls includes calls) := by
  have settled : g.conflicts = [] := by
    rw [registerEnvelopes] at registered
    split at registered
    next => cases registered
    next none => exact none
  rw [registerEnvelopes_allCalls formed settled] at registered
  exact (Except.ok.inj registered).symm

section Published

variable {g : ResourceGraph} {includes : Bool} {calls : List (String × Schema)}
  {published : Dict Schema}

theorem generated_published (formed : g.WellFormed)
    (succeeded : (Registry.empty.registerAll (g.allCalls includes calls)).finalize = .ok published)
    {key : String} (generated : g.Generated key) :
    key ∈ Dict.keys published ∧
      (Registry.empty.registerAll (g.allCalls includes calls)).rename (refPath key) = refPath key := by
  obtain ⟨name, resource, suffix, declared, known, nonempty, rfl⟩ := generated
  obtain ⟨entry, member⟩ := exists_envelope g (Registry.empty.registerAll calls) resource
    (g.members includes resource) known
  obtain ⟨-, plain⟩ := envelopes_names (formed.named name resource declared).2 member
  obtain ⟨same, unnamed⟩ := plain nonempty
  have listed : entry ∈ g.allCalls includes calls :=
    List.mem_append_right _ (mem_allEnvelopes declared member)
  obtain ⟨value, found, -⟩ := Registry.published_of_mem succeeded listed
  -- A generated name is registered by an envelope without a custom name, so it is not renamed.
  have notRenamed := Registry.renamed?_of_mem (Registry.agreeing_of_finalize succeeded) listed
  rw [unnamed, Option.getD_none, same] at found
  rw [unnamed, same] at notRenamed
  refine ⟨(Dict.get?_isSome_iff _ _).mp ⟨value, found⟩, ?_⟩
  rw [Registry.rename]
  cases named : refName? (refPath (resource.displayName ++ suffix)) with
  | none => rfl
  | some other =>
    rw [refName?_refPath named, Option.bind_some, notRenamed]

theorem relationship_published (formed : g.WellFormed)
    (succeeded : (Registry.empty.registerAll (g.allCalls includes calls)).finalize = .ok published)
    {name : String} {resource target : Resource} (declared : g.get? name = some resource)
    {front back : List Relation} {relation : Relation}
    (split : resource.relations = front ++ relation :: back)
    (last : ∀ later ∈ back, later.name ≠ relation.name)
    (related : g.get? relation.target = some target) :
    ∃ value node, Dict.get? published (resource.displayName ++ "Relationships") = some value ∧
      value.toNode.property? relation.name = some node ∧
      node.reference =
        some (refPath (target.displayName ++ identifierSuffix relation.collection)) := by
  let before := Registry.empty.registerAll calls
  let rename := (Registry.empty.registerAll (g.allCalls includes calls)).rename
  obtain ⟨names, inner⟩ := relationships_names g before resource
  have envelope : ("Relationships", resource.displayName ++ "Relationships",
      Schema.plain (g.relationships before resource)) ∈
      suffixes.zip (g.envelopes before resource (g.members includes resource)) := by
    simp [suffixes, envelopes]
  obtain ⟨value, found, same⟩ := Registry.published_of_mem succeeded
    (List.mem_append_right calls (mem_allEnvelopes declared envelope))
  have unnamed : (Schema.plain (g.relationships before resource)).customName = none :=
    congrArg SchemaNames.custom names
  rw [unnamed, Option.getD_none] at found
  rw [Schema.same_iff, Schema.content_mapReferences] at same
  cases value with
  | composed members names => cases same
  | plain node =>
    have content : node.content = ((g.relationships before resource).mapReferences rename).content := by
      rw [content_mapReferences]
      exact Schema.plain.inj same
    have property := congrArg (property? · relation.name) content
    simp only [property?_content, property?_mapReferences rename inner,
      property?_relationships split last, Option.map_some] at property
    obtain ⟨child, here, sameChild⟩ := Option.map_eq_some_iff.mp property
    refine ⟨_, child, found, here, ?_⟩
    have generated : g.Generated (target.displayName ++ identifierSuffix relation.collection) :=
      generated_of_related related
    rw [← reference_content, sameChild, reference_content, reference_mapReferences]
    simp only [ref, displayName, related, Option.map_some]
    exact congrArg some (generated_published formed succeeded generated).2

/-- Where the envelopes are registered and the registry is published, every resource has its own eight
envelopes under its display name. The renaming reaches only the references in its attributes and those
of its relations to undeclared resources. All others lead to a published schema: those to parts of the
resource itself, those of relations to declared resources, of which the last one of a name counts, and
those to the resources that come along. -/
theorem envelopes_published (calls : List (String × Schema)) (resources : List Resource)
    (includes : Bool) {r : Registry}
    (unnamed : ∀ resource ∈ resources, resource.Unnamed)
    (registered : (ofList resources).registerEnvelopes includes
      (Registry.empty.registerAll calls) = .ok r)
    (succeeded : r.finalize = .ok published) {name : String} {resource : Resource}
    (declared : (ofList resources).get? name = some resource) :
    let g := ofList resources
    let before := Registry.empty.registerAll calls
    (∀ suffix entry,
      (suffix, entry) ∈ suffixes.zip (g.envelopes before resource (g.members includes resource)) →
      (∃ value, Dict.get? published (resource.displayName ++ suffix) = some value ∧
        value.same (entry.2.mapReferences (if suffix = "Attributes" then r.rename
          else turnOnly (g.loose before resource) r.rename)) = true) ∧
      (suffix ≠ "Attributes" → ∀ reference ∈ entry.2.references,
        reference ∉ g.loose before resource →
        r.rename reference = reference ∧ ∃ key ∈ Dict.keys published, reference = refPath key)) ∧
    (∀ front relation back target, resource.relations = front ++ relation :: back →
      (∀ later ∈ back, later.name ≠ relation.name) → g.get? relation.target = some target →
      target.displayName ++ identifierSuffix relation.collection ∈ Dict.keys published ∧
      ∃ value node, Dict.get? published (resource.displayName ++ "Relationships") = some value ∧
        value.toNode.property? relation.name = some node ∧
        node.reference =
          some (refPath (target.displayName ++ identifierSuffix relation.collection))) ∧
    ∀ member ∈ g.members includes resource, ∃ target, g.get? member = some target ∧
      target.displayName ++ "Data" ∈ Dict.keys published := by
  intro g before
  have formed : g.WellFormed := ofList_wellFormed unnamed
  obtain rfl : r = Registry.empty.registerAll (g.allCalls includes calls) :=
    registerEnvelopes_registerAll formed registered
  have keyed : resource.name = name := (formed.named name resource declared).1
  -- What is not loose is generated, and that is what the renaming leaves alone.
  have fixed {suffix : String} {entry : String × Schema} (member : (suffix, entry) ∈
      suffixes.zip (g.envelopes before resource (g.members includes resource)))
      (different : suffix ≠ "Attributes") {reference : String}
      (found : reference ∈ entry.2.references) (bound : reference ∉ g.loose before resource) :
      (Registry.empty.registerAll (g.allCalls includes calls)).rename reference = reference ∧
        ∃ key ∈ Dict.keys published, reference = refPath key := by
    obtain free | ⟨key, generated, rfl⟩ :=
      envelopes_references (keyed ▸ declared) member different found
    · exact absurd free bound
    · obtain ⟨present, same⟩ := generated_published formed succeeded generated
      exact ⟨same, key, present, rfl⟩
  refine ⟨?_, ?_, ?_⟩
  · intro suffix entry member
    refine ⟨?_, fun different reference found bound => fixed member different found bound⟩
    obtain ⟨shown, -⟩ := envelopes_names (formed.named name resource declared).2 member
    obtain ⟨value, found, same⟩ := Registry.published_of_mem succeeded
      (List.mem_append_right calls (mem_allEnvelopes declared member))
    refine ⟨value, shown ▸ found, ?_⟩
    split_ifs with attributes
    · exact same
    · rw [Schema.mapReferences_congr entry.2 (g := Registry.rename _)]
      · exact same
      · intro reference here
        by_cases free : reference ∈ g.loose before resource
        · simp [turnOnly, free]
        · simp [turnOnly, free, (fixed member attributes here free).1]
  · intro front relation back target split last related
    refine ⟨?_, relationship_published formed succeeded declared split last related⟩
    exact (generated_published formed succeeded (generated_of_related related)).1
  · intro member listed
    obtain ⟨target, found⟩ := members_declared listed
    exact ⟨target, found, (generated_published formed succeeded
      ⟨member, target, "Data", found, by simp [suffixes], by simp, rfl⟩).1⟩

end Published

def samplePost : Resource :=
  ⟨"Post", some "Article", "posts", SchemaNode.object.withProperty "owner" (.ref "User"),
    [⟨"author", "Post", false⟩, ⟨"author", "User", false⟩, ⟨"readers", "User", true⟩]⟩

def sampleUser : Resource := ⟨"User", some "Account", "users", .object, [⟨"posts", "Post", true⟩]⟩

def sampleKey : String × Schema :=
  ("UserIdentifier", .plain { type := some "string", names := { custom := some "UserKey" } })

theorem envelopes_published_author :
    ∃ r published, (ofList [samplePost, sampleUser]).registerEnvelopes true
        (Registry.empty.registerAll [sampleKey]) = .ok r ∧ r.finalize = .ok published ∧
      "AccountIdentifier" ∈ Dict.keys published ∧
      ∃ value node, Dict.get? published "ArticleRelationships" = some value ∧
        value.toNode.property? "author" = some node ∧
        node.reference = some (refPath "AccountIdentifier") := by
  have succeeds : (((ofList [samplePost, sampleUser]).registerEnvelopes true
      (Registry.empty.registerAll [sampleKey])).bind Registry.finalize).isOk = true := by
    decide +kernel
  have unnamed : ∀ resource ∈ [samplePost, sampleUser], resource.Unnamed := by
    intro resource member
    simp only [List.mem_cons, List.not_mem_nil, or_false] at member
    rcases member with rfl | rfl <;> rfl
  have declared : (ofList [samplePost, sampleUser]).get? "Post" = some samplePost := rfl
  cases registered : (ofList [samplePost, sampleUser]).registerEnvelopes true
      (Registry.empty.registerAll [sampleKey]) with
  | error failure =>
    rw [registered] at succeeds
    cases succeeds
  | ok r =>
    rw [registered] at succeeds
    cases succeeded : r.finalize with
    | error failure =>
      rw [Except.bind, succeeded] at succeeds
      cases succeeds
    | ok published =>
      refine ⟨r, published, rfl, succeeded, ?_⟩
      exact (envelopes_published [sampleKey] [samplePost, sampleUser] true unnamed registered
        succeeded declared).2.1 [⟨"author", "Post", false⟩] ⟨"author", "User", false⟩
        [⟨"readers", "User", true⟩] sampleUser rfl (by simp) rfl

-- The renaming is not confined to the references in the attributes: a relation to an undeclared
-- resource can name a schema that is published under another name, and attributes that have a custom
-- name themselves are published under that.
theorem renaming_not_confined :
    (∃ r published value entry, (ofList [samplePost]).registerEnvelopes true
        (Registry.empty.registerAll [sampleKey]) = .ok r ∧ r.finalize = .ok published ∧
      Dict.get? published (samplePost.displayName ++ "Relationships") = some value ∧
      ("Relationships", entry) ∈ suffixes.zip ((ofList [samplePost]).envelopes
        (Registry.empty.registerAll [sampleKey]) samplePost
        ((ofList [samplePost]).members true samplePost)) ∧
      value.same entry.2 = false) ∧
    ∃ r published, (ofList [{ sampleUser with
          attributes := { SchemaNode.object with names := { custom := some "Details" } } }]
        ).registerEnvelopes true Registry.empty = .ok r ∧ r.finalize = .ok published ∧
      Dict.get? published (sampleUser.displayName ++ "Attributes") = none := by
  constructor
  · refine ⟨_, _, _, (samplePost.displayName ++ "Relationships", .plain ((ofList
      [samplePost]).relationships (Registry.empty.registerAll [sampleKey]) samplePost)),
      rfl, rfl, rfl, ?_, ?_⟩
    · simp [suffixes, envelopes]
    · decide +kernel
  · exact ⟨_, _, rfl, rfl, rfl⟩

end ResourceGraph

end ApiScribe
