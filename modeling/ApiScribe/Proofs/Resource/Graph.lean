import ApiScribe.Resource.Graph
import ApiScribe.Proofs.Registry.History
import ApiScribe.Proofs.Resource.Reach

set_option autoImplicit false

namespace ApiScribe

open FirstWins

namespace Resource

def view (r : Resource) : String × Option String × String × SchemaNode × List Relation :=
  (r.name, r.customName, r.resourceType, r.attributes.content, r.relations)

theorem same_iff (a b : Resource) : a.same b = true ↔ view a = view b := by
  simp [same, view, SchemaNode.same_iff, and_assoc]

-- A custom name beside the attributes would be that of an envelope, which has none.
def Unnamed (r : Resource) : Prop := r.attributes.names.custom = none

theorem readFields_names {table : ExternalTypes} {owner : String} {draft result : Draft}
    {fields : List (Field × FieldSpec)}
    (read : (readFields table owner draft fields).1 = .ok result) :
    result.attributes.names = draft.attributes.names := by
  -- A field adds a property or a relation to the draft, and neither touches the names.
  fun_induction readFields table owner draft fields with
  | case1 => rw [← Except.ok.inj read]
  | case2 _ _ _ _ _ _ _ _ _ _ _ after _ ih => exact ih (by rw [after]; exact read)
  | case3 _ _ _ _ _ _ _ _ _ _ _ _ _ _ after _ ih => exact ih (by rw [after]; exact read)
  | case4 _ _ _ _ _ _ _ _ _ _ _ after _ ih => exact ih (by rw [after]; exact read)
  | case5 => cases read
  | case6 _ _ _ _ _ _ _ _ _ _ _ _ _ _ _ after _ ih => exact ih (by rw [after]; exact read)
  | case7 _ _ _ _ _ _ ih => exact ih read

inductive Analyzed (name : String) : Except Failure (Option Resource) → Prop
  | passed : Analyzed name (.ok none)
  | failed (fault : ResourceFault) : Analyzed name (.error (.resource name fault))
  | found (resource : Resource) (unnamed : resource.Unnamed) : Analyzed name (.ok (some resource))

theorem analyze_analyzed (table : ExternalTypes) (name : String) (customName : Option String)
    (fields : List (Field × FieldSpec)) :
    Analyzed name (analyze table name customName fields).1 := by
  rw [analyze]
  split
  · exact .passed
  · split
    · exact .failed _
    · split
      · exact .failed _
      · rcases read : readFields table name {} fields with ⟨result, diagnostics⟩
        cases result with
        | error fault => exact .failed fault
        | ok draft =>
          exact .found _ (congrArg SchemaNames.custom (readFields_names (congrArg Prod.fst read)))

end Resource

namespace Registry

theorem registerAll_append (r : Registry) (front back : List (String × Schema)) :
    r.registerAll (front ++ back) = (r.registerAll front).registerAll back :=
  List.foldl_append

theorem get?_register (r : Registry) (name other : String) (schema : Schema) :
    (r.register name schema).get? other =
      (r.get? other).or (if name = other then some (schema.withDeclaredName name) else none) := by
  simp only [register, get?]
  cases found : Dict.get? r.entries name with
  | none =>
    simp only [Dict.get?_insert]
    by_cases same : name = other
    · subst same
      simp [found]
    · simp [same]
  | some present =>
    have unchanged : (if agrees present (schema.withDeclaredName name) || r.conflicts.contains name
        then r else { r with conflicts := r.conflicts ++ [name] }).entries = r.entries := by
      split_ifs <;> rfl
    simp only [unchanged]
    by_cases same : name = other
    · subst same
      simp [found]
    · simp [same]

theorem displayName_register (r : Registry) {name other : String} {schema : Schema}
    (plain : name = other → schema.customName = none) :
    (r.register name schema).displayName other = r.displayName other := by
  rw [displayName, displayName, get?_register]
  cases r.get? other with
  | some present => simp
  | none =>
    by_cases same : name = other
    · simp [same, plain same]
    · simp [same]

theorem displayName_kept (r : Registry) {calls : List (String × Schema)} {name : String}
    (plain : ∀ call ∈ calls, call.1 = name → call.2.customName = none) :
    (r.registerAll calls).displayName name = r.displayName name := by
  induction calls generalizing r with
  | nil => rfl
  | cons call rest ih =>
    rw [List.forall_mem_cons] at plain
    rw [registerAll, List.foldl_cons]
    exact (ih _ plain.2).trans (displayName_register r plain.1)

end Registry

namespace ResourceGraph

def ofList (resources : List Resource) : ResourceGraph :=
  resources.foldl insert {}

def store (g : ResourceGraph) : Store Resource := ⟨g.resources, g.conflicts⟩

def keyed (resources : List Resource) : List (String × Resource) :=
  resources.map fun r => (r.name, r)

theorem store_insert (g : ResourceGraph) (resource : Resource) :
    (g.insert resource).store = g.store.add Resource.same (resource.name, resource) := by
  simp only [insert, store, Store.add]
  cases Dict.get? g.resources resource.name with
  | none => rfl
  | some present =>
    by_cases quiet : (present.same resource || g.conflicts.contains resource.name) = true
    · simp only [if_pos quiet]
      exact (if_pos quiet).symm
    · simp only [if_neg quiet]
      exact (if_neg quiet).symm

theorem ofList_follows (resources : List Resource) :
    (ofList resources).store.Follows Resource.view (keyed resources) := by
  have added (g : ResourceGraph) : (resources.foldl insert g).store =
      g.store.addAll Resource.same (keyed resources) := by
    induction resources generalizing g with
    | nil => rfl
    | cons resource rest ih =>
      rw [List.foldl_cons, ih, store_insert]
      rfl
  have initial : (({} : ResourceGraph).store).Follows Resource.view [] :=
    ⟨by simp [store, Dict.Sorted], fun _ => rfl, by simp [store, Consistent], by simp [store]⟩
  rw [ofList, added]
  exact addAll_follows Resource.same_iff initial _

structure WellFormed (g : ResourceGraph) : Prop where
  sorted : Dict.Sorted g.resources
  named : ∀ name resource, g.get? name = some resource → resource.name = name ∧ resource.Unnamed

theorem ofList_declared {resources : List Resource} {name : String} {resource : Resource}
    (found : (ofList resources).get? name = some resource) :
    resource.name = name ∧ resource ∈ resources := by
  have member := Dict.mem_of_get? (((ofList_follows resources).first name).symm.trans found)
  obtain ⟨r, declared, same⟩ := List.mem_map.mp member
  obtain ⟨rfl, rfl⟩ := Prod.mk.inj same
  exact ⟨rfl, declared⟩

theorem ofList_wellFormed {resources : List Resource}
    (unnamed : ∀ resource ∈ resources, resource.Unnamed) : (ofList resources).WellFormed := by
  refine ⟨(ofList_follows resources).sorted, ?_⟩
  intro name resource found
  obtain ⟨named, declared⟩ := ofList_declared found
  exact ⟨named, unnamed resource declared⟩

theorem WellFormed.of_mem {g : ResourceGraph} (formed : g.WellFormed) {e : String × Resource}
    (member : e ∈ g.resources) : g.get? e.2.name = some e.2 ∧ e.2.Unnamed := by
  have found : g.get? e.1 = some e.2 := Dict.get?_of_mem formed.sorted.nodup member
  obtain ⟨named, unnamed⟩ := formed.named e.1 e.2 found
  exact ⟨by rw [named, found], unnamed⟩

theorem envelopes_congr (g : ResourceGraph) {r r' : Registry}
    (same : ∀ name, g.displayName r' name = g.displayName r name) (resource : Resource)
    (members : List String) :
    g.envelopes r' resource members = g.envelopes r resource members := by
  simp [envelopes, root, includesOf, relationships, same]

theorem relationships_names (g : ResourceGraph) (r : Registry) (resource : Resource) :
    (g.relationships r resource).names = {} ∧ (g.relationships r resource).reference = none := by
  have kept (relations : List Relation) (node : SchemaNode) :
      let result := relations.foldl (fun (node : SchemaNode) r' => node.withProperty r'.name
        (.ref (g.displayName r r'.target ++ identifierSuffix r'.collection))) node
      result.names = node.names ∧ result.reference = node.reference := by
    induction relations generalizing node with
    | nil => exact ⟨rfl, rfl⟩
    | cons relation rest ih => exact ih _
  exact kept resource.relations .object

def declaredTargets (g : ResourceGraph) (resource : Resource) : List String :=
  (resource.relations.filter fun r => Dict.contains g.resources r.target).map Relation.target

theorem mem_declaredTargets_iff (g : ResourceGraph) (resource : Resource) (target : String) :
    target ∈ g.declaredTargets resource ↔
      ∃ other, g.get? target = some other ∧
        ∃ relation ∈ resource.relations, relation.target = target := by
  simp only [declaredTargets, List.mem_map, List.mem_filter, Dict.contains,
    Option.isSome_iff_exists]
  constructor
  · rintro ⟨relation, ⟨listed, other, declared⟩, rfl⟩
    exact ⟨other, declared, relation, listed, rfl⟩
  · rintro ⟨other, declared, relation, listed, rfl⟩
    exact ⟨relation, ⟨listed, other, declared⟩, rfl⟩

theorem members_declared {g : ResourceGraph} {includes : Bool} {resource : Resource} {name : String}
    (member : name ∈ g.members includes resource) : ∃ target, g.get? name = some target := by
  have targets {source target : String} (leads : g.edges.Leads source target) :
      ∃ resource, g.get? target = some resource := by
    rw [Edges.Leads, Edges.targets] at leads
    cases found : Dict.get? g.edges source with
    | none => simp [found] at leads
    | some names =>
      obtain ⟨e, -, same⟩ := List.mem_map.mp (Dict.mem_of_get? found)
      obtain ⟨-, rfl⟩ := Prod.mk.inj same
      rw [found, Option.getD_some] at leads
      obtain ⟨other, declared, -⟩ := (g.mem_declaredTargets_iff e.2 target).mp leads
      exact ⟨other, declared⟩
  rw [members] at member
  split at member
  · obtain ⟨source, -, leads⟩ :=
      Relation.TransGen.tail'_iff.mp ((Edges.mem_reachable_iff _ _ _).mp member)
    exact targets leads
  · simp at member

def allEnvelopes (g : ResourceGraph) (includes : Bool) (r : Registry) : List (String × Schema) :=
  g.resources.flatMap fun e => g.envelopes r e.2 (g.members includes e.2)

-- A name that the envelopes look up in the registry: a relation leads to it, and no resource has it.
def Sought (g : ResourceGraph) (name : String) : Prop :=
  g.get? name = none ∧ ∃ source resource, g.get? source = some resource ∧
    ∃ relation ∈ resource.relations, relation.target = name

-- No relation leads to attributes that are published under a custom name of their own.
def Direct (g : ResourceGraph) : Prop :=
  ∀ name resource, g.get? name = some resource →
    g.Sought (resource.displayName ++ "Attributes") → resource.Unnamed

theorem WellFormed.direct {g : ResourceGraph} (formed : g.WellFormed) : g.Direct :=
  fun name resource declared _ => (formed.named name resource declared).2

theorem envelopes_sought {g : ResourceGraph} {r r' : Registry} {name : String} {resource : Resource}
    (declared : g.get? name = some resource)
    (same : ∀ sought, g.Sought sought → r'.displayName sought = r.displayName sought)
    (includes : Bool) :
    g.envelopes r' resource (g.members includes resource) =
      g.envelopes r resource (g.members includes resource) := by
  have shown (target : String) (asked : (g.get? target).isSome ∨ g.Sought target) :
      g.displayName r' target = g.displayName r target := by
    rw [displayName, displayName]
    cases found : g.get? target with
    | some other => rfl
    | none =>
      rw [found] at asked
      exact same target (asked.resolve_left (by simp))
  have related : g.relationships r' resource = g.relationships r resource := by
    rw [relationships, relationships]
    apply List.foldl_ext
    intro node relation member
    rw [shown relation.target]
    cases found : g.get? relation.target with
    | some other => exact .inl rfl
    | none => exact .inr ⟨found, name, resource, declared, relation, member, rfl⟩
  have included : g.includesOf r' (g.members includes resource) =
      g.includesOf r (g.members includes resource) := by
    have data : (g.members includes resource).map
          (fun m => SchemaNode.ref (g.displayName r' m ++ "Data")) =
        (g.members includes resource).map
          fun m => SchemaNode.ref (g.displayName r m ++ "Data") := by
      apply List.map_congr_left
      intro member listed
      obtain ⟨target, found⟩ := members_declared listed
      rw [shown member (.inl (by simp [found]))]
    rw [includesOf, includesOf, data]
  simp only [envelopes, root, related, included]

theorem envelopes_plain {g : ResourceGraph} (direct : g.Direct) (r : Registry) {resource : Resource}
    (declared : g.get? resource.name = some resource) (members : List String) :
    ∀ call ∈ g.envelopes r resource members, g.Sought call.1 → call.2.customName = none := by
  intro call member sought
  simp only [envelopes, List.mem_cons, List.not_mem_nil, or_false] at member
  rcases member with rfl | rfl | rfl | rfl | rfl | rfl | rfl | rfl
  · exact absurd (sought.1.symm.trans declared) (by simp)
  · rfl
  · rfl
  · rfl
  · rfl
  · rfl
  · exact direct _ _ declared sought
  · exact congrArg SchemaNames.custom (relationships_names g r resource).1

-- As long as the display names that are asked for stay, the envelopes are known beforehand.
theorem registerEnvelopes_steady {g : ResourceGraph} {includes : Bool} {r : Registry}
    (declared : ∀ e ∈ g.resources, g.get? e.2.name = some e.2) (settled : g.conflicts = [])
    (holds : Registry → Prop) (start : holds r)
    (same : ∀ r', holds r' → ∀ name, g.Sought name → r'.displayName name = r.displayName name)
    (step : ∀ r', holds r' → ∀ e ∈ g.resources,
      holds (r'.registerAll (g.envelopes r e.2 (g.members includes e.2)))) :
    g.registerEnvelopes includes r = .ok (r.registerAll (g.allEnvelopes includes r)) := by
  have run (resources : List (String × Resource)) (listed : resources ⊆ g.resources)
      (r' : Registry) (held : holds r') :
      resources.foldl (fun registry e =>
        registry.registerAll (g.envelopes registry e.2 (g.members includes e.2))) r' =
      r'.registerAll
        (resources.flatMap fun e => g.envelopes r e.2 (g.members includes e.2)) := by
    induction resources generalizing r' with
    | nil => rfl
    | cons e rest ih =>
      have here : e ∈ g.resources := listed List.mem_cons_self
      rw [List.foldl_cons, List.flatMap_cons, Registry.registerAll_append,
        envelopes_sought (declared e here) (same r' held),
        ih (fun _ later => listed (List.mem_cons_of_mem _ later)) _ (step r' held e here)]
  rw [registerEnvelopes, settled, allEnvelopes]
  exact congrArg Except.ok (run g.resources (List.Subset.refl _) r start)

theorem registerEnvelopes_direct {g : ResourceGraph}
    (declared : ∀ e ∈ g.resources, g.get? e.2.name = some e.2) (direct : g.Direct)
    (settled : g.conflicts = []) (includes : Bool) (r : Registry) :
    g.registerEnvelopes includes r = .ok (r.registerAll (g.allEnvelopes includes r)) := by
  apply registerEnvelopes_steady declared settled
    (fun r' => ∀ name, g.Sought name → r'.displayName name = r.displayName name)
    (fun _ _ => rfl) (fun _ => id)
  intro r' same e listed name sought
  have plain := envelopes_plain direct r (declared e listed) (g.members includes e.2)
  exact (r'.displayName_kept fun call member here => plain call member (here ▸ sought)).trans
    (same name sought)

theorem registerEnvelopes_eq {g : ResourceGraph} (formed : g.WellFormed)
    (settled : g.conflicts = []) (includes : Bool) (r : Registry) :
    g.registerEnvelopes includes r = .ok (r.registerAll (g.allEnvelopes includes r)) :=
  registerEnvelopes_direct (fun _ member => (formed.of_mem member).1) formed.direct settled includes r

end ResourceGraph

end ApiScribe
