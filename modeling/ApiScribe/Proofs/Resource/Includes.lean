import ApiScribe.Proofs.Resource.Envelopes

set_option autoImplicit false

namespace ApiScribe

namespace Registry

-- Which schemas stand under the names may differ, but not under which names they are published.
def SameNames (a b : Registry) : Prop :=
  ∀ name, (a.get? name).map Schema.customName = (b.get? name).map Schema.customName

theorem SameNames.displayName {a b : Registry} (same : a.SameNames b) (name : String) :
    a.displayName name = b.displayName name := by
  have custom (r : Registry) : (r.get? name).bind Schema.customName =
      ((r.get? name).map Schema.customName).join := by
    cases r.get? name <;> rfl
  rw [Registry.displayName, Registry.displayName, custom a, custom b, same name]

theorem SameNames.register {a b : Registry} (same : a.SameNames b) (name : String)
    {schema other : Schema} (alike : schema.customName = other.customName) :
    (a.register name schema).SameNames (b.register name other) := by
  intro asked
  rw [get?_register, get?_register, Option.map_or, Option.map_or, same asked]
  by_cases here : name = asked <;> simp [here, alike]

theorem SameNames.registerAll {a b : Registry} (same : a.SameNames b)
    {calls others : List (String × Schema)}
    (alike : calls.map (fun call => (call.1, call.2.customName)) =
      others.map fun call => (call.1, call.2.customName)) :
    (a.registerAll calls).SameNames (b.registerAll others) := by
  induction calls generalizing a b others with
  | nil =>
    obtain rfl : others = [] := by simpa using alike.symm
    exact same
  | cons call rest ih =>
    cases others with
    | nil => simp at alike
    | cons other others =>
      obtain ⟨name, schema⟩ := call
      obtain ⟨name', schema'⟩ := other
      simp only [List.map_cons, List.cons.injEq, Prod.mk.injEq] at alike
      obtain ⟨⟨rfl, custom⟩, alike⟩ := alike
      exact ih (same.register name custom) alike

end Registry

namespace ResourceGraph

def handed (g : ResourceGraph) (includes : Bool) :
    Registry → List (String × Resource) → List (String × Schema)
  | _, [] => []
  | registry, e :: rest =>
    let envelopes := g.envelopes registry e.2 (g.members includes e.2)
    envelopes ++ g.handed includes (registry.registerAll envelopes) rest

theorem registerEnvelopes_handed {g : ResourceGraph} (settled : g.conflicts = []) (includes : Bool)
    (r : Registry) :
    g.registerEnvelopes includes r = .ok (r.registerAll (g.handed includes r g.resources)) := by
  have run (resources : List (String × Resource)) (r : Registry) :
      resources.foldl (fun registry e =>
        registry.registerAll (g.envelopes registry e.2 (g.members includes e.2))) r =
      r.registerAll (g.handed includes r resources) := by
    induction resources generalizing r with
    | nil => rfl
    | cons e rest ih => rw [List.foldl_cons, ih, handed, Registry.registerAll_append]
  rw [registerEnvelopes, settled]
  exact congrArg Except.ok (run g.resources r)

def Related (g : ResourceGraph) (source target : String) : Prop :=
  ∃ resource other, g.get? source = some resource ∧ g.get? target = some other ∧
    ∃ relation ∈ resource.relations, relation.target = target

theorem leads_iff (resources : List Resource) (source target : String) :
    (ofList resources).edges.Leads source target ↔ (ofList resources).Related source target := by
  have keyed : (ofList resources).edges =
      (ofList resources).resources.map fun e => (e.1, (ofList resources).declaredTargets e.2) := by
    apply List.map_congr_left
    intro e member
    have found : (ofList resources).get? e.1 = some e.2 :=
      Dict.get?_of_mem (ofList_follows resources).sorted.nodup member
    rw [(ofList_declared found).1, declaredTargets]
  rw [Edges.Leads, Edges.targets, keyed, Dict.get?_map]
  constructor
  · intro leads
    cases found : Dict.get? (ofList resources).resources source with
    | none => simp [found] at leads
    | some resource =>
      rw [found, Option.map_some, Option.getD_some, mem_declaredTargets_iff] at leads
      obtain ⟨other, related⟩ := leads
      exact ⟨resource, other, found, related⟩
  · rintro ⟨resource, other, found, related⟩
    change Dict.get? (ofList resources).resources source = some resource at found
    rw [found, Option.map_some, Option.getD_some, mem_declaredTargets_iff]
    exact ⟨other, related⟩

def companions (g : ResourceGraph) (resource : Resource) : List Resource :=
  (g.members true resource).filterMap g.get?

theorem mem_companions_iff (resources : List Resource) (resource other : Resource) :
    other ∈ (ofList resources).companions resource ↔
      (ofList resources).get? other.name = some other ∧
        Relation.TransGen (ofList resources).Related resource.name other.name := by
  have related : (ofList resources).edges.Leads = (ofList resources).Related := by
    funext source target
    exact propext (leads_iff resources source target)
  simp only [companions, List.mem_filterMap, members, if_true, Edges.mem_reachable_iff, related]
  constructor
  · rintro ⟨name, path, found⟩
    obtain rfl := (ofList_declared found).1
    exact ⟨found, path⟩
  · rintro ⟨found, path⟩
    exact ⟨other.name, path, found⟩

theorem companions_ordered (resources : List Resource) (resource : Resource) :
    ((ofList resources).companions resource).Pairwise fun a b => a.name < b.name := by
  have ordered : ((ofList resources).members true resource).Pairwise (· < ·) :=
    Edges.reachable_ordered _ _
  rw [companions, List.pairwise_filterMap]
  apply ordered.imp
  intro name later less a here b there
  rw [(ofList_declared here).1, (ofList_declared there).1]
  exact less

def listOf (choices : List SchemaNode) : SchemaNode :=
  { SchemaNode.array { anyOf := some choices } with nullable := some true }

def inclusion (resources : List Resource) : Option SchemaNode :=
  if resources.isEmpty then none
  else some (listOf (resources.map fun r => .ref (r.displayName ++ "Data")))

def rooted (resource : Resource) (includes : Option SchemaNode) : Schema :=
  let node := dataOf (.ref (resource.displayName ++ "Data"))
  .plain { includes.elim node (node.withProperty "includes") with
    names := { custom := resource.customName } }

theorem property?_rooted (resource : Resource) (includes : Option SchemaNode) :
    (rooted resource includes).toNode.property? "includes" = includes := by
  cases includes with
  | none => rfl
  | some property => exact (SchemaNode.property?_withProperty _ _ _ _).trans (if_pos rfl)

theorem root_eq (g : ResourceGraph) (r : Registry) (resource : Resource) (members : List String) :
    g.root r resource members =
      rooted resource (if members.isEmpty then none else some (g.includesOf r members)) := by
  obtain ⟨name, custom, kind, attributes, relations⟩ := resource
  cases custom <;> cases members <;> rfl

theorem inclusion_declared {g : ResourceGraph} (r : Registry) {names : List String}
    (declared : ∀ name ∈ names, ∃ resource, g.get? name = some resource) :
    (if names.isEmpty then none else some (g.includesOf r names)) =
      inclusion (names.filterMap g.get?) := by
  have shown : names.map (g.displayName r) = (names.filterMap g.get?).map Resource.displayName := by
    induction names with
    | nil => rfl
    | cons name rest ih =>
      obtain ⟨⟨resource, found⟩, declared⟩ := List.forall_mem_cons.mp declared
      rw [List.map_cons, List.filterMap_cons_some found, List.map_cons, ih declared, displayName,
        found]
  have empty : names.isEmpty = (names.filterMap g.get?).isEmpty := by
    simpa only [List.isEmpty_map] using congrArg List.isEmpty shown
  have data := congrArg (List.map fun name => SchemaNode.ref (name ++ "Data")) shown
  rw [List.map_map, List.map_map] at data
  have listed : g.includesOf r names = listOf _ := congrArg listOf data
  rw [inclusion, empty, listed]
  rfl

theorem root_members (g : ResourceGraph) (r : Registry) (resource : Resource) (includes : Bool) :
    g.root r resource (g.members includes resource) =
      rooted resource (if includes then inclusion (g.companions resource) else none) := by
  rw [root_eq]
  cases includes with
  | false => rfl
  | true => exact congrArg _ (inclusion_declared r fun name member => members_declared member)

theorem envelopes_cons (g : ResourceGraph) (r : Registry) (resource : Resource) (includes : Bool) :
    g.envelopes r resource (g.members includes resource) =
      (resource.name, rooted resource (if includes then inclusion (g.companions resource) else none))
        :: (g.envelopes r resource []).tail := by
  rw [← g.root_members r]
  rfl

theorem handed_parts (g : ResourceGraph) (r : Registry) (resources : List (String × Resource)) :
    ∃ parts : List (Resource × List (String × Schema)),
      parts.map Prod.fst = resources.map Prod.snd ∧
      (∀ part ∈ parts, part.2.map Prod.fst = suffixes.tail.map (part.1.displayName ++ ·)) ∧
      ∀ includes other, r.SameNames other →
        g.handed includes other resources = parts.flatMap fun part =>
          (part.1.name, rooted part.1 (if includes then inclusion (g.companions part.1) else none))
            :: part.2 := by
  induction resources generalizing r with
  | nil => exact ⟨[], rfl, by simp, fun _ _ _ => rfl⟩
  | cons e rest ih =>
    obtain ⟨parts, order, named, later⟩ :=
      ih (r.registerAll (g.envelopes r e.2 (g.members false e.2)))
    refine ⟨(e.2, (g.envelopes r e.2 []).tail) :: parts, by simp [order], ?_, ?_⟩
    · exact List.forall_mem_cons.mpr ⟨rfl, named⟩
    · intro includes other same
      have made : g.envelopes other e.2 (g.members includes e.2) =
          g.envelopes r e.2 (g.members includes e.2) := by
        apply envelopes_congr
        intro name
        simp only [displayName, same.displayName]
      have registered : (r.registerAll (g.envelopes r e.2 (g.members false e.2))).SameNames
          (other.registerAll (g.envelopes r e.2 (g.members includes e.2))) := by
        apply same.registerAll
        rw [envelopes_cons, envelopes_cons]
        rfl
      rw [handed, made, later includes _ registered, envelopes_cons]
      rfl

/-- With and without the lists of resources that come along, the same schemas are registered in the
same order, except that the root of a resource has the property `includes` only with them, and only if
a chain of relations between declared resources starts at it. The property then refers to the data of
the resources at the ends of such chains, each of them once and in the order of their names. -/
theorem includes_outcome (resources : List Resource)
    (settled : (ofList resources).conflicts = []) (r : Registry) :
    let g := ofList resources
    (∀ includes, g.registerEnvelopes includes r =
      .ok (r.registerAll (g.handed includes r g.resources))) ∧
    (∃ parts : List (Resource × List (String × Schema)),
      parts.map Prod.fst = g.resources.map Prod.snd ∧
      (∀ part ∈ parts, part.2.map Prod.fst = suffixes.tail.map (part.1.displayName ++ ·)) ∧
      ∀ includes, g.handed includes r g.resources = parts.flatMap fun part =>
        (part.1.name, rooted part.1 (if includes then inclusion (g.companions part.1) else none))
          :: part.2) ∧
    (∀ resource includes, (rooted resource includes).toNode.property? "includes" = includes) ∧
    ∀ resource,
      ((g.companions resource).Pairwise fun a b => a.name < b.name) ∧
      ∀ other, other ∈ g.companions resource ↔
        g.get? other.name = some other ∧ Relation.TransGen g.Related resource.name other.name := by
  intro g
  obtain ⟨parts, order, named, calls⟩ := g.handed_parts r g.resources
  exact ⟨fun includes => registerEnvelopes_handed settled includes r,
    ⟨parts, order, named, fun includes => calls includes r fun _ => rfl⟩, property?_rooted,
    fun resource => ⟨companions_ordered resources resource, mem_companions_iff resources resource⟩⟩

theorem includes_outcome_users :
    (ofList [samplePost, sampleUser]).conflicts = [] ∧
    ("User", rooted sampleUser (some (listOf [.ref "ArticleData", .ref "AccountData"]))) ∈
      (ofList [samplePost, sampleUser]).handed true Registry.empty
        (ofList [samplePost, sampleUser]).resources ∧
    ("User", rooted sampleUser none) ∈
      (ofList [samplePost, sampleUser]).handed false Registry.empty
        (ofList [samplePost, sampleUser]).resources := by
  obtain ⟨-, ⟨parts, order, -, calls⟩, -⟩ :=
    includes_outcome [samplePost, sampleUser] rfl Registry.empty
  have listed : sampleUser ∈ parts.map Prod.fst := by
    rw [order]
    exact List.mem_cons_of_mem _ List.mem_cons_self
  obtain ⟨part, member, same⟩ := List.mem_map.mp listed
  have root (includes : Bool) : ("User", rooted sampleUser (if includes then
      inclusion ((ofList [samplePost, sampleUser]).companions sampleUser) else none)) ∈
      (ofList [samplePost, sampleUser]).handed includes Registry.empty
        (ofList [samplePost, sampleUser]).resources := by
    rw [calls includes]
    refine List.mem_flatMap.mpr ⟨part, member, ?_⟩
    rw [same]
    exact List.mem_cons_self
  exact ⟨rfl, root true, root false⟩

end ResourceGraph

end ApiScribe
