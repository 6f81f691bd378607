import ApiScribe.Proofs.Resource.Envelopes
import ApiScribe.Proofs.Registry.Order

set_option autoImplicit false

namespace ApiScribe.ResourceGraph

open FirstWins

section Alike

variable {g h : ResourceGraph} (same : viewed Resource.view g.resources =
  viewed Resource.view h.resources)

include same

theorem get?_congr (name : String) : (g.get? name).map Resource.view =
    (h.get? name).map Resource.view := by
  rw [get?, get?, ← get?_viewed, ← get?_viewed, same]

theorem contains_congr (name : String) :
    Dict.contains g.resources name = Dict.contains h.resources name := by
  have found := congrArg Option.isSome (get?_congr same name)
  rwa [Option.isSome_map, Option.isSome_map] at found

theorem edges_congr : g.edges = h.edges := by
  have told (d : ResourceGraph) : d.edges = (viewed Resource.view d.resources).map fun e =>
      (e.2.1, (e.2.2.2.2.2.filter fun r => Dict.contains d.resources r.target).map
        Relation.target) := by
    simp [edges, viewed, Resource.view]
  rw [told g, told h, same]
  simp only [contains_congr same]

theorem members_congr (includes : Bool) {resource other : Resource}
    (named : resource.name = other.name) :
    g.members includes resource = h.members includes other := by
  rw [members, members, edges_congr same, named]

variable {r s : Registry} (shown : r.displayName = s.displayName)

include shown

theorem displayName_congr : g.displayName r = h.displayName s := by
  funext name
  have found := get?_congr same name
  rw [displayName, displayName]
  cases left : g.get? name with
  | none =>
    rw [left, Option.map_none] at found
    rw [Option.map_eq_none_iff.mp found.symm, shown]
  | some resource =>
    rw [left, Option.map_some] at found
    obtain ⟨other, right, sameView⟩ := Option.map_eq_some_iff.mp found.symm
    simp only [Resource.view, Prod.mk.injEq] at sameView
    simp only [right, Resource.displayName, sameView]

theorem viewed_envelopes {resource other : Resource}
    (alike : resource.view = other.view) (unnamed : resource.Unnamed) (otherUnnamed : other.Unnamed)
    (members : List String) :
    viewed Registry.view (g.envelopes r resource members) =
      viewed Registry.view (h.envelopes s other members) := by
  obtain ⟨name, custom, kind, attributes, relations⟩ := resource
  obtain ⟨name', custom', kind', attributes', relations'⟩ := other
  simp only [Resource.view, Prod.mk.injEq] at alike
  obtain ⟨rfl, rfl, rfl, content, rfl⟩ := alike
  -- The attributes are compared by content, and all else in the envelopes is the same.
  have attributesView : Registry.view (.plain attributes) = Registry.view (.plain attributes') := by
    simp only [Registry.view, Schema.content, content, Prod.mk.injEq, true_and]
    exact unnamed.trans otherUnnamed.symm
  simp only [viewed, envelopes, root, includesOf, relationships, identifierData,
    Resource.displayName, displayName_congr same shown, List.map_cons, List.map_nil,
    attributesView]

theorem allEnvelopes_subset (formed : g.WellFormed) (otherFormed : h.WellFormed) (includes : Bool) :
    viewed Registry.view (g.allEnvelopes includes r) ⊆
      viewed Registry.view (h.allEnvelopes includes s) := by
  intro item member
  obtain ⟨call, listed, rfl⟩ := List.mem_map.mp member
  obtain ⟨entry, present, here⟩ := List.mem_flatMap.mp listed
  -- The other graph has a resource that looks like this one, and so has its envelopes.
  have beside : (entry.1, entry.2.view) ∈ viewed Resource.view h.resources :=
    same ▸ List.mem_map_of_mem present
  obtain ⟨other, otherPresent, looks⟩ := List.mem_map.mp beside
  have alike : entry.2.view = other.2.view := (congrArg Prod.snd looks).symm
  have envelopes := viewed_envelopes same shown alike (formed.of_mem present).2
    (otherFormed.of_mem otherPresent).2 (g.members includes entry.2)
  rw [members_congr same includes (congrArg Prod.fst alike)] at envelopes here
  have found : (call.1, Registry.view call.2) ∈ viewed Registry.view
      (h.envelopes s other.2 (h.members includes other.2)) :=
    envelopes ▸ List.mem_map_of_mem here
  obtain ⟨otherCall, otherHere, sameCall⟩ := List.mem_map.mp found
  exact List.mem_map.mpr
    ⟨otherCall, List.mem_flatMap.mpr ⟨other, otherPresent, otherHere⟩, sameCall⟩

end Alike

theorem allEnvelopes_alike {g h : ResourceGraph}
    (same : viewed Resource.view g.resources = viewed Resource.view h.resources) {r s : Registry}
    (shown : r.displayName = s.displayName) (formed : g.WellFormed) (otherFormed : h.WellFormed)
    (includes : Bool) :
    Alike Registry.view (g.allEnvelopes includes r) (h.allEnvelopes includes s) := by
  intro item
  constructor
  · exact fun member => allEnvelopes_subset same shown formed otherFormed includes member
  · exact fun member => allEnvelopes_subset same.symm shown.symm otherFormed formed includes member

end ApiScribe.ResourceGraph
