import ApiScribe.Proofs.Resource.Envelopes
import ApiScribe.Proofs.Settling

set_option autoImplicit false

namespace ApiScribe

namespace Registry

theorem accounted_of_register_eq {r : Registry} {name : String} {schema : Schema}
    (unchanged : r.register name schema = r) :
    ∃ present, r.get? name = some present ∧
      (agrees present (schema.withDeclaredName name) = true ∨ name ∈ r.conflicts) := by
  rw [register] at unchanged
  cases found : Dict.get? r.entries name with
  | none =>
    simp only [found] at unchanged
    have added := congrArg (fun r => Dict.get? r.entries name) unchanged
    simp only [Dict.get?_insert_self, found] at added
    cases added
  | some present =>
    simp only [found] at unchanged
    refine ⟨present, found, ?_⟩
    split at unchanged
    next quiet =>
      rwa [Bool.or_eq_true, List.contains_iff_mem] at quiet
    next =>
      have longer := congrArg (fun r => r.conflicts.length) unchanged
      simp at longer

theorem registerAll_accounted (r : Registry) {calls : List (String × Schema)}
    {call : String × Schema} (member : call ∈ calls) :
    ∃ present, (r.registerAll calls).get? call.1 = some present ∧
      (agrees present (call.2.withDeclaredName call.1) = true ∨
        call.1 ∈ (r.registerAll calls).conflicts) := by
  obtain ⟨front, back, rfl⟩ := List.append_of_mem member
  apply accounted_of_register_eq
  rw [registerAll_append, registerAll, List.foldl_cons]
  exact (register_settles call.1 call.2).again _ _ ((registerAll_settles back).keeps _)

theorem registerAll_entries (r : Registry) {calls : List (String × Schema)}
    (known : ∀ call ∈ calls, ∃ present, r.get? call.1 = some present) :
    (r.registerAll calls).entries = r.entries := by
  induction calls generalizing r with
  | nil => rfl
  | cons call rest ih =>
    rw [List.forall_mem_cons] at known
    obtain ⟨⟨present, found⟩, later⟩ := known
    have step : (r.register call.1 call.2).entries = r.entries := by
      rw [get?] at found
      simp only [register, found]
      split_ifs <;> rfl
    have still : ∀ other ∈ rest,
        ∃ present, (r.register call.1 call.2).get? other.1 = some present := by
      simpa only [get?, step] using later
    rw [registerAll, List.foldl_cons]
    exact (ih _ still).trans step

theorem displayName_entries {a b : Registry} (same : a.entries = b.entries) (name : String) :
    a.displayName name = b.displayName name := by
  rw [displayName, displayName, get?, get?, same]

end Registry

namespace ResourceGraph

theorem ofList_of_mem {resources : List Resource} {e : String × Resource}
    (member : e ∈ (ofList resources).resources) :
    (ofList resources).get? e.2.name = some e.2 := by
  have found : (ofList resources).get? e.1 = some e.2 :=
    Dict.get?_of_mem (ofList_follows resources).sorted.nodup member
  rw [(ofList_declared found).1, found]

theorem allEnvelopes_congr {g : ResourceGraph}
    (declared : ∀ e ∈ g.resources, g.get? e.2.name = some e.2) {a b : Registry}
    (same : ∀ name, g.Sought name → a.displayName name = b.displayName name) (includes : Bool) :
    g.allEnvelopes includes a = g.allEnvelopes includes b := by
  apply List.flatMap_congr
  intro e listed
  exact envelopes_sought (declared e listed) same includes

theorem allEnvelopes_again {g : ResourceGraph}
    (declared : ∀ e ∈ g.resources, g.get? e.2.name = some e.2) (direct : g.Direct)
    (includes : Bool) (r : Registry) :
    g.allEnvelopes includes (r.registerAll (g.allEnvelopes includes r)) =
      g.allEnvelopes includes r := by
  apply allEnvelopes_congr declared
  intro name sought
  apply r.displayName_kept
  rintro call member rfl
  obtain ⟨e, listed, here⟩ := List.mem_flatMap.mp member
  exact envelopes_plain direct r (declared e listed) _ call here sought

-- The first call leaves an entry under each name, and the names do not depend on the registry.
theorem envelopes_known {g : ResourceGraph} {includes : Bool} {before after : Registry}
    (first : g.registerEnvelopes includes before = .ok after) (r : Registry) :
    ∀ e ∈ g.resources, ∀ call ∈ g.envelopes r e.2 (g.members includes e.2),
      ∃ present, after.get? call.1 = some present := by
  let step (registry : Registry) (e : String × Resource) : Registry :=
    registry.registerAll (g.envelopes registry e.2 (g.members includes e.2))
  have kept (resources : List (String × Resource)) (r' : Registry) :
      r'.store.Within (resources.foldl step r').store := by
    induction resources generalizing r' with
    | nil => exact r'.store.within_refl
    | cons e rest ih =>
      exact FirstWins.Store.Within.trans ((Registry.registerAll_settles _).keeps r') (ih (step r' e))
  have result : g.resources.foldl step before = after := by
    rw [registerEnvelopes] at first
    split at first
    · cases first
    · exact Except.ok.inj first
  intro e listed call member
  obtain ⟨front, back, parts⟩ := List.append_of_mem listed
  have named : call.1 ∈ (g.envelopes r e.2 (g.members includes e.2)).map Prod.fst :=
    List.mem_map_of_mem member
  obtain ⟨other, handed, same⟩ : ∃ other ∈ g.envelopes (front.foldl step before) e.2
      (g.members includes e.2), other.1 = call.1 := List.mem_map.mp named
  obtain ⟨present, found, -⟩ := (front.foldl step before).registerAll_accounted handed
  refine ⟨present, ?_⟩
  rw [← result, parts, List.foldl_append, List.foldl_cons, ← same]
  exact (kept back _).entries _ _ found

-- Once every name has an entry, a call can only add to the conflicts.
theorem registerEnvelopes_known {g : ResourceGraph} {includes : Bool} {r r' : Registry}
    (declared : ∀ e ∈ g.resources, g.get? e.2.name = some e.2) (settled : g.conflicts = [])
    (known : ∀ r' : Registry, ∀ e ∈ g.resources,
      ∀ call ∈ g.envelopes r' e.2 (g.members includes e.2),
        ∃ present, r.get? call.1 = some present)
    (same : r'.entries = r.entries) :
    g.registerEnvelopes includes r' = .ok (r'.registerAll (g.allEnvelopes includes r)) ∧
      (r'.registerAll (g.allEnvelopes includes r)).entries = r.entries := by
  have held {s : Registry} {calls : List (String × Schema)} (at_r : s.entries = r.entries)
      (listed : ∀ call ∈ calls, ∃ present, r.get? call.1 = some present) :
      (s.registerAll calls).entries = r.entries := by
    refine (s.registerAll_entries ?_).trans at_r
    simpa only [Registry.get?, at_r] using listed
  constructor
  · rw [← allEnvelopes_congr declared fun name _ => Registry.displayName_entries same name]
    apply registerEnvelopes_steady declared settled (fun s => s.entries = r.entries) same
    · exact fun s at_r name _ => Registry.displayName_entries (at_r.trans same.symm) name
    · exact fun s at_r e listed => held at_r (known r' e listed)
  · apply held same
    intro call member
    obtain ⟨e, listed, here⟩ := List.mem_flatMap.mp member
    exact known r e listed call here

/-- Registering the envelopes of a graph without conflicts succeeds in every registry. Doing it again
leaves the schemas as they are, and from then on nothing changes. The conflicts are those of the first
time as well, unless a relation leads to attributes that have a custom name of their own: a relation
that was read before those were registered refers to another name than one that is read after. -/
theorem registerEnvelopes_again (resources : List Resource)
    (settled : (ofList resources).conflicts = []) (includes : Bool) (r : Registry) :
    let g := ofList resources
    ∃ after again, g.registerEnvelopes includes r = .ok after ∧
      g.registerEnvelopes includes after = .ok again ∧
      again.entries = after.entries ∧ after.conflicts ⊆ again.conflicts ∧
      g.registerEnvelopes includes again = .ok again ∧
      (g.Direct → again = after ∧
        ∀ call ∈ g.allEnvelopes includes r, ∃ present, after.get? call.1 = some present ∧
          (Registry.agrees present (call.2.withDeclaredName call.1) = true ∨
            call.1 ∈ after.conflicts)) := by
  intro g
  have declared : ∀ e ∈ g.resources, g.get? e.2.name = some e.2 :=
    fun _ member => ofList_of_mem member
  obtain ⟨after, first⟩ : ∃ after, g.registerEnvelopes includes r = .ok after := by
    rw [registerEnvelopes, settled]
    exact ⟨_, rfl⟩
  have known := envelopes_known first
  have second := registerEnvelopes_known declared settled known (Eq.refl after.entries)
  have third := (registerEnvelopes_known declared settled known second.2).1
  have settles := Registry.registerAll_settles (g.allEnvelopes includes after)
  rw [settles.again after _ (FirstWins.Store.within_refl _)] at third
  refine ⟨after, _, first, second.1, second.2, (settles.keeps after).conflicts, third, ?_⟩
  intro direct
  have made := (registerEnvelopes_direct declared direct settled includes r).symm.trans first
  obtain rfl := Except.ok.inj made
  refine ⟨?_, fun _ member => r.registerAll_accounted member⟩
  rw [allEnvelopes_again declared direct]
  exact (Registry.registerAll_settles _).again r _ (FirstWins.Store.within_refl _)

-- The album comes before the user, whose attributes have a custom name of their own.
def sheetAlbum : Resource := ⟨"Album", none, "albums", .object, [⟨"sheet", "UserAttributes", false⟩]⟩

def detailedUser : Resource :=
  ⟨"User", none, "users", { SchemaNode.object with names := { custom := some "Details" } }, []⟩

theorem second_call_notes_more :
    ∃ first second, (ofList [sheetAlbum, detailedUser]).conflicts = [] ∧
      (ofList [sheetAlbum, detailedUser]).registerEnvelopes true Registry.empty = .ok first ∧
      (ofList [sheetAlbum, detailedUser]).registerEnvelopes true first = .ok second ∧
      first.conflicts = [] ∧ second.conflicts = ["AlbumData", "AlbumRelationships"] :=
  ⟨_, _, rfl, rfl, rfl, rfl, rfl⟩

def notedPost : Resource :=
  ⟨"Post", none, "posts", .object,
    [⟨"note", "Note", false⟩, ⟨"sheet", "PostAttributes", true⟩, ⟨"author", "User", false⟩]⟩

def noteSchemas : List (String × Schema) :=
  [("Note", .plain { type := some "string", names := { custom := some "Memo" } }),
    ("PostData", .plain { type := some "string" })]

theorem registerEnvelopes_again_notes :
    (ofList [notedPost, sampleUser]).conflicts = [] ∧ (ofList [notedPost, sampleUser]).Direct ∧
    ∃ after, (ofList [notedPost, sampleUser]).registerEnvelopes true
        (Registry.empty.registerAll noteSchemas) = .ok after ∧
      after.conflicts = ["PostData"] ∧
      (ofList [notedPost, sampleUser]).registerEnvelopes true after = .ok after := by
  have direct : (ofList [notedPost, sampleUser]).Direct := by
    apply (ofList_wellFormed _).direct
    intro resource member
    simp only [List.mem_cons, List.not_mem_nil, or_false] at member
    rcases member with rfl | rfl <;> rfl
  obtain ⟨after, again, first, second, -, -, -, kept⟩ := registerEnvelopes_again
    [notedPost, sampleUser] rfl true (Registry.empty.registerAll noteSchemas)
  have noted : ((ofList [notedPost, sampleUser]).registerEnvelopes true
      (Registry.empty.registerAll noteSchemas)).map Registry.conflicts = .ok ["PostData"] := rfl
  rw [first] at noted
  rw [(kept direct).1] at second
  exact ⟨rfl, direct, after, first, Except.ok.inj noted, second⟩

end ResourceGraph

end ApiScribe
